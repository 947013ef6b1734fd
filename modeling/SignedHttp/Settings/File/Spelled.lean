import SignedHttp.HostName.Punycode
import SignedHttp.Settings.Defect
import SignedHttp.Text.Ascii
import SignedHttp.Text.Grid

/-!
# Files that are spelled

A settings file can be read as the spelling of a text, as a label of a host name is: up to its
last hyphen it is ASCII, and the digits behind the hyphen say which other characters go in and
where. A code point that is no character is put in as a replacement character.

Key definitions: `Spelled.readFrom`, `Spelled.decode`.
-/

namespace SignedHttp.Settings.File.Spelled

open HostName (Punycode.Reading)
open HostName.Punycode

/-- The text with the code points put in that digits spell, from a code point and a position
on. -/
def readFrom (r : Reading) (n position : Nat) (s : List Nat) :
    List Char → Except SourceDefect (List Nat)
  | [] => if r.place = 0 then .ok s else .error .cutSpelling
  | c :: rest =>
    match digit? c with
    | none => .error (.noSpellingDigit c.toUpper)
    | some d =>
      let t := threshold r.bias r.place
      let value := r.value + d * r.weight
      let places := s.length + 1
      let n' := n + (position + value) / places
      let position' := (position + value) % places
      if t ≤ d then
        readFrom { r with place := r.place + 1, weight := r.weight * (36 - t), value := value }
          n position s rest
      else if maxPoint < n' then .error (.wideSpelling n')
      else
        readFrom ⟨adapt value places r.isFirst, places, false, 0, 1, 0⟩ n' (position' + 1)
          (s.take position' ++ n' :: s.drop position') rest

def charOf (n : Nat) : Char :=
  if n.isValidChar then .ofNat n else Text.Grid.gap

def ascii (bytes : List UInt8) : Except SourceDefect (List Char) :=
  (Text.Ascii.decodeFrom "ascii" .notAscii 0 bytes).mapError .undecodable

def decode (bytes : List UInt8) : Except SourceDefect String := do
  let isDigit (byte : UInt8) : Bool := byte != 0x2D
  let basic ← ascii ((bytes.reverse.dropWhile isDigit).drop 1).reverse
  let digits ← ascii (bytes.reverse.takeWhile isDigit).reverse
  let s ← readFrom ⟨firstBias, basic.length, true, 0, 1, 0⟩ 0x80 0 (basic.map Char.toNat) digits
  return .ofList (s.map charOf)

end SignedHttp.Settings.File.Spelled
