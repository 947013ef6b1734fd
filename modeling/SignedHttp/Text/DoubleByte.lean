import SignedHttp.Text.DoubleByte.Pair
import SignedHttp.Text.Undecodable

/-!
# Characters of two bytes

In the encodings of East Asia the first 128 bytes are ASCII and the others stand in pairs for a
character each. Some bytes are characters by themselves, and two encodings have characters of
three and of four bytes. What no character is written as is refused at its first byte. One
encoding has ASCII bytes alone and shows by a tilde and a brace where pairs begin and end.

Key definitions: `DoubleByte.next`, `DoubleByte.decodeFrom`, `DoubleByte.tildeFrom`.
-/

namespace SignedHttp.Text.DoubleByte

inductive Start where
  /-- A character that takes some more bytes than the first. -/
  | char (c : Char) (more : Nat)
  | illegal
  /-- A character that the bytes end in. -/
  | cut
deriving DecidableEq, Repr

/-- The character of one byte that is not ASCII, if it can be one. -/
def single? (encoding : DoubleByte) (a : Nat) : Option Char :=
  match encoding with
  | shiftJis _ => halfWidth? a
  | shiftJisVendor =>
    if a = 0x80 then some '\x80'
    else if a = 0xA0 then some '\uf8f0'
    else if 0xFD ≤ a then some (.ofNat (0xF8F1 + (a - 0xFD)))
    else halfWidth? a
  | _ => none

/-- Whether a byte that is not ASCII can begin a character of several bytes. -/
def isLead (encoding : DoubleByte) (a : Nat) : Bool :=
  match encoding with
  | shiftJis hasYen =>
    (0x81 ≤ a && a ≤ 0x9F) || (0xE0 ≤ a && a ≤ if hasYen then 0xFC else 0xEA)
  | _ => true

def startOfPair (encoding : DoubleByte) (a b : Nat) : Start :=
  (encoding.pair? a b).elim .illegal (.char · 1)

/-- What the bytes begin with. Of the characters of four bytes, which are a pair and a digit and
again a pair and a digit, and of the syllables in parts, which are four pairs, only the beginning
is told: neither is ever a text in UTF-8. -/
def next (encoding : DoubleByte) (a : Nat) (s : List UInt8) : Start :=
  if a < 0x80 then
    if encoding = .shiftJis true && a = 0x5C then .char '¥' 0
    else if encoding = .shiftJis true && a = 0x7E then .char '‾' 0
    else .char (.ofNat a) 0
  else match encoding.single? a with
    | some c => .char c 0
    | none =>
      if !encoding.isLead a then .illegal
      else match encoding, s with
        | _, [] => .cut
        | eucJapanese, b :: s =>
          if a = 0x8E then (halfWidth? b.toNat).elim .illegal (.char · 1)
          else if a = 0x8F then
            match s with
            | [] => .cut
            | c :: _ =>
              (inRows? CharacterSet.japaneseSupplement b.toNat c.toNat).elim .illegal (.char · 2)
          else startOfPair encoding a b.toNat
        | chineseLast, b :: s =>
          if 0x30 ≤ b && b ≤ 0x39 then if s.length < 2 then .cut else .illegal
          else startOfPair encoding a b.toNat
        | korean, b :: s =>
          if (a, b.toNat) = filler then if s.length < 6 then .cut else .illegal
          else startOfPair encoding a b.toNat
        | _, b :: _ => startOfPair encoding a b.toNat

def decodeFrom (encoding : DoubleByte) (name : String) (i : Nat) :
    List UInt8 → Except Undecodable (List Char)
  | [] => .ok []
  | a :: s =>
    match encoding.next a.toNat s with
    | .char c more => (c :: ·) <$> decodeFrom encoding name (i + 1 + more) (s.drop more)
    | .illegal => .error ⟨name, i, a, 1, .illegalSequence⟩
    | .cut => .error ⟨name, i, a, s.length + 1, .cutSequence⟩
termination_by bytes => bytes.length
decreasing_by
  simp only [List.length_cons, List.length_drop]
  omega

/-- The characters that the bytes from position `i` on are where a tilde parts ASCII from pairs,
which lie in ASCII too. Between a tilde and a line break there is nothing. -/
def tildeFrom (isPaired : Bool) (i : Nat) : List UInt8 → Except Undecodable (List Char)
  | [] => .ok []
  | a :: s =>
    let c := Char.ofNat a.toNat
    if 0x80 ≤ a then .error ⟨"hz", i, a, 1, .illegalSequence⟩
    else if c != '~' && !isPaired then (c :: ·) <$> tildeFrom false (i + 1) s
    else match s with
      | [] => .error ⟨"hz", i, a, 1, .cutSequence⟩
      | b :: s =>
        let d := Char.ofNat b.toNat
        if c != '~' then
          match inRows? CharacterSet.chinese (a.toNat + 0x80) (b.toNat + 0x80) with
          | some c => (c :: ·) <$> tildeFrom true (i + 2) s
          | none => .error ⟨"hz", i, a, 1, .illegalSequence⟩
        else if isPaired && d = '\x7d' then tildeFrom false (i + 2) s
        else if !isPaired && d = '\x7b' then tildeFrom true (i + 2) s
        else if !isPaired && d = '\n' then tildeFrom false (i + 2) s
        else if !isPaired && d = '~' then ('~' :: ·) <$> tildeFrom false (i + 2) s
        else .error ⟨"hz", i, a, 1, .illegalSequence⟩

end SignedHttp.Text.DoubleByte
