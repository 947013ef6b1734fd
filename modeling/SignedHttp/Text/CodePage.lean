import SignedHttp.Text.Grid
import SignedHttp.Text.Undecodable

/-!
# Bytes as characters of a code page

In a code page each character is one byte. The first bytes are the characters of their
numbers, up to a byte that the page says; the others are its own characters, in their order.

Key definitions: `CodePage`, `CodePage.char?`, `CodePage.decode`.
-/

namespace SignedHttp.Text

/-- A code page: the first byte that is not the character of its number, and the characters
from it on. -/
structure CodePage where
  first : Nat
  rows : List String
deriving DecidableEq, Repr

namespace CodePage

def characters (page : CodePage) : Grid :=
  .ofRows [String.join page.rows]

def char? (page : CodePage) (byte : UInt8) : Option Char :=
  if byte.toNat < page.first then some (.ofNat byte.toNat)
  else page.characters.char? 0 (byte.toNat - page.first)

/-- The characters that the bytes from position `i` on are. -/
def decodeFrom (page : CodePage) (i : Nat) : List UInt8 → Except Undecodable (List Char)
  | [] => .ok []
  | byte :: bytes =>
    match page.char? byte with
    | some c => (c :: ·) <$> page.decodeFrom (i + 1) bytes
    | none => .error ⟨"charmap", i, byte, 1, .noCharacter⟩

def decode (page : CodePage) (bytes : List UInt8) : Except Undecodable String :=
  String.ofList <$> page.decodeFrom 0 bytes

end CodePage

end SignedHttp.Text
