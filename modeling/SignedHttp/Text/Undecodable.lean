import SignedHttp.Text.Hex

/-!
# Bytes that are no text

Most encodings refuse some bytes. A refusal says in which encoding the bytes were read, where
the bytes that do not fit start, and how many they are.

Key definitions: `Undecodable`, `Undecodable.message`.
-/

namespace SignedHttp.Text

inductive Undecodable.Cause where
  | notAscii
  | noCharacter
  | illegalSequence
  | cutSequence
  | cutUnit
  /-- The bytes end between the two halves of a character. -/
  | cutPair
  /-- The first half of a character is followed by no second one. -/
  | openPair
  /-- A second half of a character follows no first one. -/
  | loneHalf
  | tooGreat
  | surrogate
  /-- The byte stands for no character outside of digits. -/
  | special
  | noDigits
  /-- The digits end inside a character. -/
  | cutDigits
  /-- The last digit has bits left that are not zero. -/
  | padding
  /-- The bytes end inside the digits of a character. -/
  | openDigits
  | loneBackslash
  /-- An escape has fewer digits than it needs, as this pattern shows. -/
  | shortEscape (pattern : String)
  /-- An escape names a number greater than every code point. -/
  | noCodePoint
  /-- A long escape of a raw text names a number greater than every code point. -/
  | noRawCodePoint
  | noName
  | unknownName
deriving DecidableEq, Repr

/-- A sequence of bytes that is no text in an encoding: where it starts, its first byte and its
length. -/
structure Undecodable where
  encoding : String
  position : Nat
  lead : UInt8
  length : Nat
  cause : Undecodable.Cause
deriving DecidableEq, Repr

namespace Undecodable

def Cause.message : Cause → String
  | .notAscii => "ordinal not in range(128)"
  | .noCharacter => "character maps to <undefined>"
  | .illegalSequence => "illegal multibyte sequence"
  | .cutSequence => "incomplete multibyte sequence"
  | .cutUnit => "truncated data"
  | .cutPair => "unexpected end of data"
  | .openPair => "illegal UTF-16 surrogate"
  | .loneHalf => "illegal encoding"
  | .tooGreat => "code point not in range(0x110000)"
  | .surrogate => "code point in surrogate code point range(0xd800, 0xe000)"
  | .special => "unexpected special character"
  | .noDigits => "ill-formed sequence"
  | .cutDigits => "partial character in shift sequence"
  | .padding => "non-zero padding bits in shift sequence"
  | .openDigits => "unterminated shift sequence"
  | .loneBackslash => "\\ at end of string"
  | .shortEscape pattern => "truncated \\" ++ pattern ++ " escape"
  | .noCodePoint => "illegal Unicode character"
  | .noRawCodePoint => "\\Uxxxxxxxx out of range"
  | .noName => "malformed \\N character escape"
  | .unknownName => "unknown Unicode character name"

/-- The wording of a refusal: one byte is shown, several are placed. -/
def message (e : Undecodable) : String :=
  let place :=
    if e.length = 1 then
      "byte 0x" ++ .ofList (Hex.encode [e.lead]) ++ " in position " ++ toString e.position
    else
      "bytes in position " ++ toString e.position ++ "-" ++ toString (e.position + (e.length - 1))
  "'" ++ e.encoding ++ "' codec can't decode " ++ place ++ ": " ++ e.cause.message

end Undecodable

end SignedHttp.Text
