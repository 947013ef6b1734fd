import SignedHttp.Text.Blank

/-!
# Numerals as they are typed

A number may be typed in the decimal digits of any script, with blanks around it and with
low lines between its digits. `plainNumeral?` brings it into the form that a reader of
ASCII digits knows; it leaves all other characters to that reader.

Key definitions: `digitValue?`, `asciiDigit`, `plainNumeral?`.
-/

namespace SignedHttp.Text

/-- The zeros of the scripts that write numbers in tens; the nine other digits follow
each of them. The data are those of the character database, version 14. -/
def zeros : List Nat := [
  0x30, 0x660, 0x6F0, 0x7C0, 0x966, 0x9E6, 0xA66, 0xAE6, 0xB66, 0xBE6, 0xC66, 0xCE6, 0xD66, 0xDE6,
  0xE50, 0xED0, 0xF20, 0x1040, 0x1090, 0x17E0, 0x1810, 0x1946, 0x19D0, 0x1A80, 0x1A90, 0x1B50,
  0x1BB0, 0x1C40, 0x1C50, 0xA620, 0xA8D0, 0xA900, 0xA9D0, 0xA9F0, 0xAA50, 0xABF0, 0xFF10, 0x104A0,
  0x10D30, 0x11066, 0x110F0, 0x11136, 0x111D0, 0x112F0, 0x11450, 0x114D0, 0x11650, 0x116C0,
  0x11730, 0x118E0, 0x11950, 0x11C50, 0x11D50, 0x11DA0, 0x16A60, 0x16AC0, 0x16B50, 0x1D7CE,
  0x1D7D8, 0x1D7E2, 0x1D7EC, 0x1D7F6, 0x1E140, 0x1E2F0, 0x1E950, 0x1FBF0]

def digitValue? (c : Char) : Option Nat :=
  (zeros.find? fun first => first ≤ c.toNat && c.toNat ≤ first + 9).map (c.toNat - ·)

def asciiDigit (c : Char) : Char :=
  match digitValue? c with
  | some n => .ofNat (0x30 + n)
  | none => c

/-- A blank that may stand around a numeral: all but the information separators. -/
def isNumeralBlank (c : Char) : Bool :=
  isBlank c && !('\x1c' ≤ c && c ≤ '\x1f')

def trimNumeral (s : List Char) : List Char :=
  ((s.dropWhile isNumeralBlank).reverse.dropWhile isNumeralBlank).reverse

/-- The text, behind a digit or not, without its low lines. Each of them must stand
between two digits. -/
def joinDigits? (behindDigit : Bool) : List Char → Option (List Char)
  | [] => some []
  | '_' :: s =>
    if behindDigit && s.head?.any Char.isDigit then joinDigits? false s else none
  | c :: s => (joinDigits? c.isDigit s).map (c :: ·)

/-- A numeral with ASCII digits alone, without low lines and blanks around it. -/
def plainNumeral? (s : List Char) : Option (List Char) :=
  joinDigits? false ((trimNumeral s).map asciiDigit)

end SignedHttp.Text
