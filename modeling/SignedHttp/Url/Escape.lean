import SignedHttp.Text.Hex
import SignedHttp.Text.Utf8

/-!
# Percent escapes in addresses

Each part of an address lets some characters stand and writes the others as the bytes
of their UTF-8 form, a percent sign and two capital digits each. The percent sign may
stand everywhere, so escapes that are already there are kept.

Key definitions: `escape`, `mayStandInPath`, `mayStandInQuery`, `mayStandInFragment`,
`mayStandInUser`, `mayStandInHost`.
-/

namespace SignedHttp.Url

def escapeByte (b : UInt8) : List Char :=
  ['%', Text.Hex.capitalDigit (b.toNat / 16), Text.Hex.capitalDigit (b.toNat % 16)]

def escape (mayStand : Char → Bool) (s : List Char) : List Char :=
  s.flatMap fun c => if mayStand c then [c] else (Text.Utf8.encodeChar c).flatMap escapeByte

def printableExcept (others : String) (c : Char) : Bool :=
  ' ' ≤ c && c ≤ '~' && !others.toList.contains c

def mayStandInFragment : Char → Bool :=
  printableExcept " \"<>\x60"

def mayStandInQuery : Char → Bool :=
  printableExcept " \"#<>"

def mayStandInPath : Char → Bool :=
  printableExcept " \"#<>?\x60\x7b\x7d"

def mayStandInUser : Char → Bool :=
  printableExcept " \"#<>?\x60\x7b\x7d/;=@[\\]^|"

def mayStandInHost (c : Char) : Bool :=
  c.isAlphanum || "-._~!$&'()*+,;=\"\x60\x7b\x7d%|\\".toList.contains c

end SignedHttp.Url
