/-!
# Decimal numerals

Integers are written with a minus sign when negative and no leading zero. A numeral
of more than `maxDigits` digits is not written at all: `numeral?` has no text for it.

Key definitions: `numeral`, `isLong`, `numeral?`, `value`, `padded`.
-/

namespace SignedHttp.Text.Decimal

def maxDigits : Nat := 4300

def digits (n : Nat) : List Char :=
  Nat.toDigits 10 n

def numeral (n : Int) : String :=
  .ofList (if n < 0 then '-' :: digits n.natAbs else digits n.natAbs)

def isLong (n : Int) : Bool :=
  maxDigits < (digits n.natAbs).length

/-- The numeral of an integer, unless it is too long to be written. -/
def numeral? (n : Int) : Option String :=
  if isLong n then none else some (numeral n)

def value (digits : List Char) : Nat :=
  digits.foldl (fun n c => 10 * n + (c.toNat - '0'.toNat)) 0

/-- The digits of `n`, with zeros in front up to the width. -/
def padded (width n : Nat) : List Char :=
  let s := digits n
  List.replicate (width - s.length) '0' ++ s

end SignedHttp.Text.Decimal
