import SignedHttp.Number.Binary64
import SignedHttp.Text.Decimal

/-!
# Notations of whole numbers

A whole number with a decimal point: in fixed notation all its digits stand before the
point, in scientific notation one of them, with a power of ten behind. Digits that are
left out are rounded, a tie to the even digit. The general notation has a number of
significant digits and takes the scientific form only for a power of ten that they do not
reach.

Key definitions: `significant`, `fixed`, `scientific`, `general`.
-/

namespace SignedHttp.Number

/-- The first digits of a number, rounded to the count, with zeros behind digits that run
out; and the power of ten of the first digit. -/
def significant (count n : Nat) : List Char × Nat :=
  let digits := Text.Decimal.digits n
  if digits.length ≤ count then
    (digits ++ List.replicate (count - digits.length) '0', digits.length - 1)
  else
    let unit := Nat.pow 10 (digits.length - count)
    let kept := Text.Decimal.digits (roundHalfEven (mkRat (.ofNat n) unit)).toNat
    if count < kept.length then (kept.take count, digits.length) else (kept, digits.length - 1)

/-- Digits behind a point. Without digits the point is there only if it is kept. -/
def fraction (keepsPoint : Bool) (digits : List Char) : List Char :=
  if digits.isEmpty && !keepsPoint then [] else '.' :: digits

/-- A power of ten behind its mark, in at least two digits. -/
def powerOfTen (mark : Char) (e : Nat) : List Char :=
  mark :: '+' :: Text.Decimal.padded 2 e

def fixed (keepsPoint : Bool) (places n : Nat) : List Char :=
  Text.Decimal.digits n ++ fraction keepsPoint (List.replicate places '0')

/-- The number with one digit before the point and `places` behind it. -/
def scientific (keepsPoint : Bool) (mark : Char) (places n : Nat) : List Char :=
  let (digits, e) := significant (places + 1) n
  digits.take 1 ++ fraction keepsPoint (digits.drop 1) ++ powerOfTen mark e

/-- The number with as many significant digits as the count says, but at least one. If
the zeros at the end of the fraction are not kept, a fraction of zeros alone goes with its
point. -/
def general (keepsZeros : Bool) (mark : Char) (count n : Nat) : List Char :=
  let count := max 1 count
  let (digits, e) := significant count n
  let ending (digits : List Char) : List Char :=
    fraction keepsZeros
      (if keepsZeros then digits else (digits.reverse.dropWhile (· = '0')).reverse)
  if e < count then digits.take (e + 1) ++ ending (digits.drop (e + 1))
  else digits.take 1 ++ ending (digits.drop 1) ++ powerOfTen mark e

end SignedHttp.Number
