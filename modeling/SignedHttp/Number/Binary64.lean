import SignedHttp.Text.Decimal
import SignedHttp.Text.Digit

/-!
# Doubles as exact numbers

A double is a not-a-number, an infinity, or the rational that it denotes; the sign of
zero makes no difference here and is dropped. `nearest` rounds a rational to the
nearest double, a tie to the even significand: it finds the spacing of the doubles
around the number, at least two to the power of -1074, and rounds to a multiple of it.
What reaches two to the power of 1024 is infinite.

Key definitions: `Binary64`, `roundHalfEven`, `nearest`, `Binary64.times`,
`Binary64.ofLiteral?`.
-/

namespace SignedHttp.Number

inductive Binary64 where
  | nan
  | infinite (negative : Bool)
  | finite (value : Rat)
deriving DecidableEq, Repr

/-- The nearest integer; of two, the even one. -/
def roundHalfEven (q : Rat) : Int :=
  let floor := q.num / q.den
  let twice := 2 * (q.num % q.den)
  if twice < q.den then floor
  else if q.den < twice then floor + 1
  else if floor % 2 = 0 then floor
  else floor + 1

def twoPow : Int → Rat
  | .ofNat n => mkRat (.ofNat (Nat.pow 2 n)) 1
  | .negSucc n => mkRat 1 (Nat.pow 2 (n + 1))

/-- The greatest `k` whose power of two is at most the positive number `q`. -/
def binaryExponent (q : Rat) : Int :=
  let k := Int.ofNat q.num.natAbs.log2 - Int.ofNat q.den.log2
  if twoPow k ≤ q then k else k - 1

/-- The exponent of the spacing of the doubles around `q`. -/
def spacing (q : Rat) : Int :=
  max (-1074) (binaryExponent q.abs - 52)

def nearest (q : Rat) : Binary64 :=
  if q.num = 0 then .finite q
  else
    let unit := twoPow (spacing q)
    let value := Rat.ofInt (roundHalfEven (q / unit)) * unit
    if twoPow 1024 ≤ value.abs then .infinite (q.num < 0) else .finite value

def Binary64.times (factor : Nat) : Binary64 → Binary64
  | .nan => .nan
  | .infinite negative => .infinite negative
  | .finite value => nearest (value * Rat.ofInt (.ofNat factor))

/-- The integer next to `q` on the side of zero. -/
def truncate (q : Rat) : Int :=
  q.num.tdiv (.ofNat q.den)

/-! ### Literals -/

/-- `digits` times ten to the power of `exponent`, as a double. A power far outside the
range of doubles is not computed: the value is infinite or zero whatever the digits. -/
def scaled (negative : Bool) (digits : List Char) (exponent : Int) : Binary64 :=
  let n := Text.Decimal.value digits
  let signed := if negative then -Int.ofNat n else Int.ofNat n
  if n = 0 || exponent + digits.length < -400 then .finite (Rat.ofInt 0)
  else if 400 < exponent then .infinite negative
  else match exponent with
    | .ofNat k => nearest (mkRat (signed * .ofNat (Nat.pow 10 k)) 1)
    | .negSucc k => nearest (mkRat signed (Nat.pow 10 (k + 1)))

/-- The exponent part of a literal, if it is one or is missing. -/
def exponent? : List Char → Option Int
  | [] => some 0
  | mark :: rest =>
    let (negative, digits) := match rest with
      | '-' :: digits => (true, digits)
      | '+' :: digits => (false, digits)
      | digits => (false, digits)
    if (mark = 'e' || mark = 'E') && !digits.isEmpty && digits.all Char.isDigit then
      let n := Int.ofNat (Text.Decimal.value digits)
      some (if negative then -n else n)
    else none

def magnitude? (negative : Bool) (s : List Char) : Option Binary64 :=
  let name := s.map Char.toLower
  if name = "nan".toList then some .nan
  else if name = "inf".toList || name = "infinity".toList then some (.infinite negative)
  else
    let whole := s.takeWhile Char.isDigit
    let (fraction, rest) := match s.dropWhile Char.isDigit with
      | '.' :: rest => (rest.takeWhile Char.isDigit, rest.dropWhile Char.isDigit)
      | rest => ([], rest)
    if whole.isEmpty && fraction.isEmpty then none
    else (exponent? rest).map fun e =>
      scaled negative (whole ++ fraction) (e - Int.ofNat fraction.length)

/-- The double that a literal denotes: a decimal, or the name of a special value, with
an optional sign. Blanks may stand around it and low lines between digits. -/
def Binary64.ofLiteral? (s : String) : Option Binary64 :=
  match Text.plainNumeral? s.toList with
  | none => none
  | some ('-' :: s) => magnitude? true s
  | some ('+' :: s) => magnitude? false s
  | some s => magnitude? false s

end SignedHttp.Number
