import SignedHttp.Log.Placeholder
import SignedHttp.Log.Value
import SignedHttp.Number.Notation

/-!
# Conversions of values

What the letter of a placeholder makes of a value: `s` its text, `r` and `a` its literal,
`d`, `i` and `u` its decimal numeral, `x`, `X` and `o` its numeral in another base, the
letters from `e` to `G` its notation with a point, and `c` one character. The precision
cuts a text, fills a numeral up with zeros, and says the digits of a notation. Then the
value is laid out in its width, and zeros may fill up a number. What comes out is a list of
code points, because a number given to `c` can be that of a surrogate.

Key definitions: `Shape`, `Layout`, `Layout.text`, `Shape.convert`.
-/

namespace SignedHttp.Log

/-- A placeholder whose width and precision are known. -/
structure Shape where
  flags : Flags
  width : Nat
  precision : Option Nat
  letter : Char
  letterIndex : Nat

structure Layout where
  sign : List Char := []
  /-- What says the base of a numeral. -/
  base : List Char := []
  body : List Nat
  isNumber : Bool := false

/-- The most characters that one placeholder can take. -/
def memory : Nat := 100000000

/-- Refuses an amount of characters that does not fit into memory. -/
def checkMemory (n : Nat) : Except TemplateDefect Unit :=
  if memory < n then .error .outOfMemory else .ok ()

/-- The parts in a width: blanks stand around a value, and zeros inside a number. -/
def Layout.text (layout : Layout) (flags : Flags) (width : Nat) : List Nat :=
  let start := Text.points (layout.sign ++ layout.base)
  let space := width - (start.length + layout.body.length)
  if flags.left then start ++ layout.body ++ List.replicate space ' '.toNat
  else if flags.zeros && layout.isNumber then
    start ++ List.replicate space '0'.toNat ++ layout.body
  else List.replicate space ' '.toNat ++ start ++ layout.body

namespace Shape

variable (shape : Shape)

def cut (s : List Nat) : Layout :=
  { body := match shape.precision with
      | some n => s.take n
      | none => s }

def signOf (n : Int) : List Char :=
  if n < 0 then ['-']
  else if shape.flags.plus then ['+']
  else if shape.flags.blank then [' ']
  else []

def number (n : Int) (base body : List Char) : Layout :=
  ⟨shape.signOf n, base, Text.points body, true⟩

/-- The most digits that a precision can ask for in a numeral. -/
def maxPrecision : Nat := 0x7FFFFFFC

/-- The digits with zeros in front up to the precision. -/
def fill (digits : List Char) : List Char :=
  List.replicate (shape.precision.getD 0 - digits.length) '0' ++ digits

/-- The numeral of an integer in the base of the letter. -/
def numeral (n : Int) : Except Fault Layout := do
  if maxPrecision < shape.precision.getD 0 then throw (.invalidTemplate .tooManyDigits)
  (checkMemory (shape.precision.getD 0)).mapError .invalidTemplate
  let base := if shape.flags.alternate then ['0', shape.letter] else []
  match shape.letter with
  | 'x' => return shape.number n base (shape.fill (Nat.toDigits 16 n.natAbs))
  | 'X' =>
    return shape.number n base (shape.fill ((Nat.toDigits 16 n.natAbs).map Char.toUpper))
  | 'o' => return shape.number n base (shape.fill (Nat.toDigits 8 n.natAbs))
  | _ =>
    if Text.Decimal.isLong n then throw .longNumeral
    return shape.number n [] (shape.fill (Text.Decimal.digits n.natAbs))

/-- The places behind the point if nothing else is said. -/
def defaultPlaces : Nat := 6

/-- The notation of an integer, as the double nearest to it. -/
def notation? (n : Int) : Except Fault Layout := do
  let .finite value := Number.nearest (mkRat n 1) | throw (.invalidTemplate .hugeReal)
  let places := shape.precision.getD defaultPlaces
  (checkMemory places).mapError .invalidTemplate
  let whole := (Number.truncate value).natAbs
  let keeps := shape.flags.alternate
  let mark := if shape.letter.isUpper then 'E' else 'e'
  return shape.number n [] <|
    match shape.letter.toLower with
    | 'f' => Number.fixed keeps places whole
    | 'e' => Number.scientific keeps mark places whole
    | _ => Number.general keeps mark places whole

/-- The one character of a text, or the character of a number. -/
def character : Json → Except TemplateDefect Layout
  | .string s =>
    match s.toList with
    | [c] => .ok { body := [c.toNat] }
    | _ => .error .notCharacter
  | .points s =>
    match s.codes with
    | [n] => .ok { body := [n] }
    | _ => .error .notCharacter
  | value =>
    match value.toInt? with
    | none => .error .notCharacter
    | some n =>
      if 0 ≤ n && n < 0x110000 then .ok { body := [n.toNat] }
      else .error .noSuchCharacter

def layout (value : Json) : Except Fault Layout :=
  let letter := shape.letter
  if letter = 's' then shape.cut <$> value.shown
  else if letter = 'r' then (shape.cut ∘ Text.points) <$> value.literal
  else if letter = 'a' then (shape.cut ∘ Text.points) <$> value.asciiLiteral
  else if letter = 'c' then (character value).mapError .invalidTemplate
  else if ['d', 'i', 'u', 'x', 'X', 'o'].contains letter then
    match value.toInt? with
    | some n => shape.numeral n
    | none =>
      .error (.invalidTemplate
        (if ['d', 'i', 'u'].contains letter then .notNumeric letter value.kind
          else .notInteger letter value.kind))
  else if ['e', 'E', 'f', 'F', 'g', 'G'].contains letter then
    match value.toInt? with
    | some n => shape.notation? n
    | none => .error (.invalidTemplate (.notReal value.kind))
  else .error (.invalidTemplate (.unsupported letter shape.letterIndex))

def convert (value : Json) : Except Fault (List Nat) := do
  let layout ← shape.layout value
  (checkMemory shape.width).mapError .invalidTemplate
  return layout.text shape.flags shape.width

end Shape

end SignedHttp.Log
