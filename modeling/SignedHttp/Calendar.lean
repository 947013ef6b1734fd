import SignedHttp.Text.Decimal

/-!
# Instants as calendar text

An instant is a count of microseconds since the start of 1970 in UTC, which may be
negative. Its date is found in years that begin in March, so that the leap day ends
the year: a period of 400 such years is split into centuries, these into four-year
groups, these into years, and the days of a year into months. The last century, group
or year of a whole is the one that may be a day longer.

A moment is written with a year of four digits, so instants outside of the years 1 to 9999
have no moment.

Key definitions: `Date`, `Date.ofDay`, `Moment`, `Moment.ofMicros`, `Moment.text`,
`Moment.reach`.
-/

namespace SignedHttp

structure Date where
  year : Int
  month : Nat
  day : Nat
deriving DecidableEq, Repr

namespace Date

/-- The lengths of the months from March to the January of the next year. -/
def monthLengths : List Nat :=
  [31, 30, 31, 30, 31, 31, 30, 31, 30, 31, 31]

/-- The number of the month that holds a day, and the day within it, both counted from
zero. What lies behind the listed months belongs to the one after them. -/
def monthOf : List Nat → Nat → Nat × Nat
  | [], day => (0, day)
  | length :: rest, day =>
    if day < length then (0, day)
    else
      let (month, day) := monthOf rest (day - length)
      (month + 1, day)

/-- Whole units in a count, at most `most` of them, and the rest. -/
def split (unit most count : Nat) : Nat × Nat :=
  let whole := min most (count / unit)
  (whole, count - whole * unit)

/-- Days from the first of March of the year 0 to the start of 1970. -/
def epochDay : Int := 719468

def periodDays : Int := 146097

/-- The date of a day, counted from the start of 1970. -/
def ofDay (day : Int) : Date :=
  let period := (day + epochDay) / periodDays
  let (century, rest) := split 36524 3 ((day + epochDay) % periodDays).toNat
  let (group, rest) := split 1461 24 rest
  let (year, rest) := split 365 3 rest
  let (month, day) := monthOf monthLengths rest
  let marchYear := 400 * period + Int.ofNat (100 * century + 4 * group + year)
  if month < 10 then ⟨marchYear, month + 3, day + 1⟩ else ⟨marchYear + 1, month - 9, day + 1⟩

end Date

structure Moment where
  date : Date
  hour : Nat
  minute : Nat
  second : Nat
  micro : Nat
deriving DecidableEq, Repr

namespace Moment

/-- The moment of an instant, given in microseconds since the start of 1970. -/
def ofMicros (instant : Int) : Moment :=
  let micro := (instant % 1000000).toNat
  let seconds := instant / 1000000
  let second := (seconds % 86400).toNat
  ⟨.ofDay (seconds / 86400), second / 3600, second / 60 % 60, second % 60, micro⟩

/-- Year, month and day, then hour, minute and second, and the microseconds unless
there are none. -/
def chars (m : Moment) : List Char :=
  Text.Decimal.padded 4 m.date.year.toNat ++ '-' :: Text.Decimal.padded 2 m.date.month ++
    '-' :: Text.Decimal.padded 2 m.date.day ++ 'T' :: Text.Decimal.padded 2 m.hour ++
    ':' :: Text.Decimal.padded 2 m.minute ++ ':' :: Text.Decimal.padded 2 m.second ++
    (if m.micro = 0 then [] else '.' :: Text.Decimal.padded 6 m.micro) ++ ['Z']

def text (m : Moment) : String :=
  .ofList m.chars

end Moment

inductive InstantDefect where
  /-- Its year is not between 1 and 9999. -/
  | outOfRange
  /-- It is this many days from the start of 1970, which are more than can be added. -/
  | tooManyDays (days : Int)
  /-- It is more days from the start of 1970 than can be counted. -/
  | uncountable
deriving DecidableEq, Repr

def InstantDefect.message : InstantDefect → String
  | .outOfRange => "date value out of range"
  | .tooManyDays days =>
    "days=" ++ Text.Decimal.numeral days ++ "; must have magnitude <= 999999999"
  | .uncountable => "Python int too large to convert to C int"

namespace Moment

def dayMicros : Int := 86400000000

def firstInstant : Int := -62135596800000000

def lastInstant : Int := 253402300799999999

def reach (instant : Int) : Except InstantDefect Moment :=
  let days := instant / dayMicros
  if days < -0x80000000 || 0x7FFFFFFF < days then .error .uncountable
  else if 999999999 < days.natAbs then .error (.tooManyDays days)
  else if instant < firstInstant || lastInstant < instant then .error .outOfRange
  else .ok (.ofMicros instant)

end Moment

end SignedHttp
