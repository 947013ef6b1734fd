/-!
# Labels spelled in ASCII

A text is spelled by its ASCII characters, then a hyphen, then a row of numbers that say
where the other characters go in. The characters are put in by increasing code points,
and at each code point from left to right; a number counts the places that are passed
over since the last insertion, a place being a code point together with a position. A
number is written in digits from `a` to `9`, lowest first. Each digit place has a
threshold, and a digit below it ends the number; the thresholds follow a bias that adapts
to the size of the numbers.

Key definitions: `gaps`, `spell`, `encode`, `read?`, `insert?`, `decode?`.
-/

namespace SignedHttp.HostName.Punycode

/-! ### Digits and thresholds -/

def digit (n : Nat) : Char :=
  if n < 26 then .ofNat ('a'.toNat + n) else .ofNat ('0'.toNat + (n - 26))

/-- The value of a digit, in either letter case. -/
def digit? (c : Char) : Option Nat :=
  if 'a' ≤ c && c ≤ 'z' then some (c.toNat - 'a'.toNat)
  else if 'A' ≤ c && c ≤ 'Z' then some (c.toNat - 'A'.toNat)
  else if '0' ≤ c && c ≤ '9' then some (26 + (c.toNat - '0'.toNat))
  else none

/-- The threshold of a digit place, from 1 to 26. -/
def threshold (bias place : Nat) : Nat :=
  max 1 (min 26 (36 * (place + 1) - bias))

theorem threshold_pos (bias place : Nat) : 0 < threshold bias place := by
  unfold threshold
  omega

def firstBias : Nat := 72

def biasOf (size : Nat) : Nat :=
  if 455 < size then 36 + biasOf (size / 35) else 36 * size / (size + 38)
termination_by size
decreasing_by omega

/-- The bias after a number, with which the text has `length` characters. -/
def adapt (number length : Nat) (isFirst : Bool) : Nat :=
  let size := if isFirst then number / 700 else number / 2
  biasOf (size + size / length)

/-! ### Spelling -/

/-- The digits of a number from a digit place on. -/
def spellNumber (bias place number : Nat) : List Char :=
  let t := threshold bias place
  if number < t then [digit number]
  else digit (t + (number - t) % (36 - t)) ::
    spellNumber bias (place + 1) ((number - t) / (36 - t))
termination_by number
decreasing_by
  have := threshold_pos bias place
  have := Nat.div_le_self (number - threshold bias place) (36 - threshold bias place)
  omega

/-- The digits of numbers that are put behind a text of `length` characters. -/
def spell (bias length : Nat) (isFirst : Bool) : List Nat → List Char
  | [] => []
  | number :: rest =>
    spellNumber bias 0 number ++
      spell (adapt number (length + 1) isFirst) (length + 1) false rest

/-- The numbers that put in one code point, and the places that are passed over behind
its last occurrence. Before the text, `passed` places have been passed over. -/
def gapsOf (n passed : Nat) : List Nat → List Nat × Nat
  | [] => ([], passed)
  | c :: s =>
    if c < n then gapsOf n (passed + 1) s
    else if c = n then
      let (rest, left) := gapsOf n 0 s
      (passed :: rest, left)
    else gapsOf n passed s

/-- The numbers that put in the code points of a list, which is increasing. The next code
point to be passed over is `next`, and the text has `length` characters so far. -/
def gapsFrom (s : List Nat) (next passed length : Nat) : List Nat → List Nat
  | [] => []
  | n :: rest =>
    let (gaps, left) := gapsOf n (passed + (n - next) * (length + 1)) s
    gaps ++ gapsFrom s (n + 1) (left + 1) (length + gaps.length) rest

/-- Whether a code point is spelled as itself. -/
def isBasic (n : Nat) : Bool :=
  n < 0x80

/-- The numbers that put in all code points that are not spelled as themselves. -/
def gaps (s : List Nat) : List Nat :=
  gapsFrom s 0x80 0 (s.filter isBasic).length (s.filter (!isBasic ·)).mergeSort.eraseDups

def encode (s : List Nat) : List Char :=
  let basic := (s.filter isBasic).map Char.ofNat
  (if basic.isEmpty then [] else basic ++ ['-']) ++ spell firstBias basic.length true (gaps s)

/-! ### Reading -/

/-- A number that is being read: the digit place, the weight of its digit, and the value
of the digits before it. -/
structure Reading where
  bias : Nat
  length : Nat
  isFirst : Bool
  place : Nat := 0
  weight : Nat := 1
  value : Nat := 0

/-- The numbers that digits spell, unless the last one does not end. -/
def read? (r : Reading) : List Char → Option (List Nat)
  | [] => if r.place = 0 then some [] else none
  | c :: s => do
    let d ← digit? c
    let t := threshold r.bias r.place
    let value := r.value + d * r.weight
    if d < t then
      let length := r.length + 1
      (value :: ·) <$> read? ⟨adapt value length r.isFirst, length, false, 0, 1, 0⟩ s
    else read? { r with place := r.place + 1, weight := r.weight * (36 - t), value := value } s

def maxPoint : Nat := 0x10FFFF

/-- The text with the code points of the numbers put in, from a code point and a position
on, unless there is no such code point. -/
def insert? (n position : Nat) (s : List Nat) : List Nat → Option (List Nat)
  | [] => some s
  | number :: rest =>
    let places := s.length + 1
    let n := n + (position + number) / places
    let position := (position + number) % places
    if maxPoint < n then none
    else insert? n (position + 1) (s.take position ++ n :: s.drop position) rest

def decode? (s : List Char) : Option (List Nat) := do
  let digits := (s.reverse.takeWhile (· != '-')).reverse
  let basic := ((s.reverse.dropWhile (· != '-')).drop 1).reverse.map Char.toNat
  let numbers ← read? ⟨firstBias, basic.length, true, 0, 1, 0⟩ digits
  insert? 0x80 0 basic numbers

end SignedHttp.HostName.Punycode
