import SignedHttp.Text.Composition.Table
import SignedHttp.Text.Interval

/-!
# Composed texts

A text is composed when a letter and its marks are one character wherever the database
has that character, and the marks that are left stand in the order of their classes. To
tell, the text is taken apart, its marks are put in order, and it is put together again:
a composed text comes back as it was. A mark joins its letter over marks of lower classes
only. Texts are lists of code points here.

Key definitions: `split?`, `join?`, `decompose`, `reorder`, `compose`, `isComposed`.
-/

namespace SignedHttp.Text.Composition

/-- The class of a mark, and zero for all other characters. -/
def markClass (n : Nat) : Nat :=
  (Interval.valueAt? markClasses n).getD 0

/-! ### Hangul syllables -/

/-- The first syllable. Syllables are ordered by their lead, their vowel and their tail. -/
def firstSyllable : Nat := 0xAC00

def firstLead : Nat := 0x1100

def firstVowel : Nat := 0x1161

/-- The code point before the first tail, which stands for no tail. -/
def beforeTails : Nat := 0x11A7

def leads : Nat := 19

def vowels : Nat := 21

/-- How many tails there are, with no tail as one of them. -/
def tails : Nat := 28

def syllableIndex? (n : Nat) : Option Nat :=
  if firstSyllable ≤ n ∧ n < firstSyllable + leads * vowels * tails then some (n - firstSyllable)
  else none

/-- The two parts of the syllable at a place: it without its tail, or lead and vowel. -/
def splitSyllable (i : Nat) : Nat × Nat :=
  if i % tails = 0 then
    (firstLead + i / tails / vowels, firstVowel + i / tails % vowels)
  else (firstSyllable + (i - i % tails), beforeTails + i % tails)

/-- The syllable of a lead and a vowel, or of a syllable without tail and a tail. -/
def joinSyllable? (a b : Nat) : Option Nat :=
  if firstLead ≤ a ∧ a < firstLead + leads ∧ firstVowel ≤ b ∧ b < firstVowel + vowels then
    some (firstSyllable + ((a - firstLead) * vowels + (b - firstVowel)) * tails)
  else match syllableIndex? a with
    | some i =>
      if i % tails = 0 ∧ beforeTails < b ∧ b < beforeTails + tails then some (a + (b - beforeTails))
      else none
    | none => none

/-! ### Taking apart -/

def split? (n : Nat) : Option (Nat × Nat) :=
  match syllableIndex? n with
  | some i => some (splitSyllable i)
  | none => (composites.find? fun (_, _, whole) => whole = n).map fun (a, b, _) => (a, b)

/-- The character with its first parts taken apart a number of times over. -/
def decomposeIn : Nat → Nat → List Nat
  | 0, n => [n]
  | times + 1, n =>
    match split? n with
    | some (a, b) => decomposeIn times a ++ [b]
    | none => [n]

/-- How often the first part of a character can be composed itself. -/
def nesting : Nat := 3

def decompose (n : Nat) : List Nat :=
  decomposeIn nesting n

/-! ### Order -/

/-- The character in front of an ordered text, behind the marks of lower classes. -/
def insertMark (n : Nat) : List Nat → List Nat
  | [] => [n]
  | m :: rest =>
    if 0 < markClass m ∧ markClass m < markClass n then m :: insertMark n rest
    else n :: m :: rest

/-- The text with each run of marks in the order of their classes. -/
def reorder (s : List Nat) : List Nat :=
  s.foldr insertMark []

/-! ### Putting together -/

def join? (a b : Nat) : Option Nat :=
  match joinSyllable? a b with
  | some n => some n
  | none => (composites.find? fun (x, y, _) => x = a && y = b).map fun (_, _, whole) => whole

/-- Whether a character reaches its base over the marks between them, the last of which
is the first of the list. -/
def reaches (n : Nat) : List Nat → Bool
  | [] => true
  | m :: _ => markClass m < markClass n

/-- The text put together behind a base, if there is one, and the marks that did not join
it, which are held last mark first. -/
def composeAfter (base : Option Nat) (between : List Nat) : List Nat → List Nat
  | [] => base.toList ++ between.reverse
  | n :: s =>
    match base with
    | none => if markClass n = 0 then composeAfter (some n) [] s else n :: composeAfter none [] s
    | some b =>
      match if reaches n between then join? b n else none with
      | some whole => composeAfter (some whole) between s
      | none =>
        if markClass n = 0 then b :: between.reverse ++ composeAfter (some n) [] s
        else composeAfter base (n :: between) s

def compose (s : List Nat) : List Nat :=
  composeAfter none [] s

def isComposed (s : List Nat) : Bool :=
  !s.any (Interval.covers neverComposed) && compose (reorder (s.flatMap decompose)) = s

end SignedHttp.Text.Composition
