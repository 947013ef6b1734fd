import SignedHttp.Text.Case.Table
import SignedHttp.Text.Interval
import SignedHttp.Text.Point

/-!
# Lower and upper case

Full case mapping: a letter may become several characters, and a capital sigma at
the end of a word becomes the final one. Field names are compared by their lower
case, names of log levels and methods by their upper case.

Key definitions: `lower`, `lowerPoints`, `upper`, `sameName`.
-/

namespace SignedHttp.Text

open Case

/-- The code point that the runs send `c` to, or `c` itself. -/
def Case.through (runs : List Run) (c : Char) : Char :=
  match runs.findSome? (·.imageOf? c.toNat) with
  | some n => .ofNat n
  | none => c

/-- Whether the first character that case does not pass over is a cased letter. -/
def Case.meetsCased : List Char → Bool
  | [] => false
  | c :: s =>
    if Interval.covers caseIgnorable c.toNat then meetsCased s
    else Interval.covers casedLetters c.toNat

/-- The lower case of one character, apart from its neighbours. -/
def lowerChar (c : Char) : List Char :=
  if c.toNat < 0x80 then [c.toLower]
  else if c = 'İ' then ['i', '\u0307']
  else [through lowerRuns c]

def upperChar (c : Char) : List Char :=
  if c.toNat < 0x80 then [c.toUpper]
  else match upperExpansions.lookup c.toNat with
    | some image => image.map Char.ofNat
    | none => [through upperRuns c]

/-- The lower case of the text that follows `seen`, which is held last character first.
A capital sigma is final when a cased letter stands before it and none after it. -/
def lowerAfter (seen : List Char) : List Char → List Char
  | [] => []
  | c :: s =>
    if c = 'Σ' then
      (if meetsCased seen && !meetsCased s then 'ς' else 'σ') :: lowerAfter (c :: seen) s
    else lowerChar c ++ lowerAfter (c :: seen) s

def lower (s : String) : String :=
  .ofList (lowerAfter [] s.toList)

def upper (s : String) : String :=
  .ofList (s.toList.flatMap upperChar)

/-- The code points in lower case, behind a run of characters that is held last character first.
A surrogate has no case and ends a word, so that runs of characters are taken by themselves. -/
def lowerPoints (run : List Char) : List Nat → List Nat
  | [] => points (lowerAfter [] run.reverse)
  | n :: s =>
    if isCharacter n then lowerPoints (.ofNat n :: run) s
    else points (lowerAfter [] run.reverse) ++ n :: lowerPoints [] s

def sameName (a b : String) : Bool :=
  lower a = lower b

theorem sameName_iff {a b : String} : sameName a b = true ↔ lower a = lower b := by
  simp [sameName]

theorem sameName_refl (a : String) : sameName a a = true := by
  simp [sameName]

end SignedHttp.Text
