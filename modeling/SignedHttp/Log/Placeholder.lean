import SignedHttp.Text.Decimal

/-!
# Placeholders in messages

A placeholder begins with a percent sign. Then it may have a name in round brackets,
flags, a width, a precision behind a point, and a letter for a size, which says nothing;
it ends with the letter of its conversion. A width or a precision may be left to an
argument. Two percent signs stand for one, everything else for itself.

A placeholder reads no more than the text (`length_read`), so the pieces of a message are
found from left to right.

Key definitions: `Placeholder`, `Placeholder.read`, `Piece`, `Piece.ofTemplate`.
Key theorems: `Placeholder.length_read`.
-/

namespace SignedHttp.Log

/-- The name of the value that a placeholder shows. -/
inductive PlaceholderName where
  | none
  | said (name : String)
  /-- The bracket behind the name is missing. -/
  | unclosed
deriving DecidableEq, Repr

inductive Amount where
  | none
  | said (n : Nat)
  /-- The next argument says it. -/
  | given
deriving DecidableEq, Repr

def Amount.orZero : Amount → Amount
  | .none => .said 0
  | amount => amount

structure Flags where
  /-- It stands on the left of its width. -/
  left : Bool := false
  plus : Bool := false
  /-- A number that is not negative has a blank for its sign. -/
  blank : Bool := false
  /-- The base is shown, and the point is kept. -/
  alternate : Bool := false
  zeros : Bool := false
deriving DecidableEq, Repr

def Flags.add? (flags : Flags) (c : Char) : Option Flags :=
  if c = '-' then some { flags with left := true }
  else if c = '+' then some { flags with plus := true }
  else if c = ' ' then some { flags with blank := true }
  else if c = '#' then some { flags with alternate := true }
  else if c = '0' then some { flags with zeros := true }
  else none

/-- A placeholder. It has no letter if the message ends before. -/
structure Placeholder where
  name : PlaceholderName
  flags : Flags
  width : Amount
  precision : Amount
  letter : Option Char
deriving DecidableEq, Repr

namespace Placeholder

/-- A name up to its closing bracket, and the text after it. The name may hold pairs of
brackets itself, `depth` of which are open. -/
def cutName (depth : Nat) : List Char → Option (List Char × List Char)
  | [] => none
  | c :: s =>
    if c = ')' && depth = 0 then some ([], s)
    else
      let depth := if c = '(' then depth + 1 else if c = ')' then depth - 1 else depth
      (cutName depth s).map fun (name, rest) => (c :: name, rest)

def readName : List Char → PlaceholderName × List Char
  | '(' :: s =>
    match cutName 0 s with
    | some (name, rest) => (.said (.ofList name), rest)
    | none => (.unclosed, [])
  | s => (.none, s)

def readFlags (flags : Flags) : List Char → Flags × List Char
  | [] => (flags, [])
  | c :: s =>
    match flags.add? c with
    | some flags => readFlags flags s
    | none => (flags, c :: s)

def readAmount (s : List Char) : Amount × List Char :=
  if s.head? = some '*' then (.given, s.drop 1)
  else
    let digits := s.takeWhile Char.isDigit
    (if digits.isEmpty then .none else .said (Text.Decimal.value digits),
      s.dropWhile Char.isDigit)

/-- The precision at the start of the text, and the text after it. A point alone is a
precision of zero. -/
def readPrecision : List Char → Amount × List Char
  | '.' :: s => ((readAmount s).1.orZero, (readAmount s).2)
  | s => (.none, s)

def skipSize (s : List Char) : List Char :=
  if s.head?.any fun c => c = 'h' || c = 'l' || c = 'L' then s.drop 1 else s

/-- The placeholder whose percent sign stands before the text, and the text after it. -/
def read (s : List Char) : Placeholder × List Char :=
  let (name, s) := readName s
  let (flags, s) := readFlags {} s
  let (width, s) := readAmount s
  let (precision, s) := readPrecision s
  let s := skipSize s
  (⟨name, flags, width, precision, s.head?⟩, s.drop 1)

/-! ### A placeholder takes no more than the text -/

theorem length_cutName (s : List Char) : ∀ {depth : Nat} {name rest : List Char},
    cutName depth s = some (name, rest) → rest.length ≤ s.length := by
  induction s with
  | nil => simp [cutName]
  | cons c s ih =>
    intro depth name rest h
    unfold cutName at h
    split at h
    · simp only [Option.some.injEq, Prod.mk.injEq] at h
      obtain ⟨-, rfl⟩ := h
      simp
    · obtain ⟨⟨n, r⟩, hr, h⟩ := Option.map_eq_some_iff.mp h
      simp only [Prod.mk.injEq] at h
      obtain ⟨-, rfl⟩ := h
      have := ih hr
      simp only [List.length_cons]
      omega

theorem length_readName (s : List Char) : (readName s).2.length ≤ s.length := by
  unfold readName
  split
  · next s =>
    split
    · next h =>
      have := length_cutName s h
      simp only [List.length_cons]
      omega
    · simp
  · simp

theorem length_readFlags (s : List Char) : ∀ flags : Flags,
    (readFlags flags s).2.length ≤ s.length := by
  induction s with
  | nil => simp [readFlags]
  | cons c s ih =>
    intro flags
    unfold readFlags
    split
    · exact Nat.le_succ_of_le (ih _)
    · simp

theorem length_readAmount (s : List Char) : (readAmount s).2.length ≤ s.length := by
  unfold readAmount
  split
  · simp
  · exact (List.dropWhile_suffix _).length_le

theorem length_readPrecision (s : List Char) : (readPrecision s).2.length ≤ s.length := by
  unfold readPrecision
  split
  · exact Nat.le_succ_of_le (length_readAmount _)
  · simp

theorem length_skipSize (s : List Char) : (skipSize s).length ≤ s.length := by
  unfold skipSize
  split <;> simp

theorem length_read (s : List Char) : (read s).2.length ≤ s.length := by
  have h1 := length_readName s
  have h2 := length_readFlags (readName s).2 {}
  have h3 := length_readAmount (readFlags {} (readName s).2).2
  have h4 := length_readPrecision (readAmount (readFlags {} (readName s).2).2).2
  have h5 := length_skipSize (readPrecision (readAmount (readFlags {} (readName s).2).2).2).2
  simp only [read, List.length_drop]
  omega

end Placeholder

inductive Piece where
  | plain (c : Char)
  /-- A placeholder, with the index that its letter has in the message. -/
  | placeholder (p : Placeholder) (letterIndex : Nat)
deriving DecidableEq, Repr

def Piece.ofTemplateFrom (i : Nat) (s : List Char) : List Piece :=
  match s with
  | [] => []
  | '%' :: '%' :: s => .plain '%' :: ofTemplateFrom (i + 2) s
  | '%' :: s =>
    let read := Placeholder.read s
    let letterIndex := i + (s.length - read.2.length)
    .placeholder read.1 letterIndex :: ofTemplateFrom (letterIndex + 1) read.2
  | c :: s => .plain c :: ofTemplateFrom (i + 1) s
termination_by s.length
decreasing_by
  · simp only [List.length_cons]
    omega
  · exact Nat.lt_succ_of_le (Placeholder.length_read _)
  · exact Nat.lt_succ_self _

def Piece.ofTemplate (s : List Char) : List Piece :=
  ofTemplateFrom 0 s

end SignedHttp.Log
