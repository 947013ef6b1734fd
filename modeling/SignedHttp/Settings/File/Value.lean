import SignedHttp.Text.Blank

/-!
# Values in a settings file

A value stands bare, between single quotes or between double quotes. A bare value ends
with its line or with a comment, and the blanks around it are no part of it. A quoted
value may run over several lines; single and double quotes have escapes of their own.
A reading gives the value and the text after it, or fails at a place in the text.

Readers of such files differ in two things. To some every backslash between quotes belongs to the
character behind it, to others only one in front of the quote does, so that a value that ends with
a backslash is closed by a later quote, if there is one. And some take the blanks behind the equals
sign for the start of a comment, others have passed over them before they look for one.

Key definitions: `Reader`, `value`, `cutQuoted`, `unescape`, `bareValue`, `stop`.
Key theorems: `length_value`.
-/

namespace SignedHttp.Settings.File

open Text

def skipBlanks (s : List Char) : List Char :=
  s.dropWhile isHorizontalBlank

def lineRest (s : List Char) : List Char :=
  s.takeWhile (· != '\n')

def skipLine (s : List Char) : List Char :=
  s.dropWhile (· != '\n')

def singleEscape? (c : Char) : Option Char :=
  if c = '\\' || c = '\'' then some c else none

def doubleEscape? (c : Char) : Option Char :=
  [('\\', '\\'), ('\'', '\''), ('"', '"'), ('a', '\x07'), ('b', '\x08'), ('f', '\x0c'),
    ('n', '\n'), ('r', '\r'), ('t', '\t'), ('v', '\x0b')].lookup c

/-- The text with its escapes replaced; a backslash that starts none stays. -/
def unescape (escape? : Char → Option Char) : List Char → List Char
  | [] => []
  | ['\\'] => ['\\']
  | '\\' :: c :: s =>
    match escape? c with
    | some d => d :: unescape escape? s
    | none => '\\' :: c :: unescape escape? s
  | c :: s => c :: unescape escape? s

/-- How a file is read where readers differ. -/
inductive Reader where
  /-- Every backslash between quotes belongs to the character behind it, and a comment can begin
  right behind the blanks after an equals sign. -/
  | paired
  /-- A backslash between quotes belongs to a quote only, and to that only if another one closes;
  the blanks after an equals sign begin no comment. -/
  | loose
deriving DecidableEq, Repr

/-- Whether a backslash belongs to the character behind it. -/
def Reader.pairs (reader : Reader) (quote c : Char) : Bool :=
  match reader with
  | .paired => true
  | .loose => c = quote

/-- What stands before the closing quote, and the text after it. A quote to which the backslash in
front of it belongs does not close. -/
def cutQuoted (reader : Reader) (quote : Char) : List Char → Option (List Char × List Char)
  | [] => none
  | ['\\'] => none
  | '\\' :: c :: s =>
    if reader.pairs quote c then
      match cutQuoted reader quote s with
      | some (value, rest) => some ('\\' :: c :: value, rest)
      | none => if reader = .loose then some (['\\'], s) else none
    else (cutQuoted reader quote (c :: s)).map fun (value, rest) => ('\\' :: value, rest)
  | c :: s =>
    if c = quote then some ([], s)
    else (cutQuoted reader quote s).map fun (value, rest) => (c :: value, rest)

/-- The line up to a comment, which a number sign behind a blank begins. -/
def cutComment : List Char → List Char
  | [] => []
  | c :: s => if isBlank c && s.head? = some '#' then [] else c :: cutComment s

/-- A value without quotes: the line up to a comment, without the blanks around it. -/
def bareValue (line : List Char) : List Char :=
  trimRight (skipBlanks (cutComment line))

/-- The part of a line behind an equals sign that a comment is looked for in. -/
def Reader.searched (reader : Reader) (line : List Char) : List Char :=
  match reader with
  | .paired => line
  | .loose => skipBlanks line

/-- The value behind an equals sign and the text after it, or the text at which the
value cannot be read. -/
def value (reader : Reader) (s : List Char) : Except (List Char) (List Char × List Char) :=
  match skipBlanks s with
  | [] => .ok ([], [])
  | c :: rest =>
    if c = '\'' || c = '"' then
      let escape? := if c = '"' then doubleEscape? else singleEscape?
      match cutQuoted reader c rest with
      | some (quoted, rest) => .ok (unescape escape? quoted, rest)
      | none => .error (c :: rest)
    else .ok (bareValue (reader.searched (lineRest s)), skipLine s)

/-! ### A value takes no more than the text -/

theorem length_dropWhile_le (p : Char → Bool) (s : List Char) :
    (s.dropWhile p).length ≤ s.length :=
  (List.dropWhile_suffix p).length_le

theorem length_skipBlanks (s : List Char) : (skipBlanks s).length ≤ s.length :=
  length_dropWhile_le _ s

theorem length_skipLine (s : List Char) : (skipLine s).length ≤ s.length :=
  length_dropWhile_le _ s

theorem length_cutQuoted (reader : Reader) (quote : Char) (s : List Char) :
    ∀ {value rest : List Char}, cutQuoted reader quote s = some (value, rest) →
      rest.length ≤ s.length := by
  fun_induction cutQuoted reader quote s with
  | case1 => simp
  | case2 => simp
  | case3 c s hpairs value rest hfound ih =>
    intro other after hcut
    cases hcut
    have := ih hfound
    simp only [List.length_cons]
    omega
  | case4 c s hpairs hnone hloose =>
    intro value rest hcut
    cases hcut
    simp only [List.length_cons]
    omega
  | case5 => simp_all
  | case6 c s hpairs ih =>
    intro value rest hcut
    obtain ⟨⟨v, r⟩, hv, hvr⟩ := Option.map_eq_some_iff.mp hcut
    cases hvr
    exact Nat.le_succ_of_le (ih hv)
  | case7 s =>
    intro value rest hcut
    cases hcut
    exact Nat.le_succ _
  | case8 c s _ _ hne ih =>
    intro value rest hcut
    obtain ⟨⟨v, r⟩, hv, hvr⟩ := Option.map_eq_some_iff.mp hcut
    cases hvr
    exact Nat.le_succ_of_le (ih hv)

/-- The text that a reading stops at, whether it succeeds or not. -/
def stop {α : Type} : Except (List Char) (α × List Char) → List Char
  | .ok (_, rest) => rest
  | .error stopped => stopped

theorem length_value (reader : Reader) (s : List Char) :
    (stop (value reader s)).length ≤ s.length := by
  have hs := length_skipBlanks s
  unfold value
  split
  · simp [stop]
  · next c rest h =>
    rw [h] at hs
    split
    · dsimp only
      split
      · next hc =>
        have := length_cutQuoted _ _ _ hc
        simp only [stop, List.length_cons] at hs ⊢
        omega
      · exact hs
    · exact length_skipLine s

end SignedHttp.Settings.File
