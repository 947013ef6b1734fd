import SignedHttp.Settings.File.Value
import SignedHttp.Text.Occurrence

/-!
# Lines of a settings file

A line binds a name, optionally behind the word `export`, to the value behind an equals
sign; a name may stand between single quotes. A comment may end the line or be all of
it. A line that does not read in this way is passed over from where the reading stopped.
Each step takes at least one character (`length_step`), so the steps come to an end.

Key definitions: `Binding`, `line`, `step`, `bindings`.
Key theorems: `length_line`, `length_step`.
-/

namespace SignedHttp.Settings.File

open Text

/-- A name and its value; a name alone on its line has none. -/
structure Binding where
  name : String
  value : Option String
deriving DecidableEq, Repr

def nextLine (s : List Char) : List Char :=
  (skipLine s).drop 1

/-- The rest behind the word `export` and the blanks after it, if the line has them. -/
def skipExport (s : List Char) : List Char :=
  match after? "export".toList s with
  | some rest => if rest.head?.any isHorizontalBlank then skipBlanks rest else s
  | none => s

/-- The name at the start of a line and the text after it, or the text at which no name
can be read. A comment has no name. -/
def name (s : List Char) : Except (List Char) (Option (List Char) × List Char) :=
  match s with
  | '#' :: _ => .ok (none, s)
  | '\'' :: rest =>
    let name := rest.takeWhile (· != '\'')
    match rest.dropWhile (· != '\'') with
    | [] => .error s
    | _ :: rest => if name.isEmpty then .error s else .ok (some name, rest)
  | _ =>
    let inName (c : Char) : Bool := c != '=' && c != '#' && !isBlank c
    match s.takeWhile inName with
    | [] => .error s
    | name => .ok (some name, s.dropWhile inName)

def skipComment (s : List Char) : List Char :=
  match skipBlanks s with
  | '#' :: rest => skipLine rest
  | _ => s

/-- The text after the end of the line, or the text at which the line goes on. -/
def lineEnd (s : List Char) : Except (List Char) (List Char) :=
  match skipBlanks s with
  | [] => .ok []
  | '\n' :: rest => .ok rest
  | _ => .error s

variable (reader : Reader)

/-- The value after a name, if an equals sign follows it, and the text after the value,
or the text at which the value cannot be read. -/
def assigned (s : List Char) : Except (List Char) (Option (List Char) × List Char) :=
  match skipBlanks s with
  | '=' :: rest =>
    match value reader rest with
    | .ok (value, rest) => .ok (some value, rest)
    | .error stopped => .error stopped
  | rest => .ok (none, rest)

/-- The binding of a line that starts with a name or a comment, and the lines after it,
or the text at which the line cannot be read. -/
def line (s : List Char) : Except (List Char) (Option Binding × List Char) :=
  match name (skipExport s) with
  | .error stopped => .error stopped
  | .ok (name, rest) =>
    match assigned reader rest with
    | .error stopped => .error stopped
    | .ok (value, rest) =>
      match lineEnd (skipComment rest) with
      | .error stopped => .error stopped
      | .ok rest => .ok (name.map fun name => ⟨.ofList name, value.map .ofList⟩, rest)

/-- The next binding, if the next line that is not blank is one, and the lines after it. -/
def step (s : List Char) : Option Binding × List Char :=
  match s.dropWhile isBlank with
  | [] => (none, [])
  | text =>
    match line reader text with
    | .ok (binding, rest) => (binding, rest)
    | .error stopped => (none, nextLine stopped)

/-! ### Every step takes some of the text -/

theorem length_nextLine (s : List Char) : (nextLine s).length ≤ s.length - 1 := by
  have := length_skipLine s
  simp only [nextLine, List.length_drop]
  omega

theorem length_after? {p s rest : List Char} (h : after? p s = some rest) :
    rest.length ≤ s.length := by
  simp [eq_append_of_after? h]

theorem length_skipExport (s : List Char) : (skipExport s).length ≤ s.length := by
  unfold skipExport
  split
  · next rest h =>
    split
    · exact Nat.le_trans (length_skipBlanks rest) (length_after? h)
    · exact Nat.le_refl _
  · exact Nat.le_refl _

theorem length_name (s : List Char) : (stop (name s)).length ≤ s.length := by
  unfold name
  split
  · simp [stop]
  · next rest =>
    have := length_dropWhile_le (· != '\'') rest
    dsimp only
    split
    · simp [stop]
    · next heq =>
      rw [heq, List.length_cons] at this
      split
      · simp [stop]
      · simp only [stop, List.length_cons]
        omega
  · dsimp only
    split
    · exact Nat.le_refl _
    · exact length_dropWhile_le _ s

theorem length_assigned (s : List Char) : (stop (assigned reader s)).length ≤ s.length := by
  have hs := length_skipBlanks s
  unfold assigned
  split
  · next rest heq =>
    rw [heq, List.length_cons] at hs
    have hvalue := length_value reader rest
    split
    · next hv =>
      rw [hv] at hvalue
      simp only [stop] at hvalue ⊢
      omega
    · next hv =>
      rw [hv] at hvalue
      simp only [stop] at hvalue ⊢
      omega
  · exact hs

theorem length_skipComment (s : List Char) : (skipComment s).length ≤ s.length := by
  have hs := length_skipBlanks s
  unfold skipComment
  split
  · next rest h =>
    have := length_skipLine rest
    rw [h, List.length_cons] at hs
    omega
  · exact Nat.le_refl _

theorem length_lineEnd_ok {s rest : List Char} (h : lineEnd s = .ok rest) :
    rest.length ≤ s.length - 1 := by
  have hs := length_skipBlanks s
  unfold lineEnd at h
  split at h
  · cases h
    simp
  · next heq =>
    cases h
    rw [heq, List.length_cons] at hs
    omega
  · cases h

theorem length_lineEnd_error {s stopped : List Char} (h : lineEnd s = .error stopped) :
    stopped = s := by
  unfold lineEnd at h
  split at h <;> cases h
  rfl

/-- A line that reads ends before the text does, or takes at least one character. A line
that does not read stops no later than it starts. -/
theorem length_line (s : List Char) :
    match line reader s with
    | .ok (_, rest) => rest.length ≤ s.length - 1
    | .error stopped => stopped.length ≤ s.length := by
  have hexport := length_skipExport s
  have hname := length_name (skipExport s)
  unfold line
  cases hn : name (skipExport s) with
  | error stopped =>
    rw [hn] at hname
    exact Nat.le_trans hname hexport
  | ok named =>
    obtain ⟨key, rest⟩ := named
    rw [hn] at hname
    simp only [stop] at hname
    have hassigned := length_assigned reader rest
    dsimp only
    cases ha : assigned reader rest with
    | error stopped =>
      rw [ha] at hassigned
      simp only [stop] at hassigned ⊢
      omega
    | ok found =>
      obtain ⟨text, after⟩ := found
      rw [ha] at hassigned
      simp only [stop] at hassigned
      have hcomment := length_skipComment after
      dsimp only
      cases hend : lineEnd (skipComment after) with
      | error stopped =>
        have := length_lineEnd_error hend
        subst this
        dsimp only
        omega
      | ok final =>
        have := length_lineEnd_ok hend
        dsimp only
        omega

theorem length_step (s : List Char) : (step reader s).2.length ≤ s.length - 1 := by
  have hs := length_dropWhile_le isBlank s
  unfold step
  split
  · simp
  · next text _ =>
    have hline := length_line reader (s.dropWhile isBlank)
    split
    · next h =>
      rw [h] at hline
      show _ ≤ _
      dsimp only at hline ⊢
      omega
    · next stopped h =>
      rw [h] at hline
      have := length_nextLine stopped
      dsimp only at hline ⊢
      omega

def bindings : List Char → List Binding
  | [] => []
  | c :: s =>
    have : (step reader (c :: s)).2.length < s.length + 1 :=
      Nat.lt_succ_of_le (length_step reader (c :: s))
    (step reader (c :: s)).1.toList ++ bindings (step reader (c :: s)).2
termination_by s => s.length

end SignedHttp.Settings.File
