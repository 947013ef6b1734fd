import SignedHttp.Text.Blank

/-!
# Taking a text apart into lines

Readers differ in where they end a line: at a line feed only, or at every line break that Unicode
has. What is written with a line feed behind each line is read the same by all of them, if the lines
hold none of the reader's breaks (`LineBreaks.cut_lines`). A carriage return that is a break and the
line feed behind it end one line, not two; this does not matter here, for then the carriage return
is no part of a line.

Key definitions: `LineBreaks`, `LineBreaks.cut`.
Key theorems: `LineBreaks.cut_line`, `LineBreaks.cut_lines`.
-/

namespace SignedHttp.Text

/-- The characters at which a reader ends a line: a line feed, and maybe others that are blank. -/
structure LineBreaks where
  isBreak : Char → Bool
  lineFeed : isBreak '\n' = true
  space : isBreak ' ' = false
  isBlank_of_isBreak : ∀ c, isBreak c = true → isBlank c = true

namespace LineBreaks

def feeds : LineBreaks where
  isBreak c := c = '\n'
  lineFeed := by decide
  space := by decide
  isBlank_of_isBreak c h := by
    rw [of_decide_eq_true h]
    decide

/-- The line breaks of Unicode, and the separators of files, groups and records. -/
def all : List Char :=
  ['\n', '\r', '\x0b', '\x0c', '\x1c', '\x1d', '\x1e', '\u0085', '\u2028', '\u2029']

def unicode : LineBreaks where
  isBreak c := all.contains c
  lineFeed := by decide
  space := by decide
  isBlank_of_isBreak c h := by
    have hall : all.all isBlank = true := by decide
    exact List.all_eq_true.mp hall c (List.contains_iff_mem.mp h)

variable (breaks : LineBreaks)

def extend (c : Char) : List (List Char) → List (List Char)
  | [] => [[c]]
  | line :: lines => (c :: line) :: lines

/-- The lines of a text. Nothing behind the last break is no line. -/
def cut : List Char → List (List Char)
  | [] => []
  | '\r' :: '\n' :: s => (if breaks.isBreak '\r' then [] else ['\r']) :: cut s
  | c :: s => if breaks.isBreak c then [] :: cut s else extend c (cut s)

/-- A line that holds no break is cut off at the line feed behind it. -/
theorem cut_line (s : List Char) : ∀ {line : List Char}, (∀ c ∈ line, breaks.isBreak c = false) →
    breaks.cut (line ++ '\n' :: s) = line :: breaks.cut s
  | [], _ => by
    rw [List.nil_append, cut, if_pos breaks.lineFeed]
    intro _ h
    exact absurd h (by decide)
  | c :: line, h => by
    obtain ⟨hc, hline⟩ := List.forall_mem_cons.mp h
    have hrest := cut_line s hline
    by_cases hreturn : c = '\r' ∧ line = []
    · obtain ⟨rfl, rfl⟩ := hreturn
      rw [List.cons_append, List.nil_append, cut, if_neg (by rw [hc]; exact Bool.false_ne_true)]
    · rw [List.cons_append, cut, if_neg (by rw [hc]; exact Bool.false_ne_true), hrest, extend]
      -- what stands behind `c` is no line feed, for the line holds none
      intro rest hreturned hfeed
      cases line with
      | nil => exact hreturn ⟨hreturned, rfl⟩
      | cons d line =>
        obtain ⟨rfl, -⟩ := List.cons.inj hfeed
        have hno := hline '\n' List.mem_cons_self
        rw [breaks.lineFeed] at hno
        cases hno

theorem cut_lines : ∀ {lines : List (List Char)},
    (∀ line ∈ lines, ∀ c ∈ line, breaks.isBreak c = false) →
      breaks.cut (lines.flatMap (· ++ ['\n'])) = lines
  | [], _ => rfl
  | line :: lines, h => by
    obtain ⟨hline, hlines⟩ := List.forall_mem_cons.mp h
    rw [List.flatMap_cons, List.append_assoc, List.singleton_append, breaks.cut_line _ hline,
      cut_lines hlines]

/-- A carriage return goes with the line feed behind it, or stays on its line. -/
example : unicode.cut "a\r\nb\n\nc".toList = [['a'], ['b'], [], ['c']] ∧
    feeds.cut "a\r\nb".toList = [['a', '\r'], ['b']] := by decide

end LineBreaks

end SignedHttp.Text
