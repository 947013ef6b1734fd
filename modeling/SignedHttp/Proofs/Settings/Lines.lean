import SignedHttp.Settings.File

/-!
# One more line in a settings file

A line that is read by itself binds what it binds wherever it stands (`File.Reads`), so a file of
such lines binds what they bind, in their order (`File.Lines.bindings_eq`), and one more at the end
adds its binding behind the others (`File.content_addLine`, `File.Lines.add`).

Key definitions: `File.Reads`, `File.Lines`, `File.content`, `File.addLine`, `File.IsName`,
`File.IsBare`.
Key theorems: `File.Lines.bindings_eq`, `File.Lines.add`, `File.content_addLine`.
-/

namespace SignedHttp.Settings.File

open Text

/-! ### Lines that are read by themselves -/

def AtLineEnd (rest : List Char) : Prop :=
  rest = [] ∨ rest.head? = some '\n'

/-- A line that binds this, or nothing, whatever other lines follow it. It neither begins nor ends
with a line end, and does not begin with a byte order mark. -/
structure Reads (reader : Reader) (s : List Char) (found : Option Binding) : Prop where
  start : s.head? ≠ some '\n'
  unmarked : s.head? ≠ some '\ufeff'
  finish : s.getLast? ≠ some '\n'
  step_eq : ∀ rest, AtLineEnd rest → step reader (s ++ rest) = (found, rest.drop 1)

/-- A text of such lines and blank ones, and what they bind. The last line may lack its end. -/
inductive Lines (reader : Reader) : List Char → List Binding → Prop
  | nil : Lines reader [] []
  | blank {rest : List Char} {found : List Binding} (h : Lines reader rest found) :
      Lines reader ('\n' :: rest) found
  | last {s : List Char} {found : Option Binding} (h : Reads reader s found) :
      Lines reader s found.toList
  | next {s rest : List Char} {found : Option Binding} {others : List Binding}
      (h : Reads reader s found) (hrest : Lines reader rest others) :
      Lines reader (s ++ '\n' :: rest) (found.toList ++ others)

theorem bindings_nil (reader : Reader) : bindings reader [] = [] := by
  rw [bindings.eq_def]

theorem step_nil (reader : Reader) : step reader [] = (none, []) := by
  rw [step, List.dropWhile_nil]

theorem bindings_eq_step (reader : Reader) (s : List Char) :
    bindings reader s = (step reader s).1.toList ++ bindings reader (step reader s).2 := by
  cases s with
  | nil => rw [step_nil, bindings_nil, Option.toList_none, List.nil_append]
  | cons c s => rw [bindings.eq_def]

theorem bindings_newline (reader : Reader) (s : List Char) :
    bindings reader ('\n' :: s) = bindings reader s := by
  have hblank : isBlank '\n' = true := isBlank_of_isAsciiBlank (by decide)
  have hstep : step reader ('\n' :: s) = step reader s := by
    rw [step, step, List.dropWhile_cons_of_pos hblank]
  rw [bindings_eq_step, bindings_eq_step reader s, hstep]

/-- A text of lines binds what these bind. -/
theorem Lines.bindings_eq {reader : Reader} {s : List Char} {found : List Binding}
    (h : Lines reader s found) : bindings reader s = found := by
  induction h with
  | nil => exact bindings_nil reader
  | blank _ ih => rw [bindings_newline, ih]
  | @last s found h =>
    have hstep := h.step_eq [] (.inl rfl)
    rw [List.append_nil] at hstep
    rw [bindings_eq_step, hstep, List.drop_nil, bindings_nil, List.append_nil]
  | @next s rest found others h _ ih =>
    have hstep := h.step_eq ('\n' :: rest) (.inr rfl)
    rw [bindings_eq_step, hstep, List.drop_one, List.tail_cons, ih]

/-! ### Adding a line -/

/-- A text with one more line, behind the end of the last one. -/
def joinLine (s line : List Char) : List Char :=
  if s.getLast?.all (· = '\n') then s ++ line else s ++ '\n' :: line

theorem joinLine_append (s rest line : List Char) :
    joinLine (s ++ '\n' :: rest) line = s ++ '\n' :: joinLine rest line := by
  have hlast : (s ++ '\n' :: rest).getLast?.all (· = '\n') = rest.getLast?.all (· = '\n') := by
    cases rest with
    | nil => simp
    | cons c rest => simp [List.getLast?_append, List.getLast?_cons]
  rw [joinLine, joinLine, hlast]
  split
  · simp
  · simp

theorem Lines.add {reader : Reader} {s line : List Char} {found : List Binding}
    {more : Option Binding} (h : Lines reader s found) (hline : Reads reader line more) :
    Lines reader (joinLine s line) (found ++ more.toList) := by
  induction h with
  | nil => exact .last hline
  | @blank rest found _ ih =>
    have hjoin := joinLine_append [] rest line
    rw [List.nil_append, List.nil_append] at hjoin
    rw [hjoin]
    exact .blank ih
  | @last s found h =>
    rw [joinLine]
    split
    · rename_i hlast
      -- only an empty text has no last line
      have hnil : s = [] := by
        rw [← List.getLast?_eq_none_iff]
        cases hs : s.getLast? with
        | none => rfl
        | some c =>
          rw [hs, Option.all_some, decide_eq_true_iff] at hlast
          exact absurd (hs.trans (congrArg some hlast)) h.finish
      have hfound : found = none := by
        have hstep := h.step_eq [] (.inl rfl)
        rw [hnil] at hstep
        exact (congrArg Prod.fst hstep).symm
      rw [hnil, hfound]
      exact .last hline
    · exact .next h (.last hline)
  | @next s rest found others h _ ih =>
    rw [joinLine_append, List.append_assoc]
    exact .next h ih

/-! ### Texts as they are written -/

def unmarked : List Char → List Char
  | '\ufeff' :: s => s
  | s => s

/-- What is read of a file: its text without a mark in front, with line feeds as line ends. -/
def content (text : String) : List Char :=
  normalizeLines (unmarked text.toList)

/-- A file with one more line. The last one is ended first, unless it is. -/
def addLine (text line : String) : String :=
  if (content text).getLast?.all (· = '\n') then text ++ line else text ++ "\n" ++ line

theorem values_eq (reader : Reader) (environment : String → Option String) (text : String) :
    values reader environment text =
      (bindings reader (content text)).foldl (define environment) [] := by
  rfl

theorem unmarked_append {s : List Char} (t : List Char)
    (h : s ≠ [] ∨ t.head? ≠ some '\ufeff') : unmarked (s ++ t) = unmarked s ++ t := by
  cases s with
  | nil =>
    have ht : t.head? ≠ some '\ufeff' := h.resolve_left fun hne => hne rfl
    cases t with
    | nil => rfl
    | cons c t =>
      have hc : c ≠ '\ufeff' := fun hc => ht (congrArg some hc)
      simp [unmarked, hc]
  | cons c s =>
    by_cases hc : c = '\ufeff'
    · rw [hc]
      rfl
    · simp [unmarked, hc]

/-- Line ends are written as line feeds part by part, unless one is cut in two. -/
theorem normalizeLines_append {s t : List Char}
    (h : s.getLast? ≠ some '\r' ∨ t.head? ≠ some '\n') :
    normalizeLines (s ++ t) = normalizeLines s ++ normalizeLines t := by
  have htail : ∀ {c : Char} {s : List Char}, (c :: s).getLast? ≠ some '\r' →
      s.getLast? ≠ some '\r' := fun {c s} hlast => by
    cases s with
    | nil => nofun
    | cons d s => rwa [List.getLast?_cons_cons] at hlast
  fun_induction normalizeLines s with
  | case1 => rfl
  | case2 s ih =>
    rw [List.cons_append, List.cons_append, normalizeLines,
      ih (h.imp_left fun h => htail (htail h)), List.cons_append]
  | case3 s hnext ih =>
    have hnext' : ∀ rest, s ++ t = '\n' :: rest → False := fun rest hrest => by
      cases s with
      | nil =>
        have ht : t.head? ≠ some '\n' := h.resolve_left fun hlast => hlast rfl
        rw [List.nil_append] at hrest
        exact ht (hrest ▸ rfl)
      | cons d s => exact hnext s (List.cons_eq_cons.mpr ⟨(List.cons.inj hrest).1, rfl⟩)
    rw [List.cons_append, normalizeLines.eq_3 _ hnext', ih (h.imp_left htail), List.cons_append]
  | case4 c s hpair hreturn ih =>
    rw [List.cons_append, normalizeLines.eq_4 _ _ (fun _ hc _ => hreturn hc) hreturn,
      ih (h.imp_left htail), List.cons_append]

theorem getLast?_normalizeLines {s : List Char} (h : s.getLast? = some '\r') :
    (normalizeLines s).getLast? = some '\n' := by
  obtain ⟨front, rfl⟩ := List.getLast?_eq_some_iff.mp h
  have hreturn : normalizeLines (front ++ ['\r']) = normalizeLines front ++ ['\n'] :=
    normalizeLines_append (.inr nofun)
  rw [hreturn]
  exact List.getLast?_concat

theorem normalizeLines_newline (s : List Char) :
    normalizeLines ('\n' :: s) = '\n' :: normalizeLines s := by
  have hne : '\n' ≠ '\r' := by
    decide
  exact normalizeLines.eq_4 _ _ (fun _ hc _ => hne hc) hne

theorem head?_normalizeLines {s : List Char} {c : Char} (hc : c ≠ '\r') (h : s.head? = some c) :
    (normalizeLines s).head? = some c := by
  obtain ⟨rest, rfl⟩ := List.head?_eq_some_iff.mp h
  rw [normalizeLines.eq_4 _ _ (fun _ hreturn _ => hc hreturn) hc]
  rfl

/-- One more line of a file is one more line of what is read of it. -/
theorem content_addLine {reader : Reader} {line : String} {found : Option Binding}
    (h : Reads reader (normalizeLines line.toList) found) (text : String) :
    content (addLine text line) = joinLine (content text) (normalizeLines line.toList) := by
  have hstart : line.toList.head? ≠ some '\n' := fun hhead =>
    h.start (head?_normalizeLines (by decide) hhead)
  have hmark : line.toList.head? ≠ some '\ufeff' := fun hhead =>
    h.unmarked (head?_normalizeLines (by decide) hhead)
  rw [addLine, joinLine]
  split
  · rw [content, String.toList_append, unmarked_append _ (.inr hmark),
      normalizeLines_append (.inr hstart)]
    rfl
  · rename_i hlast
    have hne : text.toList ≠ [] := fun hnil => hlast (by rw [content, hnil]; rfl)
    have hreturn : (unmarked text.toList).getLast? ≠ some '\r' := fun hreturn =>
      hlast (by rw [content, getLast?_normalizeLines hreturn]; rfl)
    rw [content, String.toList_append, String.toList_append, List.append_assoc,
      unmarked_append _ (.inl hne), normalizeLines_append (.inl hreturn)]
    exact congrArg (_ ++ ·) (normalizeLines_newline line.toList)

/-! ### Parts of lines -/

/-- A name as it stands in front of an equals sign, without quotes. -/
structure IsName (name : List Char) : Prop where
  ne_nil : name ≠ []
  plain : ∀ c ∈ name, c ≠ '=' ∧ c ≠ '#' ∧ isBlank c = false
  unquoted : name.head? ≠ some '\''
  unmarked : name.head? ≠ some '\ufeff'

instance (name : List Char) : Decidable (IsName name) :=
  decidable_of_iff (name ≠ [] ∧
      (name.all fun c => c ≠ '=' ∧ c ≠ '#' ∧ isBlank c = false) = true ∧
      name.head? ≠ some '\'' ∧ name.head? ≠ some '\ufeff')
    ⟨fun ⟨hne, hplain, hunquoted, hunmarked⟩ =>
      ⟨hne, fun c hc => of_decide_eq_true (List.all_eq_true.mp hplain c hc), hunquoted, hunmarked⟩,
    fun h => ⟨h.ne_nil, List.all_eq_true.mpr fun c hc => decide_eq_true (h.plain c hc), h.unquoted,
      h.unmarked⟩⟩

/-- A value as it stands behind the equals sign, without quotes. -/
structure IsBare (s : List Char) : Prop where
  single : '\n' ∉ s
  start : ∀ c, s.head? = some c → isHorizontalBlank c = false ∧ c ≠ '\'' ∧ c ≠ '"'

instance (s : List Char) : Decidable (IsBare s) :=
  decidable_of_iff ('\n' ∉ s ∧
      s.head?.all (fun c => isHorizontalBlank c = false ∧ c ≠ '\'' ∧ c ≠ '"') = true)
    ⟨fun ⟨hsingle, hstart⟩ =>
      ⟨hsingle, fun c hc => of_decide_eq_true ((Option.all_eq_true _ _).mp hstart c hc)⟩,
    fun h => ⟨h.single, (Option.all_eq_true _ _).mpr fun c hc => decide_eq_true (h.start c hc)⟩⟩

theorem lineEnd_of_atLineEnd {rest : List Char} (h : AtLineEnd rest) :
    lineEnd (skipComment rest) = .ok (rest.drop 1) := by
  rcases h with rfl | h
  · rfl
  · obtain ⟨after, rfl⟩ := List.head?_eq_some_iff.mp h
    have hblanks : skipBlanks ('\n' :: after) = '\n' :: after :=
      List.dropWhile_cons_of_neg (by decide)
    rw [skipComment, hblanks]
    change lineEnd ('\n' :: after) = _
    rw [lineEnd, hblanks]
    rfl

theorem cut_line {s rest : List Char} (hline : '\n' ∉ s) (hrest : AtLineEnd rest) :
    lineRest (s ++ rest) = s ∧ skipLine (s ++ rest) = rest := by
  have hs : ∀ c ∈ s, (c != '\n') = true := fun c hc => by
    rw [bne_iff_ne]
    rintro rfl
    exact hline hc
  rw [lineRest, skipLine, List.takeWhile_append_of_pos hs, List.dropWhile_append_of_pos hs]
  rcases hrest with rfl | hrest
  · exact ⟨List.append_nil s, rfl⟩
  · obtain ⟨after, rfl⟩ := List.head?_eq_some_iff.mp hrest
    exact ⟨List.append_nil s, rfl⟩

theorem skipBlanks_of_head {s : List Char}
    (h : ∀ c, s.head? = some c → isHorizontalBlank c = false) : skipBlanks s = s := by
  cases s with
  | nil => rfl
  | cons c s => exact List.dropWhile_cons_of_neg (by rw [h c rfl]; decide)

theorem cutQuoted_cons (reader : Reader) {c : Char} (hc : c ≠ '\\') (quote : Char)
    (s : List Char) :
    cutQuoted reader quote (c :: s) =
      if c = quote then some ([], s)
      else (cutQuoted reader quote s).map fun (value, rest) => (c :: value, rest) :=
  cutQuoted.eq_4 _ _ _ _ (fun hback _ => hc hback) fun _ _ hback _ => hc hback

/-- The escapes that count between quotes. -/
def escapeOf (quote : Char) : Char → Option Char :=
  if quote = '"' then doubleEscape? else singleEscape?

end SignedHttp.Settings.File
