import SignedHttp.Proofs.Settings.Assignments
import SignedHttp.Proofs.Settings.References

/-!
# Writing settings files

A value that does not end with a backslash can be written between single quotes: a backslash goes in
front of each backslash and of each single quote in it (`escape`). What is written so does not close
its quotes (`unbroken_escape`), to whichever reader, and is read as the value that it was made from
(`unescape_escape`), so that a file of such lines assigns its values to its names, however the lines
end (`Written.consists`).

Key definitions: `escape`, `assignment`, `IsLineEnd`, `Written`.
Key theorems: `unbroken_escape`, `unescape_escape`, `references_eq_nil`, `Written.consists`.
-/

namespace SignedHttp.Settings.File

/-! ### Values between quotes -/

/-- A value as it is written between single quotes. -/
def escape : List Char → List Char
  | [] => []
  | c :: s => if c = '\\' ∨ c = '\'' then '\\' :: c :: escape s else c :: escape s

theorem head?_escape (s : List Char) : (escape s).head? ≠ some '\'' := by
  cases s with
  | nil => nofun
  | cons c s =>
    unfold escape
    split
    · exact fun h => absurd (Option.some.inj h) (by decide)
    · rename_i h
      exact fun hhead => h (.inr (Option.some.inj hhead))

/-- A backslash in front of what is written belongs to no quote, if only quotes have one. -/
theorem unbroken_backslash_escape {s : List Char} (hne : s ≠ [])
    (h : Unbroken .loose '\'' (escape s)) : Unbroken .loose '\'' ('\\' :: escape s) := by
  have hquote := head?_escape s
  cases hs : escape s with
  | nil =>
    cases s with
    | nil => exact absurd rfl hne
    | cons c s =>
      unfold escape at hs
      split at hs <;> cases hs
  | cons d rest =>
    rw [hs] at h hquote
    exact .apart (decide_eq_false fun hd => hquote (congrArg some hd)) h

theorem unbroken_escape (reader : Reader) : ∀ {s : List Char}, s.getLast? ≠ some '\\' →
    Unbroken reader '\'' (escape s)
  | [], _ => .nil
  | c :: s, hlast => by
    have hrest : s.getLast? ≠ some '\\' := by
      cases s with
      | nil => nofun
      | cons d s => rwa [List.getLast?_cons_cons] at hlast
    have ih := unbroken_escape reader hrest
    by_cases hback : c = '\\'
    · subst hback
      have hne : s ≠ [] := by
        rintro rfl
        exact hlast rfl
      cases reader with
      | paired => exact .escaped rfl ih
      | loose => exact .apart rfl (unbroken_backslash_escape hne ih)
    · by_cases hquote : c = '\''
      · subst hquote
        cases reader <;> exact .escaped rfl ih
      · rw [escape, if_neg (not_or.mpr ⟨hback, hquote⟩)]
        exact .plain hback hquote ih

theorem unescape_cons {escape? : Char → Option Char} {c : Char} (h : c ≠ '\\') (s : List Char) :
    unescape escape? (c :: s) = c :: unescape escape? s :=
  unescape.eq_4 _ _ _ (fun hback _ => h hback) fun _ _ hback _ => h hback

/-- What is written between single quotes is read as it was. -/
theorem unescape_escape (s : List Char) : unescape singleEscape? (escape s) = s := by
  induction s with
  | nil => rfl
  | cons c s ih =>
    unfold escape
    by_cases h : c = '\\' ∨ c = '\''
    · have hescape : singleEscape? c = some c := by
        unfold singleEscape?
        simp [h]
      rw [if_pos h, unescape, hescape, ih]
    · rw [if_neg h, unescape_cons (not_or.mp h).1, ih]

theorem mem_of_mem_escape {s : List Char} {d : Char} (hd : d ≠ '\\') (h : d ∈ escape s) :
    d ∈ s := by
  induction s with
  | nil => exact h
  | cons c s ih =>
    unfold escape at h
    split at h
    · rcases List.mem_cons.mp h with rfl | h
      · exact absurd rfl hd
      · rcases List.mem_cons.mp h with rfl | h
        · exact List.mem_cons_self
        · exact List.mem_cons_of_mem _ (ih h)
    · rcases List.mem_cons.mp h with rfl | h
      · exact List.mem_cons_self
      · exact List.mem_cons_of_mem _ (ih h)

theorem references_eq_nil {s : List Char} (h : ¬ ['$', '\x7b'] <:+: s) : references s = [] := by
  fun_induction references s with
  | case1 => rfl
  | case2 s => exact absurd ⟨[], s, rfl⟩ h
  | case3 s => exact absurd ⟨[], s, rfl⟩ h
  | case4 c s _ ih => exact ih fun hs => h (List.infix_cons hs)

/-! ### Lines and files -/

def assignment (name value : String) : List Char :=
  name.toList ++ '=' :: '\'' :: (escape value.toList ++ ['\''])

inductive IsLineEnd : List Char → Prop
  | feed : IsLineEnd ['\n']
  | carriage : IsLineEnd ['\r']
  | both : IsLineEnd ['\r', '\n']

/-- A text with one line for each name and its value. The last line may lack its end. -/
inductive Written : List (String × String) → List Char → Prop
  | nil : Written [] []
  | last (name value : String) : Written [(name, value)] (assignment name value)
  | next (name value : String) {lines : List (String × String)} {lineEnd s : List Char}
      (hend : IsLineEnd lineEnd) (h : Written lines s) :
      Written ((name, value) :: lines) (assignment name value ++ lineEnd ++ s)

theorem normalizeLines_of_notMem {s : List Char} (h : '\r' ∉ s) : normalizeLines s = s := by
  fun_induction normalizeLines s with
  | case1 => rfl
  | case2 => exact absurd List.mem_cons_self h
  | case3 => exact absurd List.mem_cons_self h
  | case4 c s _ _ ih => rw [ih (List.not_mem_of_not_mem_cons h)]

theorem assigns_assignment (reader : Reader) {name value : String} (h : IsName name.toList)
    (hlast : value.toList.getLast? ≠ some '\\') :
    Assigns reader (assignment name value) name.toList value.toList := by
  have hvalue := @SpelledValue.quoted reader [] (escape value.toList) [] '\'' nofun (.inl rfl)
    (unbroken_escape reader hlast) (.gap nofun)
  have hread : unescape (escapeOf '\'') (escape value.toList) = value.toList :=
    unescape_escape _
  rw [hread] at hvalue
  have hline :=
    @Assigns.mk reader [] [] _ _ [] _ _ nofun .none (.bare h) nofun (fun _ => rfl) hvalue
  simpa [assignment] using hline

theorem return_notMem_assignment {name value : String} (h : IsName name.toList)
    (hvalue : '\r' ∉ value.toList) : '\r' ∉ assignment name value := by
  have hname : '\r' ∉ name.toList := fun hmem =>
    absurd (h.plain _ hmem).2.2 (by decide)
  have hescape : '\r' ∉ escape value.toList := fun hmem =>
    hvalue (mem_of_mem_escape (by decide) hmem)
  unfold assignment
  simp [hname, hescape]

/-- A line begins with its name, and so neither with a line end nor with a mark. -/
theorem head_assignment {name : String} (h : IsName name.toList) (value : String)
    (rest : List Char) :
    (assignment name value ++ rest).head? ≠ some '\n' ∧
      (assignment name value ++ rest).head? ≠ some '\ufeff' := by
  have hhead : (assignment name value ++ rest).head? = name.toList.head? := by
    obtain ⟨first, others, hcons⟩ := List.exists_cons_of_ne_nil h.ne_nil
    unfold assignment
    rw [hcons]
    rfl
  rw [hhead]
  refine ⟨fun hfeed => ?_, h.unmarked⟩
  have hblank := (h.plain _ (List.mem_of_mem_head? hfeed)).2.2
  exact absurd hblank (by decide)

section Written

variable {lines : List (String × String)} {s : List Char}

theorem Written.head (h : Written lines s) (hnames : ∀ line ∈ lines, IsName line.1.toList) :
    s.head? ≠ some '\n' ∧ s.head? ≠ some '\ufeff' := by
  cases h with
  | nil => exact ⟨nofun, nofun⟩
  | last name value =>
    have hhead := head_assignment (hnames _ List.mem_cons_self) value []
    rwa [List.append_nil] at hhead
  | next name value hend h =>
    rw [List.append_assoc]
    exact head_assignment (hnames _ List.mem_cons_self) value _

/-- A file that is written so assigns its values to its names, to whichever reader. -/
theorem Written.consists (reader : Reader) (h : Written lines s)
    (hnames : ∀ line ∈ lines, IsName line.1.toList)
    (hvalues : ∀ line ∈ lines, '\r' ∉ line.2.toList ∧ line.2.toList.getLast? ≠ some '\\') :
    Consists reader (normalizeLines s) lines := by
  induction h with
  | nil => exact .blank nofun
  | last name value =>
    have hname := hnames _ List.mem_cons_self
    obtain ⟨hplain, hlast⟩ := hvalues _ List.mem_cons_self
    have hline := Consists.last (assigns_assignment reader hname hlast)
    rw [normalizeLines_of_notMem (return_notMem_assignment hname hplain)]
    simpa using hline
  | @next name value lines lineEnd s hend h ih =>
    obtain ⟨hname, hnames⟩ := List.forall_mem_cons.mp hnames
    obtain ⟨⟨hvalue, hback⟩, hvalues⟩ := List.forall_mem_cons.mp hvalues
    have hplain := return_notMem_assignment hname hvalue
    have hline := Consists.next (assigns_assignment reader hname hback) (ih hnames hvalues)
    have hcut : normalizeLines (lineEnd ++ s) = '\n' :: normalizeLines s := by
      cases hend with
      | feed => exact normalizeLines_newline s
      | carriage => exact normalizeLines_append (s := ['\r']) (.inr (h.head hnames).1)
      | both => rfl
    have hlast : (assignment name value).getLast? ≠ some '\r' := fun hlast =>
      hplain (List.mem_of_getLast? hlast)
    rw [List.append_assoc, normalizeLines_append (.inl hlast), normalizeLines_of_notMem hplain,
      hcut]
    simpa using hline

end Written

end SignedHttp.Settings.File
