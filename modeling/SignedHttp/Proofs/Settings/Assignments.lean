import Mathlib.Data.List.TakeWhile
import SignedHttp.Proofs.Settings.Lines

/-!
# Files of assignments

How a settings file is written that assigns values to names and does nothing else, said without
reading it. Each assignment is a line, perhaps with blank lines in front: a name, an equals sign
with blanks around it, and a value (`Assigns`). The word `export` may come first. A name stands bare
or between single quotes; a value stands bare, up to a comment or the end of its line, or between
quotes of which none stands in it without a backslash in front, and none at its end is taken for a
part of it (`Unbroken`). What that means depends on the reader.

Each such line is read as what it assigns, whatever follows it (`Assigns.step_eq`), and so a file of
them binds what its lines assign, in their order (`Consists.bindings_eq`).

Key definitions: `Unbroken`, `SpelledName`, `SpelledValue`, `Assigns`, `Consists`.
Key theorems: `Assigns.step_eq`, `Consists.bindings_eq`.
-/

namespace SignedHttp.Settings.File

open Text

/-! ### Lines -/

/-- A text between quotes that goes on to the closing quote: no quote stands in it without a
backslash in front, and no backslash without a character behind. -/
inductive Unbroken (reader : Reader) (quote : Char) : List Char → Prop
  | nil : Unbroken reader quote []
  | escaped {c : Char} {s : List Char} (hpairs : reader.pairs quote c = true)
      (h : Unbroken reader quote s) : Unbroken reader quote ('\\' :: c :: s)
  | apart {c : Char} {s : List Char} (hpairs : reader.pairs quote c = false)
      (h : Unbroken reader quote (c :: s)) : Unbroken reader quote ('\\' :: c :: s)
  | plain {c : Char} {s : List Char} (hback : c ≠ '\\') (hquote : c ≠ quote)
      (h : Unbroken reader quote s) : Unbroken reader quote (c :: s)

inductive SpelledName : List Char → List Char → Prop
  | bare {name : List Char} (h : IsName name) : SpelledName name name
  | quoted {name : List Char} (hne : name ≠ []) (h : '\'' ∉ name) :
      SpelledName ('\'' :: name ++ ['\'']) name

def IsGap (s : List Char) : Prop :=
  ∀ c ∈ s, isHorizontalBlank c = true

instance (s : List Char) : Decidable (IsGap s) :=
  decidable_of_iff (s.all isHorizontalBlank = true) List.all_eq_true

/-- What may stand behind a quoted value: blanks, and then a comment or nothing. -/
inductive IsTail : List Char → Prop
  | gap {s : List Char} (h : IsGap s) : IsTail s
  | comment {s text : List Char} (h : IsGap s) (htext : '\n' ∉ text) : IsTail (s ++ '#' :: text)

/-- What stands behind an equals sign on its line, and the value that it is. -/
inductive SpelledValue (reader : Reader) : List Char → List Char → Prop
  | bare {s : List Char} (hline : '\n' ∉ s)
      (hquote : ∀ c, (skipBlanks s).head? = some c → c ≠ '\'' ∧ c ≠ '"') :
      SpelledValue reader s (bareValue (reader.searched s))
  | quoted {gap body tail : List Char} {quote : Char} (hgap : IsGap gap)
      (hquote : quote = '\'' ∨ quote = '"') (hbody : Unbroken reader quote body)
      (htail : IsTail tail) :
      SpelledValue reader (gap ++ quote :: (body ++ quote :: tail))
        (unescape (escapeOf quote) body)

/-- What may stand in front of a name: nothing, or the word `export` and blanks. -/
inductive IsOpening : List Char → Prop
  | none : IsOpening []
  | word {gap : List Char} (hne : gap ≠ []) (h : IsGap gap) : IsOpening ("export".toList ++ gap)

/-- A line that assigns a value to a name, with the blank lines in front of it. A name that is
written like the word `export` is followed by its equals sign at once. -/
inductive Assigns (reader : Reader) : List Char → List Char → List Char → Prop
  | mk {lead opening key name gap s value : List Char} (hlead : ∀ c ∈ lead, isBlank c = true)
      (hopening : IsOpening opening) (hname : SpelledName key name) (hgap : IsGap gap)
      (hword : key = "export".toList → gap = []) (hvalue : SpelledValue reader s value) :
      Assigns reader (lead ++ opening ++ key ++ gap ++ '=' :: s) name value

/-- A text of such lines, and the names and values that they assign. The last line may lack its
end. -/
inductive Consists (reader : Reader) : List Char → List (String × String) → Prop
  | blank {s : List Char} (h : ∀ c ∈ s, isBlank c = true) : Consists reader s []
  | last {s name value : List Char} (h : Assigns reader s name value) :
      Consists reader s [(.ofList name, .ofList value)]
  | next {s name value rest : List Char} {lines : List (String × String)}
      (h : Assigns reader s name value) (hrest : Consists reader rest lines) :
      Consists reader (s ++ '\n' :: rest) ((.ofList name, .ofList value) :: lines)

/-! ### Parts of a line -/

theorem isBlank_of_isHorizontalBlank {c : Char} (h : isHorizontalBlank c = true) :
    isBlank c = true := by
  unfold isHorizontalBlank at h
  simp only [Bool.and_eq_true] at h
  exact h.1.1

theorem skipBlanks_append {gap : List Char} (hgap : IsGap gap) {s : List Char}
    (hs : ∀ c, s.head? = some c → isHorizontalBlank c = false) : skipBlanks (gap ++ s) = s := by
  unfold skipBlanks
  rw [List.dropWhile_append_of_pos hgap]
  exact skipBlanks_of_head hs

theorem isHorizontalBlank_of_atLineEnd {rest : List Char} (h : AtLineEnd rest) (c : Char)
    (hc : rest.head? = some c) : isHorizontalBlank c = false := by
  rcases h with rfl | h
  · cases hc
  · rw [h] at hc
    obtain rfl := Option.some.inj hc
    decide

theorem Unbroken.cutQuoted_eq {reader : Reader} {quote : Char} (hquote : quote ≠ '\\')
    {s : List Char} (h : Unbroken reader quote s) (rest : List Char) :
    cutQuoted reader quote (s ++ quote :: rest) = some (s, rest) := by
  induction h with
  | nil =>
    rw [List.nil_append, cutQuoted_cons reader hquote, if_pos rfl]
  | @escaped c s hpairs _ ih =>
    rw [List.cons_append, List.cons_append, cutQuoted, if_pos hpairs, ih]
  | @apart c s hpairs _ ih =>
    rw [List.cons_append] at ih
    rw [List.cons_append, List.cons_append, cutQuoted, hpairs, if_neg Bool.false_ne_true, ih]
    rfl
  | @plain c s hback hne _ ih =>
    rw [List.cons_append, cutQuoted_cons reader hback, if_neg hne, ih]
    rfl

/-- Where a name has ended: at the equals sign, or at a blank in front of it. -/
def AtNameEnd (s : List Char) : Prop :=
  ∃ c, s.head? = some c ∧ (c = '=' ∨ isBlank c = true)

theorem atNameEnd_gap {gap : List Char} (h : IsGap gap) (s : List Char) :
    AtNameEnd (gap ++ '=' :: s) := by
  cases gap with
  | nil => exact ⟨'=', rfl, .inl rfl⟩
  | cons c gap =>
    exact ⟨c, rfl, .inr (isBlank_of_isHorizontalBlank (h c List.mem_cons_self))⟩

theorem SpelledName.name_eq {key found : List Char} (h : SpelledName key found) {s : List Char}
    (hs : AtNameEnd s) : name (key ++ s) = .ok (some found, s) := by
  obtain ⟨last, hlast, hend⟩ := hs
  obtain ⟨rest, rfl⟩ := List.head?_eq_some_iff.mp hlast
  cases h with
  | bare h =>
    have hkey : ∀ c ∈ key, (c != '=' && c != '#' && !isBlank c) = true := fun c hc => by
      obtain ⟨hequals, hnumber, hblank⟩ := h.plain c hc
      simp [hequals, hnumber, hblank]
    have hstop : (last != '=' && last != '#' && !isBlank last) = false := by
      rcases hend with rfl | hblank
      · decide
      · simp [hblank]
    obtain ⟨first, others, rfl⟩ := List.exists_cons_of_ne_nil h.ne_nil
    rw [name.eq_def]
    split
    · rename_i heq
      exact absurd (List.cons.inj heq).1 (h.plain first List.mem_cons_self).2.1
    · rename_i heq
      exact absurd (congrArg some (List.cons.inj heq).1) h.unquoted
    · dsimp only
      rw [List.takeWhile_append_of_pos hkey, List.dropWhile_append_of_pos hkey,
        List.takeWhile_cons_of_neg (by simp [hstop]), List.dropWhile_cons_of_neg (by simp [hstop]),
        List.append_nil]
  | quoted hne h =>
    have hfound : ∀ c ∈ found, (c != '\'') = true := fun c hc => by
      rw [bne_iff_ne]
      rintro rfl
      exact h hc
    have hquoted : '\'' :: found ++ ['\''] ++ last :: rest =
        '\'' :: (found ++ '\'' :: last :: rest) := by
      simp
    have htake : (found ++ '\'' :: last :: rest).takeWhile (· != '\'') = found := by
      rw [List.takeWhile_append_of_pos hfound]
      simp
    have hdrop : (found ++ '\'' :: last :: rest).dropWhile (· != '\'') = '\'' :: last :: rest := by
      rw [List.dropWhile_append_of_pos hfound]
      simp
    rw [hquoted]
    unfold name
    simp [htake, hdrop, hne]

/-- A name that is not written like the word `export` is not taken for it, even if it begins so. -/
theorem skipExport_name {key found gap : List Char} (hname : SpelledName key found)
    (hgap : IsGap gap) (hword : key = "export".toList → gap = []) (s : List Char) :
    skipExport (key ++ gap ++ '=' :: s) = key ++ gap ++ '=' :: s := by
  rw [List.append_assoc]
  obtain ⟨last, hlast, hend⟩ := atNameEnd_gap hgap s
  unfold skipExport
  split
  · rename_i rest hafter
    suffices hhead : rest.head?.any isHorizontalBlank = false by
      rw [hhead]
      rfl
    have hsplit := eq_append_of_after? hafter
    cases hname with
    | quoted => cases (List.cons.inj hsplit).1
    | bare h =>
      rcases List.append_eq_append_iff.mp hsplit with
        ⟨front, hfront, hrest⟩ | ⟨front, hfront, hrest⟩
      · -- the word is the name and what stands in front of the equals sign
        cases front with
        | nil =>
          rw [List.append_nil] at hfront
          rw [hword hfront.symm, List.nil_append, List.nil_append] at hrest
          rw [← hrest]
          exact (by decide : isHorizontalBlank '=' = false)
        | cons c front =>
          rw [hrest] at hlast
          obtain rfl : c = last := Option.some.inj hlast
          have hmem : c ∈ "export".toList := hfront ▸ List.mem_append_right _ List.mem_cons_self
          rcases hend with rfl | hblank
          · exact absurd hmem (by decide)
          · have hletters : ("export".toList.all fun d => !isBlank d) = true := by
              decide
            have hletter := List.all_eq_true.mp hletters c hmem
            rw [hblank] at hletter
            cases hletter
      · -- the name is longer than the word, or the word is just the name
        cases front with
        | nil =>
          rw [List.append_nil] at hfront
          rw [hword hfront, List.nil_append, List.nil_append] at hrest
          rw [hrest]
          exact (by decide : isHorizontalBlank '=' = false)
        | cons c front =>
          have hc := h.plain c (hfront ▸ List.mem_append_right _ List.mem_cons_self)
          rw [hrest]
          simp [isHorizontalBlank, hc.2.2]
  · rfl

theorem SpelledName.head {key found : List Char} (h : SpelledName key found) (s : List Char) :
    ∃ c, (key ++ s).head? = some c ∧ isBlank c = false := by
  cases h with
  | bare h =>
    obtain ⟨first, others, rfl⟩ := List.exists_cons_of_ne_nil h.ne_nil
    exact ⟨first, rfl, (h.plain first List.mem_cons_self).2.2⟩
  | quoted => exact ⟨'\'', rfl, by decide⟩

theorem skipExport_opening {opening key found gap : List Char} (hopening : IsOpening opening)
    (hname : SpelledName key found) (hgap : IsGap gap)
    (hword : key = "export".toList → gap = []) (s : List Char) :
    skipExport (opening ++ key ++ gap ++ '=' :: s) = key ++ gap ++ '=' :: s := by
  cases hopening with
  | none => exact skipExport_name hname hgap hword s
  | @word blanks hne hblanks =>
    obtain ⟨first, others, rfl⟩ := List.exists_cons_of_ne_nil hne
    have hfirst := hblanks first List.mem_cons_self
    obtain ⟨c, hc, hblank⟩ := hname.head (gap ++ '=' :: s)
    have hassoc : "export".toList ++ (first :: others) ++ key ++ gap ++ '=' :: s =
        "export".toList ++ ((first :: others) ++ (key ++ (gap ++ '=' :: s))) := by
      simp
    rw [hassoc, skipExport, after?_append]
    dsimp only
    rw [if_pos (by simp [hfirst]), skipBlanks_append hblanks, List.append_assoc]
    intro d hd
    obtain rfl : c = d := Option.some.inj (hc.symm.trans hd)
    simp [isHorizontalBlank, hblank]

theorem bareValue_gap {s : List Char} (h : IsGap s) : bareValue s = [] := by
  have hcut : ∀ t : List Char, IsGap t → cutComment t = t := by
    intro t
    induction t with
    | nil => exact fun _ => rfl
    | cons c t ih =>
      intro ht
      obtain ⟨-, ht⟩ := List.forall_mem_cons.mp ht
      have hnumber : t.head? ≠ some '#' := fun hhead => by
        obtain ⟨after, rfl⟩ := List.head?_eq_some_iff.mp hhead
        exact absurd (ht '#' List.mem_cons_self) (by decide)
      simp [cutComment, hnumber, ih ht]
  unfold bareValue
  rw [hcut s h]
  have hskip := skipBlanks_append h (s := []) nofun
  rw [List.append_nil] at hskip
  rw [hskip]
  rfl

theorem bareValue_searched_gap (reader : Reader) {s : List Char} (h : IsGap s) :
    bareValue (reader.searched s) = [] := by
  cases reader with
  | paired => exact bareValue_gap h
  | loose =>
    have hskip : skipBlanks s = [] := List.dropWhile_eq_nil_iff.mpr h
    change bareValue (skipBlanks s) = []
    rw [hskip]
    rfl

theorem IsTail.lineEnd_eq {tail rest : List Char} (h : IsTail tail) (hrest : AtLineEnd rest) :
    lineEnd (skipComment (tail ++ rest)) = .ok (rest.drop 1) := by
  have hstart := isHorizontalBlank_of_atLineEnd hrest
  cases h with
  | gap h =>
    have hskip : skipComment (tail ++ rest) = tail ++ rest := by
      unfold skipComment
      rw [skipBlanks_append h hstart]
      rcases hrest with rfl | hrest
      · rfl
      · obtain ⟨after, rfl⟩ := List.head?_eq_some_iff.mp hrest
        rfl
    unfold lineEnd
    rw [hskip, skipBlanks_append h hstart]
    rcases hrest with rfl | hrest
    · rfl
    · obtain ⟨after, rfl⟩ := List.head?_eq_some_iff.mp hrest
      rfl
  | @comment gap text h htext =>
    have hskip : skipComment (gap ++ '#' :: text ++ rest) = rest := by
      unfold skipComment
      rw [List.append_assoc, skipBlanks_append h (by simp +decide)]
      exact (cut_line htext hrest).2
    have hnone := skipBlanks_of_head hstart
    unfold lineEnd
    rw [hskip, hnone]
    rcases hrest with rfl | hrest
    · rfl
    · obtain ⟨after, rfl⟩ := List.head?_eq_some_iff.mp hrest
      rfl

/-- The value behind an equals sign is read as it is meant, and then nothing is left of the line. -/
theorem SpelledValue.value_eq {reader : Reader} {s found : List Char}
    (h : SpelledValue reader s found) {rest : List Char} (hrest : AtLineEnd rest) :
    ∃ after, value reader (s ++ rest) = .ok (found, after) ∧
      lineEnd (skipComment after) = .ok (rest.drop 1) := by
  have hstart := isHorizontalBlank_of_atLineEnd hrest
  cases h with
  | bare hline hquote =>
    refine ⟨rest, ?_, lineEnd_of_atLineEnd hrest⟩
    obtain ⟨hvalue, hafter⟩ := cut_line hline hrest
    unfold value
    rw [hvalue, hafter]
    cases hskip : skipBlanks s with
    | nil =>
      have hgap : IsGap s := List.dropWhile_eq_nil_iff.mp hskip
      rw [skipBlanks_append hgap hstart, bareValue_searched_gap reader hgap]
      rcases hrest with rfl | hrest
      · rfl
      · obtain ⟨after, rfl⟩ := List.head?_eq_some_iff.mp hrest
        rfl
    | cons c after =>
      obtain ⟨hsingle, hdouble⟩ := hquote c (by rw [hskip]; rfl)
      have hmore : skipBlanks (s ++ rest) = c :: (after ++ rest) := by
        unfold skipBlanks at hskip ⊢
        simp [List.dropWhile_append, hskip]
      rw [hmore]
      simp [hsingle, hdouble]
  | @quoted gap body tail quote hgap hquote hbody htail =>
    refine ⟨tail ++ rest, ?_, htail.lineEnd_eq hrest⟩
    have hback : quote ≠ '\\' := by
      rcases hquote with rfl | rfl
      · decide
      · decide
    have hblank : isHorizontalBlank quote = false := by
      rcases hquote with rfl | rfl
      · decide
      · decide
    have hskip : skipBlanks (gap ++ quote :: (body ++ quote :: tail) ++ rest) =
        quote :: (body ++ quote :: (tail ++ rest)) := by
      rw [List.append_assoc, skipBlanks_append hgap (by simp [hblank])]
      simp
    unfold value
    rw [hskip]
    dsimp only
    rw [if_pos (by simpa using hquote), hbody.cutQuoted_eq hback]
    rfl

/-! ### Lines and files -/

/-- An assignment is read as what it assigns, whatever lines follow it. -/
theorem Assigns.step_eq {reader : Reader} {s found value : List Char}
    (h : Assigns reader s found value) {rest : List Char} (hrest : AtLineEnd rest) :
    step reader (s ++ rest) = (some ⟨.ofList found, some (.ofList value)⟩, rest.drop 1) := by
  obtain ⟨hlead, hopening, hname, hgap, hword, hvalue⟩ := h
  rename_i lead opening key gap s
  obtain ⟨after, hread, hend⟩ := hvalue.value_eq hrest
  have hequals : skipBlanks (gap ++ '=' :: (s ++ rest)) = '=' :: (s ++ rest) :=
    skipBlanks_append hgap (by simp +decide)
  have hassigned : assigned reader (gap ++ '=' :: (s ++ rest)) = .ok (some value, after) := by
    unfold assigned
    rw [hequals]
    simp [hread]
  have hline : line reader (opening ++ key ++ gap ++ '=' :: (s ++ rest)) =
      .ok (some ⟨.ofList found, some (.ofList value)⟩, rest.drop 1) := by
    unfold line
    rw [skipExport_opening hopening hname hgap hword, List.append_assoc,
      hname.name_eq (atNameEnd_gap hgap _)]
    dsimp only
    rw [hassigned]
    dsimp only
    rw [hend]
    rfl
  have hstart : ∃ c t, opening ++ key ++ gap ++ '=' :: (s ++ rest) = c :: t ∧
      isBlank c = false := by
    cases hopening with
    | none =>
      obtain ⟨c, hc, hblank⟩ := hname.head (gap ++ '=' :: (s ++ rest))
      obtain ⟨t, ht⟩ := List.head?_eq_some_iff.mp hc
      exact ⟨c, t, by rw [← ht]; simp, hblank⟩
    | word => exact ⟨'e', _, rfl, by decide⟩
  obtain ⟨c, t, hcons, hblank⟩ := hstart
  have hdrop : (lead ++ opening ++ key ++ gap ++ '=' :: s ++ rest).dropWhile isBlank =
      opening ++ key ++ gap ++ '=' :: (s ++ rest) := by
    have hassoc : lead ++ opening ++ key ++ gap ++ '=' :: s ++ rest =
        lead ++ (opening ++ key ++ gap ++ '=' :: (s ++ rest)) := by
      simp
    rw [hassoc, List.dropWhile_append_of_pos hlead, hcons,
      List.dropWhile_cons_of_neg (by simp [hblank])]
  unfold step
  rw [hdrop, hcons]
  dsimp only
  rw [← hcons, hline]

def bindingOf (line : String × String) : Binding :=
  ⟨line.1, some line.2⟩

/-- A file of assignments binds what they assign, in their order. -/
theorem Consists.bindings_eq {reader : Reader} {s : List Char} {lines : List (String × String)}
    (h : Consists reader s lines) : bindings reader s = lines.map bindingOf := by
  induction h with
  | @blank s h =>
    have hnil : s.dropWhile isBlank = [] := List.dropWhile_eq_nil_iff.mpr h
    have hstep : step reader s = (none, []) := by
      unfold step
      rw [hnil]
    rw [bindings_eq_step, hstep, bindings_nil]
    rfl
  | last h =>
    have hstep := h.step_eq (.inl rfl)
    rw [List.append_nil] at hstep
    rw [bindings_eq_step, hstep, List.drop_nil, bindings_nil]
    rfl
  | next h _ ih =>
    rw [bindings_eq_step, h.step_eq (.inr rfl), List.drop_one, List.tail_cons, ih]
    rfl

/-! ### Lines that are read by themselves -/

section Reads

variable {reader : Reader} {key : List Char}

theorem reads_assignment (h : IsName key) {s found : List Char}
    (hvalue : SpelledValue reader s found) (hfinish : s.getLast? ≠ some '\n') :
    Reads reader (key ++ '=' :: s) (some ⟨.ofList key, some (.ofList found)⟩) := by
  have hassigns : Assigns reader (key ++ '=' :: s) key found := by
    have hline :=
      @Assigns.mk reader [] [] _ _ [] _ _ nofun .none (.bare h) nofun (fun _ => rfl) hvalue
    simpa using hline
  obtain ⟨first, others, rfl⟩ := List.exists_cons_of_ne_nil h.ne_nil
  obtain ⟨_, _, hblank⟩ := h.plain first List.mem_cons_self
  refine ⟨fun hstart => ?_, fun hmark => ?_, fun hlast => ?_, fun rest hrest =>
    hassigns.step_eq hrest⟩
  · obtain rfl : first = '\n' := Option.some.inj hstart
    exact absurd hblank (by decide)
  · exact h.unmarked hmark
  · rw [List.getLast?_append, List.getLast?_cons] at hlast
    cases hs : s.getLast? with
    | none =>
      rw [hs] at hlast
      exact absurd (Option.some.inj hlast) (by decide)
    | some c =>
      rw [hs] at hlast
      exact hfinish (hs.trans hlast)

theorem reads_bare (h : IsName key) {s : List Char} (hs : IsBare s) :
    Reads reader (key ++ '=' :: s) (some ⟨.ofList key, some (.ofList (bareValue s))⟩) := by
  have hskip : skipBlanks s = s := skipBlanks_of_head fun c hc => (hs.start c hc).1
  have hsearched : reader.searched s = s := by
    cases reader with
    | paired => rfl
    | loose => exact hskip
  have hvalue : SpelledValue reader s (bareValue (reader.searched s)) :=
    .bare hs.single fun c hc => (hs.start c (by rwa [hskip] at hc)).2
  rw [hsearched] at hvalue
  exact reads_assignment h hvalue fun hlast => hs.single (List.mem_of_getLast? hlast)

/-- A name and a text between quotes that it does not close are a line, also if that text has
several lines. -/
theorem reads_quoted (h : IsName key) {quote : Char} (hquote : quote = '\'' ∨ quote = '"')
    {s : List Char} (hs : Unbroken reader quote s) :
    Reads reader (key ++ '=' :: (quote :: s ++ [quote]))
      (some ⟨.ofList key, some (.ofList (unescape (escapeOf quote) s))⟩) := by
  refine reads_assignment h (@SpelledValue.quoted reader [] s [] quote nofun hquote hs (.gap nofun))
    fun hlast => ?_
  rw [List.getLast?_concat] at hlast
  obtain rfl := Option.some.inj hlast
  rcases hquote with hquote | hquote
  · exact absurd hquote (by decide)
  · exact absurd hquote (by decide)

end Reads

end SignedHttp.Settings.File
