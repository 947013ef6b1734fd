import SignedHttp.Headers

/-!
# Fields by name

A mapping folds the values of a name into one, a list repeats the name. What both say of a
name is the list of its values (`valuesOf`). Folding a field in changes it for the field's own
name only (`valuesOf_foldIn_of_ne`), where the value joins the first one
(`valuesOf_foldIn_of_same`). Over a run of fields the value of a name is therefore the join of
all that a list would hold (`valuesOf_foldAll`): the induction carries the values that the
list holds so far, and the mapping has their join.

Key definitions: `Headers.foldAll`, `Headers.valuesOf`, `Headers.Distinct`, `Headers.joined`,
`Headers.Holds`.
Key theorems: `Headers.appendAll_named`, `Headers.valuesOf_foldAll`, `Headers.exists_ofPairs`,
`Headers.ofPairs_of_holds`.
-/

namespace SignedHttp.Headers

/-- The fields after folding others in, one after the other. -/
def foldAll (added fields : List Field) : List Field :=
  added.foldl (fun done field => foldIn field.1 field.2 done) fields

theorem foldAll_append (first second fields : List Field) :
    foldAll (first ++ second) fields = foldAll second (foldAll first fields) :=
  List.foldl_append

/-- The values of all fields of a name, in whatever letter case. -/
def valuesOf (name : String) (fields : List Field) : List String :=
  (fields.filter fun field => Text.sameName field.1 name).map Prod.snd

def Distinct (fields : List Field) : Prop :=
  fields.Pairwise fun a b => Text.sameName a.1 b.1 = false

/-- What a mapping holds of values that a list would repeat: their join, if there are any. -/
def joined (values : List String) : List String :=
  if values.isEmpty then [] else [", ".intercalate values]

theorem appendAll_named (rule : NameRule) : ∀ added fields : List Field,
    (named rule fields).appendAll (added.map entryOf) = (named rule (foldAll added fields), none)
  | [], _ => rfl
  | (name, value) :: added, fields => appendAll_named rule added (foldIn name value fields)

/-! ### Values of a name -/

theorem valuesOf_cons_of_same {name key : String} (h : Text.sameName key name = true)
    (value : String) (fields : List Field) :
    valuesOf name ((key, value) :: fields) = value :: valuesOf name fields := by
  simp [valuesOf, h]

theorem valuesOf_cons_of_ne {name key : String} (h : Text.sameName key name = false)
    (value : String) (fields : List Field) :
    valuesOf name ((key, value) :: fields) = valuesOf name fields := by
  simp [valuesOf, h]

theorem valuesOf_append (name : String) (first second : List Field) :
    valuesOf name (first ++ second) = valuesOf name first ++ valuesOf name second := by
  rw [valuesOf, List.filter_append, List.map_append, ← valuesOf, ← valuesOf]

theorem valuesOf_eq_nil_iff (name : String) (fields : List Field) :
    valuesOf name fields = [] ↔ ∀ field ∈ fields, Text.sameName field.1 name = false := by
  simp [valuesOf, List.filter_eq_nil_iff]

theorem sameName_congr_left {a b : String} (h : Text.sameName a b = true) (c : String) :
    Text.sameName a c = Text.sameName b c := by
  rw [Text.sameName, Text.sameName, Text.sameName_iff.mp h]

theorem sameName_congr_right {a b : String} (h : Text.sameName a b = true) (c : String) :
    Text.sameName c a = Text.sameName c b := by
  rw [Text.sameName, Text.sameName, Text.sameName_iff.mp h]

theorem sameName_comm (a b : String) : Text.sameName a b = Text.sameName b a :=
  decide_eq_decide.mpr eq_comm

/-! ### Folding -/

/-- A value joins the first one of its name. -/
theorem valuesOf_foldIn_of_same {name key : String} (h : Text.sameName name key = true)
    (value : String) : ∀ fields : List Field,
    valuesOf key (foldIn name value fields) =
      match valuesOf key fields with
      | [] => [value]
      | old :: rest => (old ++ ", " ++ value) :: rest
  | [] => by
    rw [foldIn, valuesOf_cons_of_same h]
    rfl
  | (other, old) :: fields => by
    rw [foldIn]
    by_cases hother : Text.sameName other name = true
    · have hkey : Text.sameName other key = true := by rwa [sameName_congr_left hother key]
      rw [if_pos hother, valuesOf_cons_of_same hkey, valuesOf_cons_of_same hkey]
    · rw [Bool.not_eq_true] at hother
      have hkey : Text.sameName other key = false := by
        rwa [← sameName_congr_right h other]
      rw [hother, if_neg Bool.false_ne_true, valuesOf_cons_of_ne hkey, valuesOf_cons_of_ne hkey,
        valuesOf_foldIn_of_same h value fields]

theorem valuesOf_foldIn_of_ne {name key : String} (h : Text.sameName name key = false)
    (value : String) : ∀ fields : List Field,
    valuesOf key (foldIn name value fields) = valuesOf key fields
  | [] => by
    rw [foldIn, valuesOf_cons_of_ne h]
  | (other, old) :: fields => by
    rw [foldIn]
    by_cases hother : Text.sameName other name = true
    · have hkey : Text.sameName other key = false := by rwa [sameName_congr_left hother key]
      rw [if_pos hother, valuesOf_cons_of_ne hkey, valuesOf_cons_of_ne hkey]
    · rw [if_neg hother]
      by_cases hkey : Text.sameName other key = true
      · rw [valuesOf_cons_of_same hkey, valuesOf_cons_of_same hkey,
          valuesOf_foldIn_of_ne h value fields]
      · rw [Bool.not_eq_true] at hkey
        rw [valuesOf_cons_of_ne hkey, valuesOf_cons_of_ne hkey,
          valuesOf_foldIn_of_ne h value fields]

theorem joined_singleton (value : String) : joined [value] = [value] := by
  rw [joined, String.intercalate_singleton]
  rfl

theorem joined_concat (values : List String) (value : String) :
    joined (values ++ [value]) =
      match joined values with
      | [] => [value]
      | old :: rest => (old ++ ", " ++ value) :: rest := by
  cases values with
  | nil => exact joined_singleton value
  | cons first values =>
    have h := String.intercalate_append_of_ne_nil (s := ", ") (List.cons_ne_nil first values)
      (List.cons_ne_nil value [])
    rw [String.intercalate_singleton] at h
    simp [joined, ← h]

/-- The values of a name after folding fields in are the join of those that a list holds, if
they were so before. -/
theorem valuesOf_foldAll (name : String) : ∀ (added fields : List Field) (values : List String),
    valuesOf name fields = joined values →
      valuesOf name (foldAll added fields) = joined (values ++ valuesOf name added)
  | [], fields, values, h => by
    rw [show valuesOf name [] = [] from rfl, List.append_nil]
    exact h
  | (key, value) :: added, fields, values, h => by
    change valuesOf name (foldAll added (foldIn key value fields)) = _
    by_cases hkey : Text.sameName key name = true
    · have hfold : valuesOf name (foldIn key value fields) = joined (values ++ [value]) := by
        rw [valuesOf_foldIn_of_same hkey, joined_concat, h]
      rw [valuesOf_foldAll name added _ _ hfold, valuesOf_cons_of_same hkey, List.append_assoc]
      rfl
    · rw [Bool.not_eq_true] at hkey
      have hfold : valuesOf name (foldIn key value fields) = joined values := by
        rw [valuesOf_foldIn_of_ne hkey, h]
      rw [valuesOf_foldAll name added _ _ hfold, valuesOf_cons_of_ne hkey]

/-! ### Fields with distinct names -/

theorem valuesOf_of_distinct (name : String) : ∀ {fields : List Field}, Distinct fields →
    valuesOf name fields = joined (valuesOf name fields)
  | [], _ => rfl
  | (key, value) :: fields, h => by
    obtain ⟨hkey, hfields⟩ := List.pairwise_cons.mp h
    cases hname : Text.sameName key name with
    | true =>
      have hnil : valuesOf name fields = [] := by
        refine (valuesOf_eq_nil_iff name fields).mpr fun other hother => ?_
        rw [sameName_comm, ← sameName_congr_left hname]
        exact hkey other hother
      rw [valuesOf_cons_of_same hname, hnil, joined_singleton]
    | false => rw [valuesOf_cons_of_ne hname, ← valuesOf_of_distinct name hfields]

theorem assignIn_of_forall_ne {rule : NameRule} {name : String} (value : String) :
    ∀ {fields : List Field}, (∀ field ∈ fields, rule.same field.1 name = false) →
      assignIn rule name value fields = fields ++ [(name, value)]
  | [], _ => rfl
  | (key, old) :: fields, h => by
    obtain ⟨hkey, hfields⟩ := List.forall_mem_cons.mp h
    rw [assignIn, if_neg (by simp [hkey]), assignIn_of_forall_ne value hfields]
    rfl

/-! ### Fields that a mapping finds -/

/-- Whether a mapping can hold the fields: it finds each of them by its name. -/
def Holds (rule : NameRule) (fields : List Field) : Prop :=
  fields.Pairwise fun a b => rule.same a.1 b.1 = false

theorem same_eq_false {a b : String} (h : Text.sameName a b = false) (rule : NameRule) :
    rule.same a b = false := by
  cases rule with
  | exact =>
    refine decide_eq_false fun hab => ?_
    rw [hab, Text.sameName_refl] at h
    cases h
  | caseless => exact h

theorem same_congr {rule : NameRule} {a b : String} (h : rule.same a b = true) (c : String) :
    rule.same a c = rule.same b c := by
  cases rule with
  | exact => rw [of_decide_eq_true h]
  | caseless => exact sameName_congr_left h c

theorem mem_assignIn {rule : NameRule} {name value : String} {field : Field} :
    ∀ {fields : List Field}, field ∈ assignIn rule name value fields →
      field = (name, value) ∨ field ∈ fields
  | [], h => .inl (List.mem_singleton.mp h)
  | (key, old) :: fields, h => by
    rw [assignIn] at h
    split at h
    · exact (List.mem_cons.mp h).imp_right (List.mem_cons_of_mem _)
    · rcases List.mem_cons.mp h with rfl | h
      · exact .inr List.mem_cons_self
      · exact (mem_assignIn h).imp_right (List.mem_cons_of_mem _)

theorem Holds.assignIn {rule : NameRule} (name value : String) : ∀ {fields : List Field},
    Holds rule fields → Holds rule (assignIn rule name value fields)
  | [], _ => List.pairwise_singleton _ _
  | (key, old) :: fields, h => by
    obtain ⟨hkey, hfields⟩ := List.pairwise_cons.mp h
    rw [Headers.assignIn]
    split
    · rename_i hsame
      refine List.pairwise_cons.mpr ⟨fun other hother => ?_, hfields⟩
      rw [← same_congr hsame other.1]
      exact hkey other hother
    · rename_i hsame
      refine List.pairwise_cons.mpr ⟨fun other hother => ?_, Holds.assignIn name value hfields⟩
      rcases mem_assignIn hother with rfl | hother
      · exact Bool.eq_false_iff.mpr hsame
      · exact hkey other hother

/-- A mapping that assignments make finds each of its fields. -/
theorem exists_ofPairs (rule : NameRule) (pairs : List Field) :
    ∃ fields, ofPairs rule pairs = named rule fields ∧ Holds rule fields := by
  suffices ∀ rest done : List Field, Holds rule done →
      Holds rule (rest.foldl
        (fun entries (field : Field) => Headers.assignIn rule field.1 field.2 entries) done) from
    ⟨_, rfl, this pairs [] List.Pairwise.nil⟩
  intro rest
  induction rest with
  | nil => exact fun _ h => h
  | cons field rest ih => exact fun done h => ih _ (h.assignIn field.1 field.2)

theorem Distinct.holds {fields : List Field} (h : Distinct fields) (rule : NameRule) :
    Holds rule fields :=
  h.imp fun hne => same_eq_false hne rule

/-- Assignments to fields that a mapping can hold make the mapping of these fields. -/
theorem ofPairs_of_holds {rule : NameRule} {fields : List Field} (h : Holds rule fields) :
    ofPairs rule fields = named rule fields := by
  suffices ∀ rest done : List Field, Holds rule (done ++ rest) →
      rest.foldl (fun entries (field : Field) => assignIn rule field.1 field.2 entries) done =
        done ++ rest by
    rw [ofPairs, this fields [] h]
    rfl
  intro rest
  induction rest with
  | nil => exact fun done _ => (List.append_nil done).symm
  | cons field rest ih =>
    intro done hdone
    obtain ⟨-, -, hne⟩ := List.pairwise_append.mp hdone
    have happend : assignIn rule field.1 field.2 done = done ++ [field] :=
      assignIn_of_forall_ne field.2 fun other hother => hne other hother field List.mem_cons_self
    rw [List.foldl_cons, happend, ih (done ++ [field]) (by simpa using hdone)]
    simp

theorem ofPairs_of_distinct {fields : List Field} (h : Distinct fields) :
    ofPairs .caseless fields = named .caseless fields :=
  ofPairs_of_holds (h.holds .caseless)

end SignedHttp.Headers
