import SignedHttp.Proofs.Fields

/-!
# What a mapping keeps of its history

Adding fields to a mapping one after the other loses nothing of what it held and of what was
added (`KeepsHistory`). Its names stay as they are spelled and where they stand, and behind them
come those that were new when they were added. The first field of a name has all values that the
name was ever given, joined in their order, and all fields that follow it under this name stay as
they are. Together this says what every field of the mapping is afterwards
(`appendAll_keepsHistory`).

A mapping is changed through its own assignments, which find a name as it is spelled or by its
lower case. Joining a value assigns to the name as the first field spells it, so either kind of
mapping finds just this field (`foldIn_eq_assignJoined`), and what distinguishes the two kinds
makes no difference as long as they start with the same fields.

Key definitions: `Headers.newNames`, `Headers.KeepsHistory`, `Headers.assignJoined`.
Key theorems: `Headers.names_foldAll`, `Headers.valuesOf_foldAll_of_cons`,
`Headers.foldIn_eq_assignJoined`, `Headers.appendAll_keepsHistory`.
-/

namespace SignedHttp.Headers

/-! ### Names -/

/-- The names that are new when their turn comes: no name that is present then is the same up to
letter case. -/
def newNames (present : List String) : List String → List String
  | [] => []
  | name :: names =>
    if present.any (Text.sameName · name) then newNames present names
    else name :: newNames (present ++ [name]) names

/-- A value that joins no other brings its name, at the end. -/
theorem names_foldIn (name value : String) : ∀ fields : List Field,
    (foldIn name value fields).map Prod.fst =
      if (fields.map Prod.fst).any (Text.sameName · name) then fields.map Prod.fst
      else fields.map Prod.fst ++ [name]
  | [] => rfl
  | (key, old) :: fields => by
    rw [foldIn, List.map_cons, List.any_cons]
    by_cases h : Text.sameName key name = true
    · rw [if_pos h, h, Bool.true_or, if_pos rfl, List.map_cons]
    · rw [Bool.not_eq_true] at h
      rw [h, Bool.false_or, if_neg Bool.false_ne_true, List.map_cons,
        names_foldIn name value fields]
      split
      · rfl
      · rfl

/-- Names stay where they are, and new ones come behind them. -/
theorem names_foldAll : ∀ added fields : List Field,
    (foldAll added fields).map Prod.fst =
      fields.map Prod.fst ++ newNames (fields.map Prod.fst) (added.map Prod.fst)
  | [], fields => (List.append_nil _).symm
  | (name, value) :: added, fields => by
    change (foldAll added (foldIn name value fields)).map Prod.fst = _
    rw [names_foldAll added, names_foldIn, List.map_cons, newNames]
    split
    · rfl
    · rw [List.append_assoc]
      rfl

/-- Of two names that are the same up to letter case the later one was there from the start, and
with it the earlier one. -/
theorem lt_length_of_sameName : ∀ {names present : List String} {i j : Nat} {a b : String},
    i < j → (present ++ newNames present names)[i]? = some a →
    (present ++ newNames present names)[j]? = some b → Text.sameName a b = true →
      j < present.length
  | [], present, i, j, a, b, _, _, hb, _ => by
    rw [newNames, List.append_nil] at hb
    exact (List.getElem?_eq_some_iff.mp hb).1
  | name :: names, present, i, j, a, b, hij, ha, hb, hsame => by
    rw [newNames] at ha hb
    split at ha
    · rename_i hany
      rw [if_pos hany] at hb
      exact lt_length_of_sameName hij ha hb hsame
    · rename_i hany
      rw [if_neg hany] at hb
      rw [List.append_cons] at ha hb
      have hj : j < (present ++ [name]).length := lt_length_of_sameName hij ha hb hsame
      rw [List.length_append, List.length_singleton] at hj
      -- the name itself is none that was present
      refine Nat.lt_of_le_of_ne (Nat.lt_succ_iff.mp hj) fun hlast => ?_
      subst hlast
      rw [List.append_assoc, List.getElem?_append_left hij] at ha
      rw [List.append_assoc, List.getElem?_append_right (Nat.le_refl _), Nat.sub_self] at hb
      have hname : name = b := Option.some.inj hb
      refine hany (List.any_eq_true.mpr ⟨a, List.mem_of_getElem? ha, ?_⟩)
      rw [hname, hsame]

/-! ### Values -/

theorem intercalate_join (separator first second : String) (rest : List String) :
    separator.intercalate ((first ++ separator ++ second) :: rest) =
      separator.intercalate (first :: second :: rest) := by
  rw [String.intercalate_cons_cons]
  cases rest with
  | nil => rw [String.intercalate_singleton, String.intercalate_singleton]
  | cons third rest =>
    rw [String.intercalate_cons_cons, String.intercalate_cons_cons]
    simp only [String.append_assoc]

/-- The values that are added under a name join the first one that it has, and the others stay
as they are. -/
theorem valuesOf_foldAll_of_cons (name : String) : ∀ (added fields : List Field) (old : String)
    (rest : List String), valuesOf name fields = old :: rest →
      valuesOf name (foldAll added fields) = ", ".intercalate (old :: valuesOf name added) :: rest
  | [], fields, old, rest, h => by
    rw [show valuesOf name [] = [] from rfl, String.intercalate_singleton]
    exact h
  | (key, value) :: added, fields, old, rest, h => by
    change valuesOf name (foldAll added (foldIn key value fields)) = _
    cases hkey : Text.sameName key name with
    | true =>
      have hfold : valuesOf name (foldIn key value fields) = (old ++ ", " ++ value) :: rest := by
        rw [valuesOf_foldIn_of_same hkey, h]
      rw [valuesOf_foldAll_of_cons name added _ _ rest hfold, valuesOf_cons_of_same hkey,
        intercalate_join]
    | false =>
      have hfold : valuesOf name (foldIn key value fields) = old :: rest := by
        rw [valuesOf_foldIn_of_ne hkey, h]
      rw [valuesOf_foldAll_of_cons name added _ _ rest hfold, valuesOf_cons_of_ne hkey]

/-- What a mapping keeps of the fields that it had and of those that were added to it. -/
structure KeepsHistory (added before after : List Field) : Prop where
  /-- The names stay as they are, and behind them stand those that were new when added. -/
  names : after.map Prod.fst =
    before.map Prod.fst ++ newNames (before.map Prod.fst) (added.map Prod.fst)
  /-- Two fields of one name were both there from the start. -/
  noneRepeated : ∀ (i j : Nat) (a b : Field), i < j → after[i]? = some a → after[j]? = some b →
    Text.sameName a.1 b.1 = true → j < before.length
  /-- The first field of a name has the value that it had and all that were added, and the others
  have their values. -/
  values : ∀ name, valuesOf name after =
    match valuesOf name before with
    | [] => joined (valuesOf name added)
    | old :: rest => ", ".intercalate (old :: valuesOf name added) :: rest

theorem foldAll_keepsHistory (added before : List Field) :
    KeepsHistory added before (foldAll added before) where
  names := names_foldAll added before
  noneRepeated i j a b hij ha hb hsame := by
    have hname : ∀ {k : Nat} {field : Field}, (foldAll added before)[k]? = some field →
        (before.map Prod.fst ++ newNames (before.map Prod.fst) (added.map Prod.fst))[k]? =
          some field.1 := by
      intro k field h
      rw [← names_foldAll, List.getElem?_map, h]
      rfl
    have hj := lt_length_of_sameName hij (hname ha) (hname hb) hsame
    rwa [List.length_map] at hj
  values name := by
    cases h : valuesOf name before with
    | nil => exact valuesOf_foldAll name added before [] h
    | cons old rest => exact valuesOf_foldAll_of_cons name added before old rest h

/-! ### Assignments -/

/-- The fields after an assignment of the joined value to the name as the first field spells it,
or of the value itself to its name if no field has that. -/
def assignJoined (rule : NameRule) (name value : String) (fields : List Field) : List Field :=
  match fields.find? fun field => Text.sameName field.1 name with
  | some (key, old) => assignIn rule key (old ++ ", " ++ value) fields
  | none => assignIn rule name value fields

theorem same_refl (rule : NameRule) (name : String) : rule.same name name = true := by
  cases rule with
  | exact => exact decide_eq_true rfl
  | caseless => exact Text.sameName_refl name

/-- Joining a value goes through an assignment, and the mapping finds the field that is meant. -/
theorem foldIn_eq_assignJoined {rule : NameRule} (name value : String) :
    ∀ {fields : List Field}, Holds rule fields →
      foldIn name value fields = assignJoined rule name value fields
  | [], _ => rfl
  | (key, old) :: fields, h => by
    obtain ⟨hkey, hfields⟩ := List.pairwise_cons.mp h
    rw [foldIn, assignJoined]
    cases hname : Text.sameName key name with
    | true =>
      have hfound : ((key, old) :: fields).find? (fun field => Text.sameName field.1 name) =
          some (key, old) :=
        List.find?_cons_of_pos hname
      rw [if_pos rfl, hfound]
      dsimp only
      rw [assignIn, if_pos (same_refl rule key)]
    | false =>
      have ih := foldIn_eq_assignJoined name value hfields
      rw [assignJoined] at ih
      have hpassed : ((key, old) :: fields).find? (fun field => Text.sameName field.1 name) =
          fields.find? fun field => Text.sameName field.1 name :=
        List.find?_cons_of_neg (Bool.eq_false_iff.mp hname)
      rw [if_neg Bool.false_ne_true, ih, hpassed]
      split
      · rename_i other found hfound
        -- the field that is found stands further back, under a name of its own
        have hother := hkey _ (List.mem_of_find?_eq_some hfound)
        rw [assignIn, if_neg (by rw [hother]; decide)]
      · rw [assignIn, if_neg (by rw [same_eq_false hname rule]; decide)]

theorem Holds.foldIn {rule : NameRule} {fields : List Field} (h : Holds rule fields)
    (name value : String) : Holds rule (foldIn name value fields) := by
  have hnames : (fields.map Prod.fst).Pairwise fun a b => rule.same a b = false :=
    List.pairwise_map.mpr h
  suffices hafter : ((Headers.foldIn name value fields).map Prod.fst).Pairwise
      fun a b => rule.same a b = false from List.pairwise_map.mp hafter
  rw [names_foldIn]
  split
  · exact hnames
  · rename_i hany
    rw [Bool.not_eq_true, List.any_eq_false] at hany
    refine List.pairwise_append.mpr ⟨hnames, List.pairwise_singleton _ _, ?_⟩
    intro key hkey other hother
    rw [List.mem_singleton.mp hother]
    exact same_eq_false (Bool.eq_false_iff.mpr (hany key hkey)) rule

theorem foldAll_eq_assignJoined {rule : NameRule} : ∀ (added : List Field) {fields : List Field},
    Holds rule fields → foldAll added fields =
      added.foldl (fun done field => assignJoined rule field.1 field.2 done) fields
  | [], _, _ => rfl
  | (name, value) :: added, fields, h => by
    rw [List.foldl_cons, ← foldIn_eq_assignJoined name value h]
    exact foldAll_eq_assignJoined added (h.foldIn name value)

/-- Fields are added to a mapping without fail, and it keeps its history: what it holds afterwards
does not depend on how it finds names. A mapping that assignments made gets there by its own
assignments, and both kinds can be made of fields with distinct names. -/
theorem appendAll_keepsHistory (before added : List Field) :
    ∃ after, (∀ rule, (named rule before).appendAll (added.map entryOf) =
        (.named rule after, none)) ∧
      KeepsHistory added before after ∧
      (∀ rule pairs, ofPairs rule pairs = .named rule before →
        after = added.foldl (fun done field => assignJoined rule field.1 field.2 done) before) ∧
      (Distinct before → ∀ rule, ofPairs rule before = .named rule before) := by
  refine ⟨foldAll added before, fun rule => ?_, ?_, fun rule pairs h => ?_, fun h rule => ?_⟩
  · exact appendAll_named rule added before
  · exact foldAll_keepsHistory added before
  · obtain ⟨fields, hfields, hholds⟩ := exists_ofPairs rule pairs
    obtain ⟨-, rfl⟩ := Headers.named.inj (hfields.symm.trans h)
    exact foldAll_eq_assignJoined added hholds
  · exact ofPairs_of_holds (h.holds rule)

end SignedHttp.Headers
