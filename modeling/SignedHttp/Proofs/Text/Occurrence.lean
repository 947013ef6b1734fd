import SignedHttp.Text.Occurrence

/-!
# Where a text occurs first

A text occurs first where it stands with the least in front of it. There is at most one such place
(`FirstAt.unique`), it is the one at which a text is split (`splitFirst?_eq_some_iff`), and what
stands around it is what is left when the occurrence is erased (`FirstAt.eraseFirst_eq`).

Two letters that mark the end of a name occur there first if the name does not hold them and they
differ, since then the mark cannot begin inside the name either (`firstAt_mark`).

Key definitions: `FirstAt`.
Key theorems: `FirstAt.unique`, `splitFirst?_eq_some_iff`, `exists_firstAt`, `firstAt_mark`.
-/

namespace SignedHttp.Text

variable {α : Type}

/-- Whether `p` stands in a text between two others, and nowhere further in front. -/
structure FirstAt (p s before after : List α) : Prop where
  split : s = before ++ p ++ after
  least : ∀ b a : List α, s = b ++ p ++ a → before.length ≤ b.length

namespace FirstAt

variable {p s before after b a : List α}

theorem unique (h : FirstAt p s before after) (h' : FirstAt p s b a) : before = b ∧ after = a := by
  have hlength : before.length = b.length :=
    Nat.le_antisymm (h.least b a h'.split) (h'.least before after h.split)
  have hsplit := h.split.symm.trans h'.split
  rw [List.append_assoc, List.append_assoc] at hsplit
  obtain ⟨hbefore, hrest⟩ := List.append_inj hsplit hlength
  exact ⟨hbefore, List.append_cancel_left hrest⟩

theorem isInfix (h : FirstAt p s before after) : p <:+: s :=
  ⟨before, after, h.split.symm⟩

end FirstAt

/-- A mark of two letters that differ occurs first where a name ends that does not hold it. -/
theorem firstAt_mark {m n : α} (hne : m ≠ n) {name : List α} (h : ¬ [m, n] <:+: name)
    (value : List α) : FirstAt [m, n] (name ++ [m, n] ++ value) name value where
  split := rfl
  least b a hsplit := by
    refine Nat.le_of_not_lt fun hlt => ?_
    rw [List.append_assoc, List.append_assoc] at hsplit
    rcases List.append_eq_append_iff.mp hsplit with ⟨rest, rfl, -⟩ | ⟨rest, rfl, hrest⟩
    · rw [List.length_append] at hlt
      omega
    · -- the name goes on behind `b`, where the mark should begin
      cases rest with
      | nil => simp at hlt
      | cons c rest =>
        rw [List.cons_append, List.cons_append] at hrest
        obtain ⟨rfl, htail⟩ := List.cons.inj hrest
        cases rest with
        | nil => exact hne (List.cons.inj htail).1.symm
        | cons d rest =>
          obtain ⟨rfl, -⟩ := List.cons.inj htail
          exact h ⟨b, rest, by simp⟩

variable [DecidableEq α]

/-- A text is not split further behind than at any occurrence. -/
theorem length_le_of_splitFirst? {p : List α} : ∀ {s before after b a : List α},
    splitFirst? p s = some (before, after) → s = b ++ p ++ a → before.length ≤ b.length
  | [], before, after, b, a, h, hsplit => by
    have hs := eq_append_of_splitFirst? p h
    have hbefore : before = [] := by simp_all
    rw [hbefore]
    exact Nat.zero_le _
  | c :: s, before, after, b, a, h, hsplit => by
    rw [splitFirst?] at h
    cases hp : after? p (c :: s) with
    | some rest =>
      rw [hp] at h
      obtain ⟨rfl, -⟩ := Prod.mk.inj (Option.some.inj h)
      exact Nat.zero_le _
    | none =>
      rw [hp] at h
      obtain ⟨⟨front, rest⟩, hfront, hpair⟩ := Option.map_eq_some_iff.mp h
      obtain ⟨rfl, rfl⟩ := Prod.mk.inj hpair
      cases b with
      | nil =>
        -- then the text begins with `p`
        rw [List.nil_append] at hsplit
        rw [hsplit, after?_append] at hp
        cases hp
      | cons d b =>
        have hs : s = b ++ p ++ a := (List.cons.inj hsplit).2
        exact Nat.succ_le_succ (length_le_of_splitFirst? hfront hs)

variable {p s before after : List α}

theorem exists_firstAt (h : p <:+: s) :
    ∃ before after, FirstAt p s before after ∧ splitFirst? p s = some (before, after) := by
  have hsome : (splitFirst? p s).isSome = true := by
    rw [splitFirst?_isSome, occursIn_iff]
    exact h
  obtain ⟨⟨before, after⟩, hsplit⟩ := Option.isSome_iff_exists.mp hsome
  exact ⟨before, after,
    ⟨eq_append_of_splitFirst? p hsplit, fun _ _ => length_le_of_splitFirst? hsplit⟩, hsplit⟩

theorem splitFirst?_eq_some_iff :
    splitFirst? p s = some (before, after) ↔ FirstAt p s before after := by
  constructor
  · intro h
    exact ⟨eq_append_of_splitFirst? p h, fun _ _ => length_le_of_splitFirst? h⟩
  · intro h
    obtain ⟨b, a, hfirst, hsplit⟩ := exists_firstAt h.isInfix
    obtain ⟨rfl, rfl⟩ := h.unique hfirst
    exact hsplit

theorem FirstAt.eraseFirst_eq (h : FirstAt p s before after) :
    eraseFirst p s = before ++ after := by
  rw [eraseFirst, splitFirst?_eq_some_iff.mpr h]

end SignedHttp.Text
