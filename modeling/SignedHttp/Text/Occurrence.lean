import SignedHttp.Text.Point

/-!
# First occurrences

Whether one text occurs inside another, and the text without its first occurrence. A text is a
list of characters or of code points, which makes no difference (`eraseFirst_points`).
The two questions are asked separately: `occursIn` only looks, `splitFirst?` also
returns what stands around the occurrence. They agree (`splitFirst?_isSome`), and
the pieces put together again give the text back (`eq_append_of_splitFirst?`). A text
that starts with `p` loses exactly that start (`eraseFirst_append`).

Key definitions: `after?`, `occursIn`, `splitFirst?`, `eraseFirst`.
Key theorems: `occursIn_iff`, `splitFirst?_isSome`, `eq_append_of_splitFirst?`, `eraseFirst_append`,
`occursIn_points`, `eraseFirst_points`.
-/

namespace SignedHttp.Text

variable {α : Type} [DecidableEq α]

/-- What follows `p` in a text that starts with it. -/
def after? : List α → List α → Option (List α)
  | [], s => some s
  | _ :: _, [] => none
  | a :: p, c :: s => if a = c then after? p s else none

variable (p : List α)

def occursIn : List α → Bool
  | [] => p.isEmpty
  | c :: s => p.isPrefixOf (c :: s) || occursIn s

def splitFirst? : List α → Option (List α × List α)
  | [] => if p.isEmpty then some ([], []) else none
  | c :: s =>
    match after? p (c :: s) with
    | some after => some ([], after)
    | none => (splitFirst? s).map fun (before, after) => (c :: before, after)

def eraseFirst (s : List α) : List α :=
  match splitFirst? p s with
  | some (before, after) => before ++ after
  | none => s

theorem occursIn_iff : ∀ s : List α, occursIn p s = true ↔ p <:+: s
  | [] => by
    rw [occursIn, List.isEmpty_iff, List.infix_nil]
  | c :: s => by
    rw [occursIn, Bool.or_eq_true, occursIn_iff s, List.infix_cons_iff, List.isPrefixOf_iff_prefix]

theorem after?_isSome : ∀ p s : List α, (after? p s).isSome = p.isPrefixOf s
  | [], _ => rfl
  | _ :: _, [] => rfl
  | a :: p, c :: s => by
    by_cases h : a = c
    · simp [after?, h, after?_isSome p s]
    · have : (a == c) = false := by simpa using h
      simp [after?, h, List.isPrefixOf_cons_cons, this]

theorem after?_append : ∀ p s : List α, after? p (p ++ s) = some s
  | [], _ => rfl
  | _ :: p, s => by simp [after?, after?_append p s]

theorem eq_append_of_after? : ∀ {p s after : List α}, after? p s = some after → s = p ++ after
  | [], _, _, h => by simpa [after?] using h
  | _ :: _, [], _, h => by simp [after?] at h
  | a :: p, c :: s, after, h => by
    by_cases hac : a = c
    · subst hac
      simp only [after?, ↓reduceIte] at h
      simp [← eq_append_of_after? h]
    · simp [after?, hac] at h

theorem splitFirst?_isSome : ∀ s : List α, (splitFirst? p s).isSome = occursIn p s
  | [] => by cases p <;> rfl
  | c :: s => by
    have hp := after?_isSome p (c :: s)
    cases h : after? p (c :: s) with
    | some after => simp [splitFirst?, occursIn, ← hp, h]
    | none => simp [splitFirst?, occursIn, ← hp, h, splitFirst?_isSome s]

theorem eq_append_of_splitFirst? : ∀ {s before after : List α},
    splitFirst? p s = some (before, after) → s = before ++ p ++ after
  | [], before, after, h => by
    cases p <;> simp_all [splitFirst?]
  | c :: s, before, after, h => by
    cases hp : after? p (c :: s) with
    | some rest =>
      simp only [splitFirst?, hp, Option.some.injEq, Prod.mk.injEq] at h
      obtain ⟨rfl, rfl⟩ := h
      simpa using eq_append_of_after? hp
    | none =>
      simp only [splitFirst?, hp, Option.map_eq_some_iff, Prod.mk.injEq] at h
      obtain ⟨⟨b, a⟩, hs, rfl, rfl⟩ := h
      simpa using eq_append_of_splitFirst? hs

/-- A text that starts with `p` loses that start. -/
theorem eraseFirst_append (s : List α) : eraseFirst p (p ++ s) = s := by
  have hp := after?_append p s
  cases hps : p ++ s with
  | nil =>
    obtain ⟨rfl, rfl⟩ := List.append_eq_nil_iff.mp hps
    rfl
  | cons c t => simp [eraseFirst, splitFirst?, ← hps, hp]

theorem eraseFirst_of_not_occursIn {s : List α} (h : occursIn p s = false) :
    eraseFirst p s = s := by
  have : splitFirst? p s = none := by
    rw [← Option.not_isSome_iff_eq_none, splitFirst?_isSome, h]
    simp
  simp [eraseFirst, this]

theorem all_eraseFirst {s : List α} {f : α → Bool} (h : s.all f = true) :
    (eraseFirst p s).all f = true := by
  rw [eraseFirst]
  cases hsplit : splitFirst? p s with
  | none => exact h
  | some split =>
    obtain ⟨before, after⟩ := split
    rw [eq_append_of_splitFirst? p hsplit, List.all_append, List.all_append] at h
    simp only [Bool.and_eq_true] at h
    rw [List.all_append, h.1.1, h.2]
    rfl

/-! ### Letters written in another way -/

variable {β : Type} [DecidableEq β] {f : α → β} (hf : ∀ {a b}, f a = f b → a = b)
include hf

theorem after?_map : ∀ p s : List α, after? (p.map f) (s.map f) = (after? p s).map (·.map f)
  | [], _ => rfl
  | _ :: _, [] => rfl
  | a :: p, c :: s => by
    by_cases h : a = c
    · simp [after?, h, after?_map p s]
    · have hne : f a ≠ f c := fun hfac => h (hf hfac)
      simp [after?, h, hne]

theorem splitFirst?_map (p : List α) : ∀ s : List α, splitFirst? (p.map f) (s.map f) =
    (splitFirst? p s).map fun (before, after) => (before.map f, after.map f)
  | [] => by cases p <;> rfl
  | c :: s => by
    have hafter := after?_map hf p (c :: s)
    rw [List.map_cons] at hafter
    rw [List.map_cons, splitFirst?, splitFirst?, hafter]
    cases after? p (c :: s) with
    | some after => rfl
    | none =>
      rw [Option.map_none]
      dsimp only
      rw [splitFirst?_map p s, Option.map_map, Option.map_map]
      rfl

theorem occursIn_map (p s : List α) : occursIn (p.map f) (s.map f) = occursIn p s := by
  rw [← splitFirst?_isSome, ← splitFirst?_isSome, splitFirst?_map hf, Option.isSome_map]

theorem eraseFirst_map (p s : List α) :
    eraseFirst (p.map f) (s.map f) = (eraseFirst p s).map f := by
  rw [eraseFirst, eraseFirst, splitFirst?_map hf]
  cases splitFirst? p s with
  | some found => simp
  | none => rfl

omit hf in
/-- Texts occur in one another as their code points do. -/
theorem occursIn_points (p s : List Char) : occursIn (points p) (points s) = occursIn p s :=
  occursIn_map Char.toNat_inj.mp p s

omit hf in
theorem eraseFirst_points (p s : List Char) :
    eraseFirst (points p) (points s) = points (eraseFirst p s) :=
  eraseFirst_map Char.toNat_inj.mp p s

end SignedHttp.Text
