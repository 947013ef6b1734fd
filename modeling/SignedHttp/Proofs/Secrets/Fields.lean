import Mathlib.Data.List.Forall2
import SignedHttp.Proofs.Fields
import SignedHttp.Proofs.Signing

/-!
# Headers that differ in signatures only

Two mappings are alike if they have the same names in the same order, and the values of a name are
equal unless it may carry signatures; then they may differ in these (`Headers.Alike`). Adding fields
that are alike keeps mappings alike, and what goes wrong with one goes wrong with the other
(`Headers.Alike.append`, `Headers.Alike.appendAll`): a fault is about names, or about a value that
is no text, and a signature is one. For this the names that may carry signatures must not tell
letter case apart (`CaseClosed`), because values of such names are joined.

A mapping of texts is the special case of one of any entries, also in how a field is added
(`Headers.append_eq`), so that one induction serves both.

Key definitions: `ResultAlike`, `Signature.Alike`, `Signature.JoinedAlike`, `EntryAlike`,
`CaseClosed`, `Headers.Alike`.
Key theorems: `Headers.append_eq`, `Headers.Alike.append`, `Headers.Alike.appendAll`,
`Headers.Alike.addAll`.
-/

namespace SignedHttp

/-! ### Results -/

/-- Two results with the same fault, or with values that are related. -/
inductive ResultAlike {α β : Type} (R : α → β → Prop) : Except Fault α → Except Fault β → Prop
  | error (fault : Fault) : ResultAlike R (.error fault) (.error fault)
  | ok {a : α} {b : β} (h : R a b) : ResultAlike R (.ok a) (.ok b)

namespace ResultAlike

variable {α β γ δ : Type} {R : α → β → Prop} {Q : γ → δ → Prop}

theorem refl {R : α → α → Prop} (hrefl : ∀ a, R a a) : ∀ x : Except Fault α, ResultAlike R x x
  | .error fault => .error fault
  | .ok a => .ok (hrefl a)

theorem bind {x : Except Fault α} {y : Except Fault β} {f : α → Except Fault γ}
    {g : β → Except Fault δ} (h : ResultAlike R x y)
    (hnext : ∀ a b, R a b → ResultAlike Q (f a) (g b)) : ResultAlike Q (x >>= f) (y >>= g) := by
  cases h with
  | error fault => exact .error fault
  | ok h => exact hnext _ _ h

theorem map {x : Except Fault α} {y : Except Fault β} {f : α → γ} {g : β → δ}
    (h : ResultAlike R x y) (hmap : ∀ a b, R a b → Q (f a) (g b)) :
    ResultAlike Q (f <$> x) (g <$> y) := by
  cases h with
  | error fault => exact .error fault
  | ok h => exact .ok (hmap _ _ h)

end ResultAlike

/-! ### Signatures -/

/-- Two texts that are equal, or signatures of one message under two keys. -/
inductive Signature.Alike : String → String → Prop
  | refl (s : String) : Alike s s
  | ofKey (key other message : List UInt8) : Alike (ofKey key message) (ofKey other message)

inductive Signature.PointsAlike : List Nat → List Nat → Prop
  | mk {s t : String} (h : Alike s t) : PointsAlike (Text.points s.toList) (Text.points t.toList)

/-- Two strings that are equal but for signatures of the same messages in them. -/
inductive Signature.JoinedAlike : List Nat → List Nat → Prop
  | refl (s : List Nat) : JoinedAlike s s
  | single {s t : List Nat} (h : PointsAlike s t) : JoinedAlike s t
  | append {s t u v : List Nat} (hfirst : JoinedAlike s t) (hsecond : JoinedAlike u v) :
    JoinedAlike (s ++ u) (t ++ v)

/-! ### Entries -/

/-- Two values that are equal, or strings that are related if their name may carry signatures. -/
def ValueAlike (carries : Prop) (R : List Nat → List Nat → Prop) (a b : Json) : Prop :=
  a = b ∨ carries ∧ ∃ s t, a = .ofPoints s ∧ b = .ofPoints t ∧ R s t

theorem map_fst_of_forall₂ {α β γ : Type} {R : α × β → α × γ → Prop} {l : List (α × β)}
    {m : List (α × γ)} (h : List.Forall₂ R l m) (hfst : ∀ a b, R a b → a.1 = b.1) :
    l.map Prod.fst = m.map Prod.fst := by
  induction h with
  | nil => rfl
  | cons hhead _ ih => rw [List.map_cons, List.map_cons, hfst _ _ hhead, ih]

/-- Two entries of one name with values that are alike. -/
def EntryAlike (names : Payload → Prop) (R : List Nat → List Nat → Prop) (a b : Entry) : Prop :=
  a.1 = b.1 ∧ ValueAlike (names a.1) R a.2 b.2

/-- Whether names are carried together with all that differ from them in letter case only. -/
def CaseClosed (names : Payload → Prop) : Prop :=
  ∀ key name, Headers.sameLowered key name = .ok true → names name → names key

namespace ValueAlike

variable {carries other : Prop} {R Q : List Nat → List Nat → Prop} {a b : Json}

theorem mono (h : ValueAlike carries R a b) (hR : ∀ s t, R s t → Q s t) :
    ValueAlike carries Q a b := by
  rcases h with h | ⟨hcarries, s, t, hs, ht, h⟩
  · exact .inl h
  · exact .inr ⟨hcarries, s, t, hs, ht, hR s t h⟩

theorem shown (h : ValueAlike carries R a b) :
    ResultAlike (fun s t => s = t ∨ carries ∧ R s t) a.shown b.shown := by
  rcases h with rfl | ⟨hcarries, s, t, rfl, rfl, h⟩
  · exact .refl (fun _ => .inl rfl) _
  · rw [Json.shown_of_codes? (Json.codes?_ofPoints s),
      Json.shown_of_codes? (Json.codes?_ofPoints t)]
    exact .ok (.inr ⟨hcarries, h⟩)

/-- Texts that are alike are so when they are joined to others that are, if what may carry these may
carry those. -/
theorem join {s t u v : List Nat} (hold : s = t ∨ carries ∧ Signature.JoinedAlike s t)
    (hnew : u = v ∨ other ∧ Signature.JoinedAlike u v) (hcarries : other → carries) :
    ValueAlike carries Signature.JoinedAlike (.ofPoints (s ++ Headers.separator ++ u))
      (.ofPoints (t ++ Headers.separator ++ v)) := by
  rcases hold with rfl | ⟨hcarry, hold⟩
  · rcases hnew with rfl | ⟨hcarry, hnew⟩
    · exact .inl rfl
    · exact .inr ⟨hcarries hcarry, _, _, rfl, rfl, .append (.refl _) hnew⟩
  · have hnew : Signature.JoinedAlike u v := by
      rcases hnew with rfl | ⟨-, hnew⟩
      · exact .refl u
      · exact hnew
    exact .inr ⟨hcarry, _, _, rfl, rfl, .append (.append hold (.refl _)) hnew⟩

end ValueAlike

namespace Headers

/-! ### Names up to letter case -/

theorem sameLowered_text (a b : String) :
    sameLowered (.text a) (.text b) = .ok (Text.sameName a b) := by
  rw [Text.sameName, ← Json.isSame_string]
  rfl

theorem exists_of_lowered {name x : Payload} (h : lowered name = .ok x) :
    (∃ s, x = .json (.ofPoints s)) ∨ ∃ b, x = .bytes b := by
  rw [lowered.eq_def] at h
  split at h
  · rename_i name
    refine .inl ⟨Text.points (Text.lower name).toList, ?_⟩
    rw [Json.ofPoints_points]
    exact (Except.ok.inj h).symm
  · exact .inl ⟨_, (Except.ok.inj h).symm⟩
  · exact .inr ⟨_, (Except.ok.inj h).symm⟩
  · cases h

theorem isSame_iff_of_lowered {a b x y : Payload} (ha : lowered a = .ok x)
    (hb : lowered b = .ok y) : x.isSame y = true ↔ x = y := by
  rcases exists_of_lowered ha with ⟨s, rfl⟩ | ⟨s, rfl⟩
  · rcases exists_of_lowered hb with ⟨t, rfl⟩ | ⟨t, rfl⟩
    · rw [Payload.json.injEq]
      exact Json.isSame_ofPoints_iff
    · simp [Payload.isSame, Payload.visibleBytes?]
  · rcases exists_of_lowered hb with ⟨t, rfl⟩ | ⟨t, rfl⟩
    · simp [Payload.isSame, Payload.visibleBytes?]
    · simp [Payload.isSame, Payload.visibleBytes?]

/-- Names are equal up to letter case if they are the same in lower case. -/
theorem sameLowered_eq_true_iff {a b : Payload} :
    sameLowered a b = .ok true ↔ ∃ name, lowered a = .ok name ∧ lowered b = .ok name := by
  rw [sameLowered]
  cases ha : lowered a with
  | error fault => exact ⟨(by cases ·), fun ⟨_, h, _⟩ => by cases h⟩
  | ok x =>
    cases hb : lowered b with
    | error fault => exact ⟨(by cases ·), fun ⟨_, _, h⟩ => by cases h⟩
    | ok y =>
      change Except.ok (x.isSame y) = Except.ok true ↔ _
      rw [Except.ok.injEq, isSame_iff_of_lowered ha hb]
      constructor
      · rintro rfl
        exact ⟨x, rfl, rfl⟩
      · rintro ⟨name, hx, hy⟩
        rw [Except.ok.inj hx, Except.ok.inj hy]

theorem sameLowered_trans {a b c : Payload} (hab : sameLowered a b = .ok true)
    (hbc : sameLowered b c = .ok true) : sameLowered a c = .ok true := by
  obtain ⟨name, ha, hb⟩ := sameLowered_eq_true_iff.mp hab
  obtain ⟨other, hother, hc⟩ := sameLowered_eq_true_iff.mp hbc
  rw [hb] at hother
  exact sameLowered_eq_true_iff.mpr ⟨name, ha, Except.ok.inj hother ▸ hc⟩

/-! ### Mappings -/

variable {names : Payload → Prop} {rule : NameRule}

theorem foldEntry_alike (hclosed : CaseClosed names) (rule : NameRule) {name : Payload}
    {value other : Json} (hvalue : ValueAlike (names name) Signature.JoinedAlike value other)
    {entries others : List Entry}
    (h : List.Forall₂ (EntryAlike names Signature.JoinedAlike) entries others) :
    ResultAlike (List.Forall₂ (EntryAlike names Signature.JoinedAlike))
      (foldEntry rule name value entries) (foldEntry rule name other others) := by
  induction h with
  | nil =>
    refine (ResultAlike.refl (fun _ => rfl) (checkName rule name)).bind fun _ _ _ => .ok ?_
    exact .cons ⟨rfl, hvalue⟩ .nil
  | @cons entry entry' entries others hentry hentries ih =>
    obtain ⟨key, old⟩ := entry
    obtain ⟨_, old'⟩ := entry'
    obtain ⟨rfl, hold⟩ := hentry
    rw [foldEntry, foldEntry]
    dsimp only at hold ⊢
    cases hsame : sameLowered key name with
    | error fault => exact .error fault
    | ok same =>
      cases same with
      | true =>
        exact hold.shown.bind fun s t hst => hvalue.shown.bind fun u v huv =>
          .ok (.cons ⟨rfl, .join hst huv (hclosed key name hsame)⟩ hentries)
      | false => exact ih.bind fun _ _ hrest => .ok (.cons ⟨rfl, hold⟩ hrest)

theorem mapM_field?_entryOf : ∀ fields : List Field, (fields.map entryOf).mapM field? = some fields
  | [] => rfl
  | field :: fields => by
    rw [List.map_cons, List.mapM_cons, mapM_field?_entryOf fields]
    rfl

/-- Texts are folded into entries that are texts as they are folded into fields. -/
theorem foldEntry_entryOf (rule : NameRule) (name value : String) : ∀ fields : List Field,
    foldEntry rule (.text name) (.string value) (fields.map entryOf) =
      .ok ((foldIn name value fields).map entryOf)
  | [] => by
    cases rule with
    | exact => rfl
    | caseless => rfl
  | (key, old) :: fields => by
    rw [List.map_cons, entryOf, foldEntry, sameLowered_text, foldIn]
    cases Text.sameName key name with
    | true =>
      change Except.ok ((Payload.text key, Json.ofPoints (Text.points old.toList ++
        Text.points ", ".toList ++ Text.points value.toList)) :: fields.map entryOf) = _
      rw [← Text.points_append, ← Text.points_append, Json.ofPoints_points]
      rfl
    | false =>
      change (do return (Payload.text key, Json.string old) ::
        (← foldEntry rule (.text name) (.string value) (fields.map entryOf))) = _
      rw [foldEntry_entryOf rule name value fields]
      rfl

/-- A field is added to a mapping of texts as it is to one of any entries. -/
theorem append_eq (headers : Headers) (name : Payload) (value : Json) :
    headers.append name value =
      ofEntries headers.rule <$> foldEntry headers.rule name value headers.entries := by
  rw [append.eq_def]
  split
  · rename_i rule fields name value
    change _ = ofEntries rule <$> foldEntry rule (.text name) (.string value) (fields.map entryOf)
    rw [foldEntry_entryOf]
    change _ = Except.ok (ofEntries rule ((foldIn name value fields).map entryOf))
    rw [ofEntries, mapM_field?_entryOf]
  · rfl

theorem entryOf_of_field? {entry : Entry} {field : Field} (h : field? entry = some field) :
    entryOf field = entry := by
  rw [field?.eq_def] at h
  split at h
  · rw [← Option.some.inj h, entryOf]
  · cases h

theorem map_entryOf_of_mapM : ∀ {entries : List Entry} {fields : List Field},
    entries.mapM field? = some fields → fields.map entryOf = entries
  | [], fields, h => by
    rw [List.mapM_nil] at h
    rw [← Option.some.inj h, List.map_nil]
  | entry :: entries, fields, h => by
    rw [List.mapM_cons] at h
    obtain ⟨field, hfield, h⟩ := Option.bind_eq_some_iff.mp h
    obtain ⟨rest, hrest, h⟩ := Option.bind_eq_some_iff.mp h
    rw [← Option.some.inj h, List.map_cons, entryOf_of_field? hfield, map_entryOf_of_mapM hrest]

theorem entries_ofEntries (rule : NameRule) (entries : List Entry) :
    (ofEntries rule entries).entries = entries := by
  rw [ofEntries]
  split
  · exact map_entryOf_of_mapM ‹_›
  · rfl

theorem rule_ofEntries (rule : NameRule) (entries : List Entry) :
    (ofEntries rule entries).rule = rule := by
  rw [ofEntries]
  split
  · rfl
  · rfl

/-- Two mappings that find names in the same way and have the same ones in the same order, with
values that are alike. -/
structure Alike (names : Payload → Prop) (a b : Headers) : Prop where
  rule : a.rule = b.rule
  entries : List.Forall₂ (EntryAlike names Signature.JoinedAlike) a.entries b.entries

namespace Alike

variable {names : Payload → Prop} {a b : Headers}

theorem refl (names : Payload → Prop) (headers : Headers) : Alike names headers headers where
  rule := rfl
  entries := List.forall₂_same.mpr fun _ _ => ⟨rfl, .inl rfl⟩

theorem map_fst (h : Alike names a b) : a.entries.map Prod.fst = b.entries.map Prod.fst :=
  map_fst_of_forall₂ h.entries fun _ _ hentry => hentry.1

theorem ofEntries {entries others : List Entry} (rule : NameRule)
    (h : List.Forall₂ (EntryAlike names Signature.JoinedAlike) entries others) :
    Alike names (Headers.ofEntries rule entries) (Headers.ofEntries rule others) where
  rule := by rw [rule_ofEntries, rule_ofEntries]
  entries := by rwa [entries_ofEntries, entries_ofEntries]

/-- Adding a field keeps mappings alike, or it fails in the same way. -/
theorem append (hclosed : CaseClosed names) (h : Alike names a b) {name : Payload}
    {value other : Json} (hvalue : ValueAlike (names name) Signature.JoinedAlike value other) :
    ResultAlike (Alike names) (a.append name value) (b.append name other) := by
  rw [append_eq, append_eq, ← h.rule]
  exact (foldEntry_alike hclosed a.rule hvalue h.entries).map fun _ _ => .ofEntries a.rule

theorem appendAll (hclosed : CaseClosed names) {added others : List Entry}
    (hadded : List.Forall₂ (EntryAlike names Signature.JoinedAlike) added others) :
    ∀ {a b : Headers}, Alike names a b →
      Alike names (a.appendAll added).1 (b.appendAll others).1 ∧
        (a.appendAll added).2 = (b.appendAll others).2 := by
  induction hadded with
  | nil => exact fun h => ⟨h, rfl⟩
  | @cons entry entry' added others hentry _ ih =>
    intro a b h
    obtain ⟨name, value⟩ := entry
    obtain ⟨_, other⟩ := entry'
    obtain ⟨rfl, hvalue⟩ := hentry
    rw [Headers.appendAll, Headers.appendAll]
    have happend := h.append hclosed hvalue
    revert happend
    generalize a.append name value = x
    generalize b.append name other = y
    rintro (_ | hafter)
    · exact ⟨h, rfl⟩
    · exact ih hafter

theorem addAll (hclosed : CaseClosed names) {x y : Option Headers}
    (h : Option.Rel (Alike names) x y) {added others : List Entry}
    (hadded : List.Forall₂ (EntryAlike names Signature.JoinedAlike) added others) :
    Option.Rel (Alike names) (Headers.addAll x added).1 (Headers.addAll y others).1 ∧
      (Headers.addAll x added).2 = (Headers.addAll y others).2 := by
  cases h with
  | some h =>
    obtain ⟨hafter, hfault⟩ := appendAll hclosed hadded h
    exact ⟨.some hafter, hfault⟩
  | none =>
    cases hadded with
    | nil => exact ⟨.none, rfl⟩
    | cons => exact ⟨.none, rfl⟩

end Alike

end Headers

end SignedHttp
