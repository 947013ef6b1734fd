import SignedHttp.Proofs.Sessions.Effects

/-!
# Signers keep the names of their fields

A signer has all its parts when it is made, and a part can be lost in one way only, when all parts
are exchanged for others and it is not among them. A run in which every such exchange brings the
names of both fields (`Step.KeepsNames`) therefore leaves all signers with these names, if they had
them at the start (`State.HasNames.run`). A step puts new signers behind the others, changes one, or
moves the clock of one (`State.HasNames.step`).

Key definitions: `Session.Step.KeepsNames`, `Session.State.HasNames`.
Key theorems: `Session.Enrolled.not_mem_lost_rebuild`, `Session.State.HasNames.step`,
`Session.State.HasNames.run`.
-/

namespace SignedHttp

namespace Signer

theorem require_eq_ok_iff (signer : Signer) (part : Part) :
    signer.require part = .ok () ↔ part ∉ signer.lost := by
  rw [require]
  split
  · rename_i h
    exact iff_of_false (fun h => by cases h) (not_not_intro (List.contains_iff_mem.mp h))
  · rename_i h
    exact iff_of_true rfl fun hmem => h (List.contains_iff_mem.mpr hmem)

theorem requireNames_eq_ok_iff (signer : Signer) :
    signer.requireNames = .ok () ↔
      Part.timestampHeader ∉ signer.lost ∧ Part.signHeader ∉ signer.lost := by
  rw [← require_eq_ok_iff, ← require_eq_ok_iff, requireNames]
  cases signer.require .timestampHeader with
  | error fault => exact iff_of_false (fun h => by cases h) (fun h => by cases h.1)
  | ok _ => exact ⟨fun h => ⟨rfl, h⟩, fun h => h.2⟩

/-- A signer has all its parts when it is made. -/
theorem lost_of_make {secret base timestampHeader signHeader : Payload} {signer : Signer}
    (h : make secret base timestampHeader signHeader = .ok signer) : signer.lost = [] := by
  rw [make] at h
  split at h
  · cases h
  · rw [← Except.ok.inj h]

theorem requireNames_of_make {secret base timestampHeader signHeader : Payload} {signer : Signer}
    (h : make secret base timestampHeader signHeader = .ok signer) :
    signer.requireNames = .ok () := by
  rw [requireNames_eq_ok_iff, lost_of_make h]
  exact ⟨List.not_mem_nil, List.not_mem_nil⟩

end Signer

namespace Session

/-! ### One signer -/

namespace Enrolled

theorem mem_lost_of_regain {enrolled : Enrolled} {part other : Signer.Part}
    (h : other ∈ (enrolled.regain part).signer.lost) :
    other ∈ enrolled.signer.lost ∧ other ≠ part := by
  obtain ⟨hmem, hne⟩ := List.mem_filter.mp h
  exact ⟨hmem, by simpa using hne⟩

/-- A part that was made is no longer lost, and no other part becomes so. -/
theorem mem_lost_of_make {enrolled : Enrolled} {value : Payload} {part other : Signer.Part}
    (h : other ∈ (enrolled.make value part).signer.lost) :
    other ∈ enrolled.signer.lost ∧ other ≠ part := by
  cases part with
  | secret => exact mem_lost_of_regain h
  | base => exact mem_lost_of_regain h
  | timestampHeader => exact mem_lost_of_regain h
  | signHeader => exact mem_lost_of_regain h
  | clock => exact mem_lost_of_regain (mem_lost_of_regain h).1

theorem mem_lost_of_set {enrolled : Enrolled} {value : Payload} {part : Part}
    {other : Signer.Part} (h : other ∈ (enrolled.set value part).signer.lost) :
    other ∈ enrolled.signer.lost ∧ part ≠ .made other := by
  cases part with
  | made part =>
    obtain ⟨hmem, hne⟩ := mem_lost_of_make h
    exact ⟨hmem, fun e => hne (Part.made.inj e).symm⟩
  | operation => exact ⟨h, fun e => by cases e⟩
  | other => exact ⟨h, fun e => by cases e⟩

theorem ofName_name (part : Signer.Part) : Part.ofName part.name = .made part := by
  cases part <;> rfl

theorem not_mem_lost_rebuild (enrolled : Enrolled) {members : List (String × Json)}
    {part : Signer.Part} (h : part.name ∈ members.map Prod.fst) :
    part ∉ (enrolled.rebuild members).signer.lost := by
  suffices ∀ (members : List (String × Json)) (enrolled : Enrolled),
      part ∈ (members.foldl (fun enrolled (member : String × Json) =>
        enrolled.set (.json member.2) (.ofName member.1)) enrolled).signer.lost →
      part ∈ enrolled.signer.lost ∧ part.name ∉ members.map Prod.fst from
    fun hmem => (this members _ hmem).2 h
  intro members
  induction members with
  | nil => exact fun enrolled hmem => ⟨hmem, List.not_mem_nil⟩
  | cons member members ih =>
    intro enrolled hmem
    obtain ⟨hset, hnames⟩ := ih _ hmem
    obtain ⟨hlost, hne⟩ := mem_lost_of_set hset
    refine ⟨hlost, fun hname => ?_⟩
    rcases List.mem_cons.mp hname with hname | hname
    · exact hne (hname ▸ ofName_name part)
    · exact hnames hname

end Enrolled

/-! ### All signers -/

/-- Whether a step leaves signers the names of their fields: if it exchanges all parts of one, both
names are among the new ones. -/
def Step.KeepsNames : Step → Prop
  | .change (.string name) (.json (.object members)) =>
    WholeName.ofName? name = some .parts →
      Signer.Part.timestampHeader.name ∈ members.map Prod.fst ∧
        Signer.Part.signHeader.name ∈ members.map Prod.fst
  | _ => True

namespace State

def HasNames (state : State) : Prop :=
  ∀ enrolled ∈ state.signers, enrolled.signer.requireNames = .ok ()

variable {state : State}

/-- A change leaves a signer the names of its fields, unless it exchanges all parts for others
without them. -/
theorem requireNames_changed {enrolled changed : Enrolled} {name : String} {value : Payload}
    (hkeeps : (Step.change (.string name) value).KeepsNames)
    (hnames : enrolled.signer.requireNames = .ok ())
    (h : State.changed enrolled name value = .ok changed) :
    changed.signer.requireNames = .ok () := by
  rw [Signer.requireNames_eq_ok_iff] at hnames ⊢
  rw [State.changed] at h
  split at h
  · rw [← Except.ok.inj h]
    exact ⟨fun hlost => hnames.1 (Enrolled.mem_lost_of_set hlost).1,
      fun hlost => hnames.2 (Enrolled.mem_lost_of_set hlost).1⟩
  · rename_i whole hwhole
    obtain ⟨members, hassign, rfl⟩ := exists_of_map_eq_ok h
    -- only the mapping of all parts can be assigned at all, and only a mapping to it
    cases whole with
    | kind => cases hassign
    | watchers => cases hassign
    | parts =>
      rw [WholeName.assign.eq_def] at hassign
      dsimp only at hassign
      split at hassign
      · rw [← Except.ok.inj hassign]
        obtain ⟨htimestamp, hsign⟩ := hkeeps hwhole
        exact ⟨Enrolled.not_mem_lost_rebuild enrolled htimestamp,
          Enrolled.not_mem_lost_rebuild enrolled hsign⟩
      · cases hassign

namespace HasNames

/-- A signer that has the names of its fields may come to the others, or in the place of one. -/
theorem append (h : state.HasNames) {enrolled : Enrolled}
    (hnames : enrolled.signer.requireNames = .ok ()) :
    ∀ other ∈ state.signers ++ [enrolled], other.signer.requireNames = .ok () :=
  List.forall_mem_append.mpr ⟨h, List.forall_mem_singleton.mpr hnames⟩

theorem set (h : state.HasNames) (place : Nat) {enrolled : Enrolled}
    (hnames : enrolled.signer.requireNames = .ok ()) :
    ∀ other ∈ state.signers.set place enrolled, other.signer.requireNames = .ok () := by
  intro other hother
  rcases List.mem_or_eq_of_mem_set hother with hother | rfl
  · exact h other hother
  · exact hnames

theorem of_current? (h : state.HasNames) {place : Nat} {enrolled : Enrolled}
    (hcurrent : state.current? = some (place, enrolled)) :
    enrolled.signer.requireNames = .ok () := by
  obtain ⟨_, -, hfound⟩ := Option.bind_eq_some_iff.mp hcurrent
  obtain ⟨_, hsigner, hpair⟩ := Option.bind_eq_some_iff.mp hfound
  rw [← (Prod.mk.inj (Option.some.inj hpair)).2]
  exact h _ (List.mem_of_getElem? hsigner)

theorem of_hookAt? (h : state.HasNames) {placed : Option PlacedHook} {place : Nat}
    {enrolled : Enrolled} {hook : Hook}
    (hhook : state.hookAt? placed = some (place, enrolled, hook)) :
    hook.signer.requireNames = .ok () := by
  obtain ⟨_, -, hfound⟩ := Option.bind_eq_some_iff.mp hhook
  obtain ⟨found, hsigner, hpair⟩ := Option.bind_eq_some_iff.mp hfound
  rw [← (Prod.mk.inj (Prod.mk.inj (Option.some.inj hpair)).2).2]
  exact h found (List.mem_of_getElem? hsigner)

theorem of_keeps {after : State} (h : state.HasNames) (hkeeps : state.Keeps after) :
    after.HasNames := by
  intro enrolled henrolled
  have hmem : enrolled.signer ∈ state.signers.map (·.signer) :=
    hkeeps.signers ▸ List.mem_map_of_mem henrolled
  obtain ⟨other, hother, hsame⟩ := List.mem_map.mp hmem
  rw [← hsame]
  exact h other hother

theorem effect {after : State} {step : Step} (h : state.HasNames) (hkeeps : step.KeepsNames)
    (heffect : state.Effect step after) : after.HasNames := by
  cases heffect with
  | makeSigner hsigner => exact h.append (Signer.requireNames_of_make hsigner)
  | signerFromSettings _ hsigner => exact h.append (Signer.requireNames_of_make hsigner)
  | change hcurrent hchanged =>
    exact h.set _ (requireNames_changed hkeeps (h.of_current? hcurrent) hchanged)
  | setClock hcurrent =>
    have hnames := (Signer.requireNames_eq_ok_iff _).mp (h.of_current? hcurrent)
    refine h.set _ ((Signer.requireNames_eq_ok_iff _).mpr ⟨fun hlost => ?_, fun hlost => ?_⟩)
    · exact hnames.1 (Enrolled.mem_lost_of_regain hlost).1
    · exact hnames.2 (Enrolled.mem_lost_of_regain hlost).1
  | readTime => exact h.of_keeps (keeps_moveClock ..)
  | signs => exact h.of_keeps (keeps_signing ..)
  | hookOfGiven =>
    intro enrolled henrolled
    rw [signers_withHook] at henrolled
    exact h enrolled henrolled
  | hookOfDefault _ hsigner =>
    intro enrolled henrolled
    rw [signers_withHook] at henrolled
    refine h.append ?_ enrolled henrolled
    exact Signer.requireNames_of_make hsigner
  | _ => exact h

theorem step (h : state.HasNames) {step : Step} (hkeeps : step.KeepsNames) :
    (state.step step).1.HasNames :=
  h.effect hkeeps (effect_step state step)

theorem run : ∀ {steps : List Step} {state : State}, state.HasNames →
    (∀ step ∈ steps, step.KeepsNames) → (Session.run state steps).1.HasNames
  | [], _, h, _ => h
  | step :: steps, state, h, hsteps => by
    obtain ⟨hstep, hrest⟩ := List.forall_mem_cons.mp hsteps
    have hrun := run (h.step hstep) hrest
    exact hrun

/-- The signer that a step calls is one of the session's. -/
theorem call? (h : state.HasNames) {step : Step} {call : Call}
    (hcall : state.call? step = some call) : call.signer.requireNames = .ok () := by
  rw [State.call?.eq_def] at hcall
  split at hcall
  · obtain ⟨⟨place, enrolled⟩, hcurrent, rfl⟩ := Option.map_eq_some_iff.mp hcall
    exact h.of_current? hcurrent
  · obtain ⟨⟨place, enrolled⟩, hcurrent, rfl⟩ := Option.map_eq_some_iff.mp hcall
    exact h.of_current? hcurrent
  · obtain ⟨⟨place, enrolled, hook⟩, hhook, hmade⟩ := Option.bind_eq_some_iff.mp hcall
    dsimp only at hmade
    split at hmade
    · cases hmade
    · rw [← Option.some.inj hmade]
      exact h.of_hookAt? hhook
  · obtain ⟨⟨place, enrolled, hook⟩, hhook, hmade⟩ := Option.bind_eq_some_iff.mp hcall
    dsimp only at hmade
    split at hmade
    · cases hmade
    · rw [Call.ofListed?] at hmade
      split at hmade
      · cases hmade
      · rw [← Option.some.inj hmade]
        exact h.of_hookAt? hhook
  · cases hcall

theorem calls : ∀ {steps : List Step} {state : State}, state.HasNames →
    (∀ step ∈ steps, step.KeepsNames) →
      ∀ call ∈ state.calls steps, call.signer.requireNames = .ok ()
  | [], _, _, _ => List.forall_mem_nil _
  | step :: steps, state, h, hsteps => by
    obtain ⟨hstep, hrest⟩ := List.forall_mem_cons.mp hsteps
    have hcalls := calls (h.step hstep) hrest
    refine List.forall_mem_append.mpr ⟨fun call hcall => ?_, hcalls⟩
    exact h.call? (Option.mem_toList.mp hcall)

end HasNames

end State

end Session

end SignedHttp
