import SignedHttp.Proofs.Sessions.Tasks

/-!
# A hook is fixed when it is made

A hook takes its API key and its signer when it is made: what it is given then, and for the rest the
settings of that moment (`State.Makes`). From then on only the signer at its place and the clock
that this reads have a part in what it does (`State.hook_fixed`), so that in between settings may
change, logging may be configured and other signers and hooks may be made without effect on it. The
signing itself changes no settings and no signer either, neither by a hook nor without one.

That a hook has a signer at all holds in the sessions that can be reached: the current signer is
always one of those that were made (`State.Reachable.knowsCurrent`).

Key definitions: `State.Reachable`, `State.Makes`, `State.UsedAlike`.
Key theorems: `State.Reachable.knowsCurrent`, `State.exists_makes`, `State.hook_fixed`.
-/

namespace SignedHttp

namespace Session

namespace State

/-! ### Sessions that can be reached -/

def Reachable (state : State) : Prop :=
  ∃ settings clock telemetry steps, state = (run (.initial settings clock telemetry) steps).1

def KnowsCurrent (state : State) : Prop :=
  ∀ place, state.current = some place → place < state.signers.length

theorem KnowsCurrent.of_keeps {state after : State} (h : state.KnowsCurrent)
    (hkeeps : state.Keeps after) : after.KnowsCurrent := by
  have hlength : after.signers.length = state.signers.length := by
    rw [← List.length_map, hkeeps.signers, List.length_map]
  intro place hplace
  rw [hlength]
  exact h place (hkeeps.current ▸ hplace)

theorem KnowsCurrent.effect {state after : State} {step : Step} (h : state.KnowsCurrent)
    (heffect : state.Effect step after) : after.KnowsCurrent := by
  have hinstall : ∀ signer clock, (state.install signer clock).KnowsCurrent := by
    intro signer clock place hplace
    rw [← Option.some.inj hplace]
    exact Nat.lt_of_lt_of_eq (Nat.lt_succ_self _) (by simp [install, enroll])
  have hset : ∀ place enrolled,
      State.KnowsCurrent { state with signers := state.signers.set place enrolled } :=
    fun _ _ place hplace => Nat.lt_of_lt_of_eq (h place hplace) List.length_set.symm
  cases heffect with
  | makeSigner => exact hinstall _ _
  | signerFromSettings => exact hinstall _ _
  | change => exact hset _ _
  | setClock => exact hset _ _
  | readTime => exact h.of_keeps (keeps_moveClock ..)
  | signs => exact h.of_keeps (keeps_signing ..)
  | hookOfGiven =>
    intro place hplace
    rw [signers_withHook]
    rw [current_withHook] at hplace
    exact h place hplace
  | hookOfDefault =>
    intro place hplace
    rw [signers_withHook]
    rw [current_withHook] at hplace
    refine Nat.lt_of_lt_of_le (h place hplace) ?_
    exact (List.prefix_append state.signers _).length_le
  | _ => exact h

theorem KnowsCurrent.run : ∀ {steps : List Step} {state : State}, state.KnowsCurrent →
    (run state steps).1.KnowsCurrent
  | [], _, h => h
  | step :: steps, state, h => by
    have hstep := h.effect (effect_step state step)
    exact @KnowsCurrent.run steps _ hstep

theorem Reachable.knowsCurrent {state : State} (h : state.Reachable) : state.KnowsCurrent := by
  obtain ⟨settings, clock, telemetry, steps, rfl⟩ := h
  exact KnowsCurrent.run fun _ hplace => nomatch hplace

/-! ### What a hook is made of -/

/-- What a hook that is made has for good: its key is the one given, also if that is empty, and only
a null leaves it to the settings of this moment; its signer is the one given, which stays as it is,
or else a new one from the settings of this moment, which reads the clock of the session. -/
structure Makes (state : State) (kind : HookKind) (request : HookRequest) (placed : PlacedHook)
    (signer : Signer) (clock : Clock) : Prop where
  hook : (state.step (kind.make request)).1.hook? kind = some placed
  stands : (state.step (kind.make request)).1.standing? placed.place = some (signer, clock)
  givenKey : request.apiKey ≠ .null → placed.apiKey = request.apiKey
  defaultKey : request.apiKey = .null → placed.apiKey = state.settings.apiKey
  givenSigner : ∀ place, state.given? request = some place →
    placed.place = place ∧ state.standing? place = some (signer, clock) ∧
      (state.step (kind.make request)).1.signers = state.signers
  defaultSigner : state.given? request = none →
    Signer.ofSettings state.settings = .ok signer ∧ clock = state.clock ∧
      (state.step (kind.make request)).1.signers = state.signers ++ [⟨signer, .shared⟩]

theorem keyFrom_of_ne_null {request : HookRequest} (h : request.apiKey ≠ .null)
    (settings : Settings) : request.keyFrom settings = request.apiKey := by
  rw [HookRequest.keyFrom.eq_def]
  split
  · exact absurd ‹_› h
  · rfl

theorem keyFrom_of_null {request : HookRequest} (h : request.apiKey = .null)
    (settings : Settings) : request.keyFrom settings = settings.apiKey := by
  rw [HookRequest.keyFrom.eq_def, h]

section Makes

variable {state : State} {kind : HookKind} {request : HookRequest} {apiKey : Json}
  {levels : Log.Levels}

theorem makes_of_given {place : Nat} (hgiven : state.given? request = some place)
    {signer : Signer} {clock : Clock} (hstands : state.standing? place = some (signer, clock))
    (hmade : (state.step (kind.make request)).2.1 = .hook apiKey levels) :
    state.Makes kind request ⟨place, apiKey⟩ signer clock := by
  have hstep := @step_make_of_given state kind request place hgiven
  split at hstep
  · rw [hstep] at hmade
    cases hmade
  · rw [hstep] at hmade
    obtain ⟨hkey, -⟩ := Reply.hook.inj hmade
    refine ⟨?_, ?_, ?_, ?_, fun place' h => ?_, fun h => ?_⟩
    · rw [hstep, ← hkey]
      exact hook?_withHook ..
    · rw [hstep, ← hstands]
      cases kind <;> rfl
    · exact fun h => hkey ▸ keyFrom_of_ne_null h state.settings
    · exact fun h => hkey ▸ keyFrom_of_null h state.settings
    · rw [hgiven] at h
      obtain rfl := Option.some.inj h
      refine ⟨rfl, hstands, ?_⟩
      rw [hstep]
      exact signers_withHook ..
    · rw [hgiven] at h
      cases h

theorem makes_of_default (hgiven : state.given? request = none)
    (hmade : (state.step (kind.make request)).2.1 = .hook apiKey levels) :
    ∃ signer, state.Makes kind request ⟨state.signers.length, apiKey⟩ signer state.clock := by
  have hstep := @step_make_of_default state kind request hgiven
  split at hstep
  · rw [hstep] at hmade
    cases hmade
  · split at hstep
    · rw [hstep] at hmade
      cases hmade
    · rename_i signer hsigner
      rw [hstep] at hmade
      obtain ⟨hkey, -⟩ := Reply.hook.inj hmade
      refine ⟨signer, ?_, ?_, ?_, ?_, fun place h => ?_, fun h => ⟨hsigner, rfl, ?_⟩⟩
      · rw [hstep, ← hkey]
        exact hook?_withHook ..
      · rw [hstep, standing?]
        change Option.map _ (State.signers (withHook _ _ kind))[_]? = _
        rw [signers_withHook]
        change Option.map _ (state.signers ++ [_])[state.signers.length]? = _
        rw [List.getElem?_concat_length]
        cases kind <;> rfl
      · exact fun h => hkey ▸ keyFrom_of_ne_null h state.settings
      · exact fun h => hkey ▸ keyFrom_of_null h state.settings
      · rw [hgiven] at h
        cases h
      · rw [hstep]
        exact signers_withHook ..

/-- A hook that is made has a signer, and takes it and its key at this moment. -/
theorem exists_makes (hstate : state.KnowsCurrent)
    (hmade : (state.step (kind.make request)).2.1 = .hook apiKey levels) :
    ∃ place signer clock, state.Makes kind request ⟨place, apiKey⟩ signer clock := by
  cases hgiven : state.given? request with
  | none =>
    obtain ⟨signer, hmakes⟩ := makes_of_default hgiven hmade
    exact ⟨_, signer, _, hmakes⟩
  | some place =>
    have hplace : place < state.signers.length := by
      rw [given?] at hgiven
      split at hgiven
      · exact hstate place hgiven
      · cases hgiven
    have hstands : state.standing? place =
        some (state.signers[place].signer, state.clockOf state.signers[place]) := by
      rw [standing?, List.getElem?_eq_getElem hplace]
      rfl
    exact ⟨place, _, _, makes_of_given hgiven hstands hmade⟩

end Makes

/-! ### What it does from then on -/

theorem Extends.standing {before after : State} (h : before.Extends after) {place : Nat}
    {signer : Signer} {clock : Clock} (hstands : before.standing? place = some (signer, clock)) :
    after.standing? place = some (signer, clock) := by
  obtain ⟨enrolled, hfound, hview⟩ := Option.map_eq_some_iff.mp hstands
  obtain ⟨hplace, rfl⟩ := List.getElem?_eq_some_iff.mp hfound
  have hclock : after.clockOf before.signers[place] = before.clockOf before.signers[place] := by
    rw [clockOf, clockOf, h.clock]
  rw [standing?, List.prefix_iff_getElem?.mp h.signers place hplace, Option.map_some, hclock, hview]

/-- A hook that its caller holds does in one state what it does in another: to each request it gives
the same answer, be it the fields or the fault, and each count grows by the same number. -/
def UsedAlike (a b : State) (kind : HookKind) (placed : PlacedHook) : Prop :=
  ∀ request : kind.Request,
    let use (state : State) := state.perform placed.place (.hook kind placed.apiKey request)
    (use a).2.1 = (use b).2.1 ∧
      ∀ outcome, ∃ more : Nat,
        (use a).1.telemetry.tally.count outcome = a.telemetry.tally.count outcome + more ∧
        (use b).1.telemetry.tally.count outcome = b.telemetry.tally.count outcome + more

theorem usedAlike_of_standing {a b : State} {placed : PlacedHook}
    (h : a.standing? placed.place = b.standing? placed.place) (kind : HookKind) :
    a.UsedAlike b kind placed := by
  intro request use
  have hanswer := sameAnswer_of_standing h (.hook kind placed.apiKey request)
  refine ⟨hanswer.reply, fun outcome =>
    ⟨(a.outcomes placed.place (.hook kind placed.apiKey request)).count outcome, ?_, ?_⟩⟩
  · rw [tally_perform, Telemetry.count_foldl_increment]
  · rw [tally_perform, Telemetry.count_foldl_increment, hanswer.outcomes]

/-- A hook is fixed when it is made. It does afterwards what it would have done at once, whatever
was done in between, if only its signer stands where it stood and its clock was not read on; and so
it does whatever settings were changed, levels configured and other signers and hooks made. No
signing, by a hook or without one, changes the settings or a signer. -/
theorem hook_fixed :
    (∀ (state : State) (step : Step), step.Signs → state.Keeps (state.step step).1) ∧
    ∀ {state : State}, state.Reachable → ∀ {kind : HookKind} {request : HookRequest}
      {apiKey : Json} {levels : Log.Levels},
      (state.step (kind.make request)).2.1 = .hook apiKey levels →
      let made := (state.step (kind.make request)).1
      ∃ place signer clock, state.Makes kind request ⟨place, apiKey⟩ signer clock ∧
        (∀ steps : List Step,
          (run made steps).1.standing? place = some (signer, clock) →
            (run made steps).1.UsedAlike made kind ⟨place, apiKey⟩) ∧
        ∀ steps : List Step, (∀ step ∈ steps, step.SetsUp) →
          (run made steps).1.UsedAlike made kind ⟨place, apiKey⟩ := by
  refine ⟨fun state _ hstep => keeps_step state hstep, ?_⟩
  intro state hstate kind request apiKey levels hmade made
  obtain ⟨place, signer, clock, hmakes⟩ := exists_makes hstate.knowsCurrent hmade
  have halike : ∀ steps : List Step, (run made steps).1.standing? place = some (signer, clock) →
      (run made steps).1.UsedAlike made kind ⟨place, apiKey⟩ := fun steps hstands =>
    usedAlike_of_standing (hstands.trans hmakes.stands.symm) kind
  refine ⟨place, signer, clock, hmakes, halike, fun steps hsteps => ?_⟩
  exact halike steps ((extends_run made hsteps).standing hmakes.stands)

/-- A hook with an empty key and a signer from the settings, after which the secret changes, logging
is configured and another hook takes the place of the first one in the session. -/
theorem hook_fixed_secret_changed :
    let settings : Settings :=
      { Settings.ofFunction Setting.default with
        secret := .string "first", apiKey := .string "key" }
    let state : State := .initial settings (.always (.seconds 1)) .initial
    let made := (state.step (.makeMappedHook ⟨false, .string ""⟩)).1
    let steps : List Step :=
      [.setSetting (.string "secret") (.string "second"), .configure (.text "debug"),
        .makeSigner (.text "third") (.text "") (.text "timestamp") (.text "sign")
          (.always (.seconds 2)),
        .makeMappedHook ⟨true, .null⟩]
    (run made steps).1.UsedAlike made .mapped ⟨0, .string ""⟩ ∧
      ((run made steps).1.hook? .mapped).map (·.place) = some 1 := by
  intro settings state made steps
  have hreachable : state.Reachable := ⟨settings, _, _, [], rfl⟩
  have hmade : (state.step (HookKind.mapped.make ⟨false, .string ""⟩)).2.1 =
      .hook (.string "") .initial := by
    rfl
  have hsteps : ∀ step ∈ steps, step.SetsUp := by
    simp [steps, Step.SetsUp]
  obtain ⟨place, signer, clock, hmakes, -, halike⟩ := hook_fixed.2 hreachable hmade
  have hplace : place = 0 := by
    have hhook : made.hook? .mapped = some ⟨0, .string ""⟩ := rfl
    have hsame := hmakes.hook.symm.trans hhook
    exact (PlacedHook.mk.inj (Option.some.inj hsame)).1
  subst hplace
  refine ⟨halike steps hsteps, ?_⟩
  dsimp only [made, steps, state, settings]
  decide +kernel

end State

end Session

end SignedHttp
