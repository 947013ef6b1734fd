import SignedHttp.Proofs.Sessions.Effects
import SignedHttp.Proofs.Sessions.Levels

/-!
# Logger and handler stay in step

Levels change only where logging is configured, by a step of its own or when a hook is made, and
then both become the level that was chosen (`State.levels_step`). Names that denote no level choose
`INFO`, and the two that denote something else are refused before anything is changed
(`State.refused_configure`, `State.refused_make`). So the levels are always the last choice, or
`INFO` where there was none, whatever else was done or failed (`State.run_leveled`): also the choice
of a hook that was not made in the end, for want of a secret, which leaves nothing else behind.

Key definitions: `Log.levelOf`, `State.chosen?`, `State.choices`, `State.Leveled`,
`Step.Constructs`.
Key theorems: `State.levels_step`, `State.levels_run`, `State.run_leveled`.
-/

namespace SignedHttp

namespace Log

/-- The names, in capital letters, that denote something other than a level. -/
def strangeNames : List String :=
  [formatName, stylesName]

def levelOf (name : String) : Nat :=
  (configurable.lookup (Text.upper name)).getD defaultLevel

/-- Only the names that denote something else are refused. -/
theorem chooseLevel_text {name : String} (h : Text.upper name ∉ strangeNames) :
    chooseLevel (.text name) = .ok (levelOf name) := by
  rw [strangeNames, List.mem_cons, List.mem_singleton, not_or] at h
  rw [chooseLevel, if_neg h.1, if_neg h.2]
  rfl

theorem chooseLevel_strange {name : String} (h : Text.upper name ∈ strangeNames) :
    ∃ fault, chooseLevel (.text name) = .error fault := by
  rw [chooseLevel]
  rcases List.mem_cons.mp h with hformat | hstyles
  · exact ⟨_, if_pos hformat⟩
  · split
    · exact ⟨_, rfl⟩
    · exact ⟨_, if_pos (List.mem_singleton.mp hstyles)⟩

theorem mem_of_chooseLevel {choice : Payload} {level : Nat} (h : chooseLevel choice = .ok level) :
    level ∈ namedLevels.map Prod.fst := by
  have hlevels : ∀ entry ∈ configurable, entry.2 ∈ namedLevels.map Prod.fst := by
    decide
  rw [chooseLevel.eq_def] at h
  split at h
  · rename_i name
    dsimp only at h
    split at h
    · cases h
    · split at h
      · cases h
      · obtain rfl := Except.ok.inj h
        cases hfound : configurable.lookup (Text.upper name) with
        | none => decide
        | some level =>
          obtain ⟨before, after, hsplit, -⟩ := List.lookup_eq_some_iff.mp hfound
          exact hlevels (_, level) (hsplit ▸ List.mem_append_right _ List.mem_cons_self)
  · obtain rfl := Except.ok.inj h
    decide
  · cases h
  · cases h
  · cases h

end Log

open Log.Levels (both)

namespace Session

def Step.Constructs : Step → Prop
  | .makeSigner _ _ _ _ _ => True
  | .signerFromSettings _ _ => True
  | .makeMappedHook _ => True
  | .makeListedHook _ => True
  | _ => False

def Step.Configures : Step → Prop
  | .configure _ => True
  | .makeMappedHook _ => True
  | .makeListedHook _ => True
  | _ => False

namespace State

variable (state : State)

/-- The level that a step chooses, if it configures logging and that is not refused. -/
def chosen? : Step → Option Nat
  | .configure level => (Log.chooseLevel level).toOption
  | .makeMappedHook _ => (Log.chooseLevel (.json state.settings.logLevel)).toOption
  | .makeListedHook _ => (Log.chooseLevel (.json state.settings.logLevel)).toOption
  | _ => none

def choices : State → List Step → List Nat
  | _, [] => []
  | state, step :: steps => (state.chosen? step).toList ++ choices (state.step step).1 steps

theorem chosen?_make (kind : HookKind) (request : HookRequest) :
    state.chosen? (kind.make request) =
      (Log.chooseLevel (.json state.settings.logLevel)).toOption := by
  cases kind <;> rfl

theorem mem_of_chosen? {step : Step} {level : Nat} (h : state.chosen? step = some level) :
    level ∈ Log.namedLevels.map Prod.fst := by
  have hmem : ∀ {choice : Payload}, (Log.chooseLevel choice).toOption = some level →
      level ∈ Log.namedLevels.map Prod.fst := fun {choice} hchoice => by
    cases hlevel : Log.chooseLevel choice with
    | error fault =>
      rw [hlevel] at hchoice
      cases hchoice
    | ok chosen =>
      rw [hlevel] at hchoice
      rw [← Option.some.inj hchoice]
      exact Log.mem_of_chooseLevel hlevel
  cases step with
  | configure level => exact hmem h
  | makeMappedHook request => exact hmem h
  | makeListedHook request => exact hmem h
  | _ => cases h

theorem levels_make (kind : HookKind) (request : HookRequest) :
    (state.step (kind.make request)).1.telemetry.levels =
      ((state.chosen? (kind.make request)).map both).getD state.telemetry.levels := by
  rw [chosen?_make]
  cases hgiven : state.given? request with
  | some place =>
    rw [step_make_of_given state hgiven, Log.Levels.configure]
    cases Log.chooseLevel (.json state.settings.logLevel) with
    | error fault => rfl
    | ok level => exact congrArg Telemetry.levels (telemetry_withHook ..)
  | none =>
    rw [step_make_of_default state hgiven, Log.Levels.configure]
    cases Log.chooseLevel (.json state.settings.logLevel) with
    | error fault => rfl
    | ok level =>
      cases Signer.ofSettings state.settings with
      | error fault => rfl
      | ok signer => exact congrArg Telemetry.levels (telemetry_withHook ..)

theorem levels_configure (level : Payload) :
    (state.step (.configure level)).1.telemetry.levels =
      ((state.chosen? (.configure level)).map both).getD state.telemetry.levels := by
  rw [State.step, chosen?, Log.Levels.configure]
  cases Log.chooseLevel level with
  | error fault => rfl
  | ok level => rfl

/-- Nothing else changes the levels. -/
theorem Effect.levels {state after : State} {step : Step} (h : state.Effect step after)
    (hstep : ¬ step.Configures) : after.telemetry.levels = state.telemetry.levels := by
  cases h with
  | readTime => exact (keeps_moveClock ..).levels
  | signs => exact (keeps_signing ..).levels
  | configure => exact absurd trivial hstep
  | @hookWithoutSecret kind => exact absurd (by cases kind <;> trivial) hstep
  | @hookOfGiven kind => exact absurd (by cases kind <;> trivial) hstep
  | @hookOfDefault kind => exact absurd (by cases kind <;> trivial) hstep
  | _ => rfl

/-- A step changes the levels exactly if it chooses one, and then both. -/
theorem levels_step (step : Step) :
    (state.step step).1.telemetry.levels =
      ((state.chosen? step).map both).getD state.telemetry.levels := by
  have hother : ¬ step.Configures → state.chosen? step = none →
      (state.step step).1.telemetry.levels =
        ((state.chosen? step).map both).getD state.telemetry.levels := fun hstep hnone => by
    rw [hnone]
    exact (effect_step state step).levels hstep
  cases step with
  | configure level => exact levels_configure state level
  | makeMappedHook request => exact levels_make state .mapped request
  | makeListedHook request => exact levels_make state .listed request
  | _ => exact hother id rfl

/-- The levels after a run are the last choice that was made in it. -/
theorem levels_run : ∀ {steps : List Step} {state : State} {level : Nat},
    state.telemetry.levels = both level →
      (run state steps).1.telemetry.levels = both ((state.choices steps).getLast?.getD level)
  | [], _, _, h => h
  | step :: steps, state, level, h => by
    have hstep := levels_step state step
    rw [run, choices]
    cases hchosen : state.chosen? step with
    | none =>
      rw [hchosen] at hstep
      exact levels_run (hstep.trans h)
    | some chosen =>
      rw [hchosen] at hstep
      have hlast := @levels_run steps _ _ hstep
      rw [Option.toList_some, List.singleton_append, List.getLast?_cons, Option.getD_some]
      exact hlast

theorem mem_of_mem_choices : ∀ {steps : List Step} {state : State} {level : Nat},
    level ∈ state.choices steps → level ∈ Log.namedLevels.map Prod.fst
  | [], _, _, h => nomatch h
  | step :: steps, state, _, h => by
    rcases List.mem_append.mp h with hfirst | hrest
    · exact mem_of_chosen? state (Option.mem_toList.mp hfirst)
    · exact mem_of_mem_choices hrest

theorem mem_last_choice (state : State) (steps : List Step) :
    (state.choices steps).getLast?.getD Log.defaultLevel ∈ Log.namedLevels.map Prod.fst := by
  cases hlast : (state.choices steps).getLast? with
  | none => decide
  | some chosen => exact mem_of_mem_choices (List.mem_of_getLast? hlast)

/-! ### Steps that fail -/

/-- A name that denotes something other than a level is refused, and nothing changes. -/
theorem refused_configure {name : String} (h : Text.upper name ∈ Log.strangeNames) :
    ∃ fault, state.step (.configure (.text name)) = (state, .failed fault, []) := by
  obtain ⟨fault, hchoice⟩ := Log.chooseLevel_strange h
  refine ⟨fault, ?_⟩
  rw [State.step, Log.Levels.configure, hchoice]
  rfl

theorem refused_make {name : String} (hname : state.settings.logLevel = .string name)
    (h : Text.upper name ∈ Log.strangeNames) (kind : HookKind) (request : HookRequest) :
    ∃ fault, state.step (kind.make request) = (state, .failed fault, []) := by
  obtain ⟨fault, hchoice⟩ := Log.chooseLevel_strange h
  refine ⟨fault, ?_⟩
  rw [step_make, placeHook, hname, Log.Levels.configure, hchoice]
  rfl

/-- A hook that is given no signer is not made without a secret, but logging is configured. -/
theorem unmade_make {request : HookRequest} {level : Nat} {fault : Fault}
    (hlevel : Log.chooseLevel (.json state.settings.logLevel) = .ok level)
    (hgiven : state.given? request = none)
    (hsigner : Signer.ofSettings state.settings = .error fault) (kind : HookKind) :
    state.step (kind.make request) = (state.configured (both level), .failed fault, []) := by
  rw [step_make_of_default state hgiven, Log.Levels.configure, hlevel, hsigner]
  rfl

theorem make_of_failed {kind : HookKind} {request : HookRequest} {fault : Fault}
    (hfailed : (state.step (kind.make request)).2.1 = .failed fault) :
    (state.step (kind.make request)).1 =
      state.configured (state.step (kind.make request)).1.telemetry.levels := by
  cases hgiven : state.given? request with
  | some place =>
    rw [step_make_of_given state hgiven] at hfailed ⊢
    split at hfailed
    · rfl
    · cases hfailed
  | none =>
    rw [step_make_of_default state hgiven] at hfailed ⊢
    split at hfailed
    · rfl
    · split at hfailed
      · rfl
      · cases hfailed

/-- What fails to make a signer or a hook changes nothing but the levels. -/
theorem step_of_failed {step : Step} (hstep : step.Constructs) {fault : Fault}
    (hfailed : (state.step step).2.1 = .failed fault) :
    (state.step step).1 = state.configured (state.step step).1.telemetry.levels := by
  cases step with
  | makeSigner =>
    rw [State.step] at hfailed ⊢
    split at hfailed
    · rfl
    · cases hfailed
  | signerFromSettings =>
    rw [State.step, installFromSettings.eq_def] at hfailed ⊢
    dsimp only at hfailed ⊢
    split at hfailed
    · rfl
    · cases hfailed
  | makeMappedHook request => exact @make_of_failed state .mapped request fault hfailed
  | makeListedHook request => exact @make_of_failed state .listed request fault hfailed
  | _ => exact hstep.elim

/-! ### Sessions -/

/-- How a session treats the levels from a state on. -/
structure Leveled (state : State) : Prop where
  /-- A name chooses its level, `INFO` if it denotes none, and both levels become the one that is
  chosen. -/
  accepted : ∀ name, Text.upper name ∉ Log.strangeNames →
    state.step (.configure (.text name)) =
      (state.configured (both (Log.levelOf name)), .levels (both (Log.levelOf name)), [])
  refused : ∀ name, Text.upper name ∈ Log.strangeNames →
    ∃ fault, state.step (.configure (.text name)) = (state, .failed fault, [])
  refusedHook : ∀ name, state.settings.logLevel = .string name →
    Text.upper name ∈ Log.strangeNames → ∀ (kind : HookKind) request,
      ∃ fault, state.step (kind.make request) = (state, .failed fault, [])
  /-- Without a secret a hook has configured logging when it fails. -/
  withoutSecret : ∀ name, state.settings.logLevel = .string name →
    Text.upper name ∉ Log.strangeNames → ∀ (kind : HookKind) request fault,
      state.given? request = none → Signer.ofSettings state.settings = .error fault →
        state.step (kind.make request) =
          (state.configured (both (Log.levelOf name)), .failed fault, [])
  /-- What fails to make a signer or a hook changes no hook, signer, header, count or setting. -/
  failed : ∀ step : Step, step.Constructs → ∀ fault, (state.step step).2.1 = .failed fault →
    (state.step step).1 = state.configured (state.step step).1.telemetry.levels
  signs : ∀ step : Step, step.Signs →
    (state.step step).1.telemetry.levels = state.telemetry.levels

theorem leveled : state.Leveled where
  accepted name h := by
    rw [State.step, Log.Levels.configure, Log.chooseLevel_text h]
    rfl
  refused _ h := refused_configure state h
  refusedHook _ hname h := refused_make state hname h
  withoutSecret name hname h kind request fault hgiven hsigner := by
    have hlevel : Log.chooseLevel (.json state.settings.logLevel) = .ok (Log.levelOf name) := by
      rw [hname]
      exact Log.chooseLevel_text h
    exact unmade_make state hlevel hgiven hsigner kind
  failed _ hstep _ hfailed := step_of_failed state hstep hfailed
  signs _ hstep := (keeps_step state hstep).levels

/-- Logger and handler stay in step. After any steps, whichever of them failed, both are at the
level that was chosen last, by configuring logging or for a hook, also for one that was not made in
the end; they are at `INFO` if none was chosen, and always at a level that has a name. -/
theorem run_leveled (settings : Settings) (clock : Clock) (instant : Int) (tally : Tally)
    (steps : List Step) :
    let start : State := .initial settings clock ⟨.initial, instant, tally⟩
    let level := ((start.choices steps).getLast?).getD Log.defaultLevel
    (run start steps).1.telemetry.levels = both level ∧
      level ∈ Log.namedLevels.map Prod.fst ∧ (run start steps).1.Leveled := by
  intro start level
  exact ⟨@levels_run steps start Log.defaultLevel rfl, mem_last_choice start steps, leveled _⟩

/-- A level in small letters is chosen for a hook that has no secret; then the format of records is
no level. -/
example :
    let settings : Settings :=
      { Settings.ofFunction Setting.default with logLevel := .string "debug" }
    (run (.initial settings (.always (.seconds 1)) .initial)
      [.makeMappedHook ⟨false, .null⟩, .configure (.text "basic_format")]).1.telemetry.levels =
      both 10 := by
  decide +kernel

end State

end Session

end SignedHttp
