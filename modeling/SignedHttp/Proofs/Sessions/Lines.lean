import SignedHttp.Proofs.Sessions.Effects

/-!
# What a step does at other levels

A step that has nothing to do with logging itself (`Step.IgnoresLevels`) leads to the same state and
the same answer whatever the levels are, and writes what its call logs
(`State.step_configured`). So the levels decide which of the logged records become lines, and
nothing else.

The answer says that a request was passed on exactly if the step calls a hook that passes it on
(`State.isPassed_step`).

Key definitions: `Session.Step.IgnoresLevels`, `Session.State.events`, `Session.Reply.isPassed`,
`Session.Call.passes`.
Key theorems: `Session.State.step_configured`, `Session.State.lines_step`,
`Session.State.isPassed_step`.
-/

namespace SignedHttp

namespace Session

/-- Whether a step neither configures logging, which making a hook does too, nor shows the levels,
nor logs something of its own. -/
def Step.IgnoresLevels : Step → Prop
  | .configure _ => False
  | .showLevels => False
  | .log _ => False
  | .makeMappedHook _ => False
  | .makeListedHook _ => False
  | _ => True

def Reply.isPassed : Reply → Bool
  | .mapped _ => true
  | .listed _ _ => true
  | _ => false

def Call.passes : Call → Bool
  | .mapped hook clock request => (hook.attachMapped clock request).1.result.isOk
  | .listed hook clock request isRead => (hook.attachListed clock request isRead).1.result.isOk
  | _ => false

namespace State

variable (state : State) (levels : Log.Levels)

def events (step : Step) : List Event :=
  (state.call? step).elim [] Call.events

/-- What a step leads to, at other levels: the same state and answer, and the lines that its call
writes at these. -/
def stepAt (step : Step) : State × Reply × List Line :=
  ((state.step step).1.configured levels, (state.step step).2.1,
    ((state.configured levels).absorb (state.events step)).2)

/-! ### Runs of signers -/

theorem fst_absorb_configured (events : List Event) :
    ((state.configured levels).absorb events).1 = (state.absorb events).1.configured levels := by
  change { state with telemetry := ((state.configured levels).telemetry.absorb events).1 } =
    { state with telemetry := { (state.telemetry.absorb events).1 with levels := levels } }
  rw [Telemetry.absorb_fst, Telemetry.absorb_fst]
  rfl

theorem moveClock_configured (place : Nat) (clock : Clock) :
    (state.configured levels).moveClock place clock =
      (state.moveClock place clock).configured levels := by
  have hsigners : (state.configured levels).signers = state.signers := rfl
  rw [moveClock, moveClock, hsigners]
  split
  · rfl
  · rfl
  · rfl

theorem lines_moveClock (place : Nat) (clock : Clock) (events : List Event) :
    ((state.moveClock place clock).absorb events).2 = (state.absorb events).2 := by
  change ((state.moveClock place clock).telemetry.absorb events).2 = _
  rw [telemetry_moveClock]
  rfl

theorem settle_configured {α : Type} (place : Nat) (run : Run α) :
    (state.configured levels).settle place run =
      ((state.settle place run).1.configured levels,
        ((state.configured levels).absorb run.events).2) := by
  refine Prod.ext ?_ ?_
  · rw [settle, moveClock_configured, fst_absorb_configured, settle]
  · rw [settle, lines_moveClock]

/-! ### Steps -/

theorem signStep_configured (url : Json) (body : Payload) (time : Json) :
    (state.configured levels).step (.sign url body time) =
      state.stepAt levels (.sign url body time) := by
  have hfound : (state.configured levels).current? = state.current? := rfl
  rw [stepAt, step, step, signStep, signStep, withCurrent, withCurrent, hfound, events, call?]
  cases state.current? with
  | none => rfl
  | some current =>
    obtain ⟨place, enrolled⟩ := current
    have hclock : (state.configured levels).clockOf enrolled = state.clockOf enrolled := rfl
    dsimp only
    rw [hclock, settle_configured]
    split
    · rfl
    · rfl

theorem applyStep_configured (url : Json) (body : Payload) :
    (state.configured levels).step (.apply url body) = state.stepAt levels (.apply url body) := by
  have hfound : (state.configured levels).current? = state.current? := rfl
  rw [stepAt, step, step, applyStep, applyStep, hfound, events, call?]
  cases state.current? with
  | none => rfl
  | some current =>
    obtain ⟨place, enrolled⟩ := current
    have hclock : (state.configured levels).clockOf enrolled = state.clockOf enrolled := rfl
    have hheaders : (state.configured levels).headers = state.headers := rfl
    dsimp only
    rw [hclock, hheaders, settle_configured]
    split
    · rfl
    · rfl

theorem callMappedStep_configured (call : MappedCall) :
    (state.configured levels).step (.callMapped call) = state.stepAt levels (.callMapped call) := by
  have hfound : (state.configured levels).hookAt? (state.configured levels).mappedHook =
      state.hookAt? state.mappedHook := rfl
  rw [stepAt, step, step, callMappedStep, callMappedStep, hfound, events, call?]
  cases state.hookAt? state.mappedHook with
  | none => rfl
  | some placed =>
    obtain ⟨place, enrolled, hook⟩ := placed
    have hclock : (state.configured levels).clockOf enrolled = state.clockOf enrolled := rfl
    dsimp only [Option.bind_some]
    cases call.fields.mapM (Headers.ofAssignments .caseless) with
    | error fault => rfl
    | ok headers =>
      dsimp only
      rw [hclock, settle_configured]
      split
      · rfl
      · rfl

theorem callListedStep_configured (call : ListedCall) :
    (state.configured levels).step (.callListed call) = state.stepAt levels (.callListed call) := by
  have hfound : (state.configured levels).hookAt? (state.configured levels).listedHook =
      state.hookAt? state.listedHook := rfl
  rw [stepAt, step, step, callListedStep, callListedStep, hfound, events, call?]
  cases state.hookAt? state.listedHook with
  | none => rfl
  | some placed =>
    obtain ⟨place, enrolled, hook⟩ := placed
    have hclock : (state.configured levels).clockOf enrolled = state.clockOf enrolled := rfl
    dsimp only [Option.bind_some]
    cases ListedRequest.make call.method call.address call.fields call.content with
    | error fault => rfl
    | ok request =>
      dsimp only
      rw [hclock, settle_configured, ← events_passListed]
      split
      · rfl
      · rfl

theorem changeStep_configured (name : Json) (value : Payload) :
    (state.configured levels).step (.change name value) =
      state.stepAt levels (.change name value) := by
  have hfound : (state.configured levels).current? = state.current? := rfl
  rw [stepAt, step, step, changeStep.eq_def, changeStep.eq_def, hfound]
  split
  · split
    · rfl
    · split
      · rfl
      · rfl
  · rfl

theorem showSettings_configured :
    (state.configured levels).showSettings =
      (state.showSettings.1.configured levels, state.showSettings.2.1, []) := by
  have hsettings : (state.configured levels).settings = state.settings := rfl
  rw [showSettings, showSettings, hsettings]
  split
  · rfl
  · rfl

theorem withPart_configured (name : String) (value : Json) :
    (state.configured levels).withPart name value =
      (state.withPart name value).configured levels := by
  rw [withPart, withPart]
  split
  · rfl
  · rfl

theorem setSettingStep_configured (name value : Json) :
    (state.configured levels).step (.setSetting name value) =
      state.stepAt levels (.setSetting name value) := by
  have hlost : (state.configured levels).lostRecord = state.lostRecord := rfl
  rw [stepAt, step, step, setSettingStep.eq_def, setSettingStep.eq_def, hlost]
  split
  · split
    · dsimp only
      split
      · rfl
      · exact showSettings_configured (state.withSetting _ value) levels
    · split
      · rfl
      · rw [withPart_configured, showSettings_configured]
        rfl
  · rfl

theorem readTimeStep_configured :
    (state.configured levels).step .readTime = state.stepAt levels .readTime := by
  have hfound : (state.configured levels).current? = state.current? := rfl
  rw [stepAt, step, step, readTimeStep, readTimeStep, withCurrent, withCurrent, hfound]
  split
  · rename_i enrolled _
    have hclock : (state.configured levels).clockOf enrolled = state.clockOf enrolled := rfl
    dsimp only
    rw [hclock, moveClock_configured]
    split
    · rfl
    · rfl
  · rfl

/-- A step that ignores the levels does the same at all of them, but for the lines, which are those
of its call. -/
theorem step_configured {step : Step} (h : step.IgnoresLevels) :
    (state.configured levels).step step = state.stepAt levels step := by
  cases step with
  | makeSigner secret base timestampHeader signHeader clock =>
    rw [stepAt, State.step, State.step]
    split
    · rfl
    · rfl
  | signerFromSettings arguments clock =>
    have hsettings : (state.configured levels).settings = state.settings := rfl
    rw [stepAt, State.step, State.step, installFromSettings.eq_def, installFromSettings.eq_def,
      hsettings]
    dsimp only
    split
    · rfl
    · rfl
  | change name value => exact changeStep_configured state levels name value
  | setClock clock =>
    have hfound : (state.configured levels).current? = state.current? := rfl
    rw [stepAt, State.step, State.step, withCurrent, withCurrent, hfound]
    split
    · rfl
    · rfl
  | setSetting name value => exact setSettingStep_configured state levels name value
  | setInstant => rfl
  | sign url body time => exact signStep_configured state levels url body time
  | setHeaders rule items =>
    rw [stepAt, State.step, State.step, setHeadersStep, setHeadersStep]
    split
    · rfl
    · rfl
  | append name value =>
    have hheaders : (state.configured levels).headers = state.headers := rfl
    rw [stepAt, State.step, State.step, appendStep, appendStep, hheaders]
    split
    · rfl
    · rfl
  | apply url body => exact applyStep_configured state levels url body
  | readTime => exact readTimeStep_configured state levels
  | matchBase url =>
    have hfound : (state.configured levels).current? = state.current? := rfl
    rw [stepAt, State.step, State.step, withCurrent, withCurrent, hfound]
    split
    · split
      · rfl
      · rfl
    · rfl
  | configure => exact h.elim
  | showLevels => exact h.elim
  | log => exact h.elim
  | showMetrics => rfl
  | makeMappedHook => exact h.elim
  | callMapped call => exact callMappedStep_configured state levels call
  | makeListedHook => exact h.elim
  | callListed call => exact callListedStep_configured state levels call

/-- What is written in a step is what its call logs. -/
theorem lines_step {step : Step} (h : step.IgnoresLevels) :
    (state.step step).2.2 = (state.absorb (state.events step)).2 :=
  congrArg (·.2.2) (step_configured state state.telemetry.levels h)

/-! ### Answers -/

theorem isPassed_callMapped (call : MappedCall) :
    (state.step (.callMapped call)).2.1.isPassed =
      (state.call? (.callMapped call)).any Call.passes := by
  rw [step, callMappedStep, call?]
  cases state.hookAt? state.mappedHook with
  | none => rfl
  | some placed =>
    obtain ⟨place, enrolled, hook⟩ := placed
    dsimp only [Option.bind_some]
    cases call.fields.mapM (Headers.ofAssignments .caseless) with
    | error fault => rfl
    | ok headers =>
      dsimp only [Option.any_some, Call.passes]
      split
      · rename_i fault hresult
        rw [hresult]
        rfl
      · rename_i sent hresult
        rw [hresult]
        rfl

theorem isPassed_callListed (call : ListedCall) :
    (state.step (.callListed call)).2.1.isPassed =
      (state.call? (.callListed call)).any Call.passes := by
  rw [step, callListedStep, call?]
  cases state.hookAt? state.listedHook with
  | none => rfl
  | some placed =>
    obtain ⟨place, enrolled, hook⟩ := placed
    dsimp only [Option.bind_some]
    cases ListedRequest.make call.method call.address call.fields call.content with
    | error fault => rfl
    | ok request =>
      dsimp only
      rw [Call.ofListed?, Hook.passListed]
      cases if call.isRead then request.content.bytes else .ok [] with
      | error fault => rfl
      | ok bytes =>
        dsimp only [Option.any_some, Call.passes]
        split
        · rename_i fault hresult
          rw [hresult]
          rfl
        · rename_i sent hresult
          rw [hresult]
          rfl

theorem isPassed_showSettings : state.showSettings.2.1.isPassed = false := by
  rw [showSettings]
  split
  · rfl
  · rfl

/-- A step answers that a request was passed on exactly if its call passes it on. -/
theorem isPassed_step {step : Step} (h : step.IgnoresLevels) :
    (state.step step).2.1.isPassed = (state.call? step).any Call.passes := by
  cases step with
  | makeSigner secret base timestampHeader signHeader clock =>
    rw [State.step]
    split
    · rfl
    · rfl
  | signerFromSettings arguments clock =>
    rw [State.step, installFromSettings.eq_def]
    dsimp only
    split
    · rfl
    · rfl
  | change name value =>
    rw [State.step, changeStep.eq_def]
    split
    · split
      · rfl
      · split
        · rfl
        · rfl
    · rfl
  | setClock clock =>
    rw [State.step, withCurrent]
    split
    · rfl
    · rfl
  | setSetting name value =>
    rw [State.step, setSettingStep.eq_def]
    split
    · split
      · dsimp only
        split
        · rfl
        · exact isPassed_showSettings _
      · split
        · rfl
        · exact isPassed_showSettings _
    · rfl
  | setInstant => rfl
  | sign url body time =>
    rw [State.step, signStep, withCurrent, call?]
    cases state.current? with
    | none => rfl
    | some current =>
      dsimp only
      split
      · rfl
      · rfl
  | setHeaders rule items =>
    rw [State.step, setHeadersStep]
    split
    · rfl
    · rfl
  | append name value =>
    rw [State.step, appendStep]
    split
    · rfl
    · rfl
  | apply url body =>
    rw [State.step, applyStep, call?]
    cases state.current? with
    | none => rfl
    | some current =>
      dsimp only
      split
      · rfl
      · rfl
  | readTime =>
    rw [State.step, readTimeStep, withCurrent]
    split
    · dsimp only
      split
      · rfl
      · rfl
    · rfl
  | matchBase url =>
    rw [State.step, withCurrent]
    split
    · split
      · rfl
      · rfl
    · rfl
  | configure => exact h.elim
  | showLevels => exact h.elim
  | log => exact h.elim
  | showMetrics => rfl
  | makeMappedHook => exact h.elim
  | callMapped call => exact isPassed_callMapped state call
  | makeListedHook => exact h.elim
  | callListed call => exact isPassed_callListed state call

end State

end Session

end SignedHttp
