import SignedHttp.Proofs.Sessions.Calls

/-!
# What a step can do to a session

A step that is refused before it calls anything leaves the session as it was. Otherwise it does the
one thing that it is there for (`State.Effect`): it puts a signer behind the others, changes the
current one, exchanges settings, headers or the instant of the log's clock, configures logging,
makes a hook, or settles a run of a signer. What a step changes and what it leaves alone is read off
from this list (`State.effect_step`), and induction carries it along a run: what is counted is what
the calls do (`State.tally_step`, `State.tally_run`), a signing keeps the settings and the signers
(`State.keeps_step`), and all that is there stays while other things are set up
(`State.extends_run`).

The two kinds of hooks are made in the same way, by the settings of that moment
(`State.step_make_of_given`, `State.step_make_of_default`).

Key definitions: `HookKind`, `State.given?`, `State.Effect`, `State.Keeps`, `State.Extends`,
`Step.Signs`, `Step.SetsUp`.
Key theorems: `State.step_make_of_given`, `State.step_make_of_default`, `State.effect_step`,
`State.tally_step`, `State.tally_run`, `State.keeps_step`, `State.extends_run`.
-/

namespace SignedHttp

namespace Session

/-! ### Making hooks -/

inductive HookKind where
  | mapped
  | listed
deriving DecidableEq, Repr

namespace HookKind

def Request : HookKind → Type
  | mapped => MappedCall
  | listed => ListedCall

def make : HookKind → HookRequest → Step
  | mapped => .makeMappedHook
  | listed => .makeListedHook

def call : (kind : HookKind) → kind.Request → Step
  | mapped, request => .callMapped request
  | listed, request => .callListed request

end HookKind

/-- The key of a new hook: the one that is given, unless that is null, else that of the settings. -/
def HookRequest.keyFrom (request : HookRequest) (settings : Settings) : Json :=
  match request.apiKey with
  | .null => settings.apiKey
  | key => key

def TimeSource.isShared : TimeSource → Bool
  | .shared => true
  | .own _ => false

namespace State

def hook? (state : State) : HookKind → Option PlacedHook
  | .mapped => state.mappedHook
  | .listed => state.listedHook

def withHook (state : State) (placed : PlacedHook) : HookKind → State
  | .mapped => { state with mappedHook := some placed }
  | .listed => { state with listedHook := some placed }

/-- The place of the signer that a new hook is given, if it is given one. -/
def given? (state : State) (request : HookRequest) : Option Nat :=
  if request.useCurrent then state.current else none

variable (state : State) (placed : PlacedHook) (kind : HookKind) (request : HookRequest)

@[simp]
theorem hook?_withHook : (state.withHook placed kind).hook? kind = some placed := by
  cases kind <;> rfl

@[simp]
theorem signers_withHook : (state.withHook placed kind).signers = state.signers := by
  cases kind <;> rfl

@[simp]
theorem clock_withHook : (state.withHook placed kind).clock = state.clock := by
  cases kind <;> rfl

@[simp]
theorem telemetry_withHook : (state.withHook placed kind).telemetry = state.telemetry := by
  cases kind <;> rfl

@[simp]
theorem current_withHook : (state.withHook placed kind).current = state.current := by
  cases kind <;> rfl

variable {kind} {request}

/-- Hooks of both kinds are made in the same way. -/
theorem step_make (state : State) (kind : HookKind) (request : HookRequest) :
    state.step (kind.make request) =
      state.placeHook request fun state placed => state.withHook placed kind := by
  cases kind <;> rfl

/-- A hook that is given a signer takes that one, with the key of this moment. -/
theorem step_make_of_given {place : Nat} (h : state.given? request = some place) :
    state.step (kind.make request) =
      match Log.Levels.configure (.json state.settings.logLevel) with
      | .error fault => state.quiet (.failed fault)
      | .ok levels =>
        ((state.configured levels).withHook ⟨place, request.keyFrom state.settings⟩ kind).quiet
          (.hook (request.keyFrom state.settings) levels) := by
  rw [step_make, placeHook]
  cases Log.Levels.configure (.json state.settings.logLevel) with
  | error fault => rfl
  | ok levels =>
    have hfound : (if request.useCurrent then (state.configured levels).current else none) =
        some place := h
    dsimp only
    rw [hfound]
    rfl

/-- A hook that is given no signer has one made for it from the settings of this moment, which
reads the session's clock. -/
theorem step_make_of_default (h : state.given? request = none) :
    state.step (kind.make request) =
      match Log.Levels.configure (.json state.settings.logLevel) with
      | .error fault => state.quiet (.failed fault)
      | .ok levels =>
        match Signer.ofSettings state.settings with
        | .error fault => (state.configured levels).quiet (.failed fault)
        | .ok signer =>
          (((state.configured levels).enroll ⟨signer, .shared⟩).1.withHook
            ⟨state.signers.length, request.keyFrom state.settings⟩ kind).quiet
            (.hook (request.keyFrom state.settings) levels) := by
  rw [step_make, placeHook]
  cases Log.Levels.configure (.json state.settings.logLevel) with
  | error fault => rfl
  | ok levels =>
    have hfound : (if request.useCurrent then (state.configured levels).current else none) =
        none := h
    have hsettings : (state.configured levels).settings = state.settings := rfl
    dsimp only
    rw [hfound, hsettings]
    cases Signer.ofSettings state.settings with
    | error fault => rfl
    | ok signer => rfl

end State

/-! ### The list of effects -/

/-- A signing, by the current signer itself or by a hook. -/
def Step.Signs : Step → Prop
  | .sign _ _ _ => True
  | .apply _ _ => True
  | .callMapped _ => True
  | .callListed _ => True
  | _ => False

/-- A step that makes a signer or a hook, or sets up something other than a signer that is there:
settings, logging, headers. Nothing is signed and no clock is read. -/
def Step.SetsUp : Step → Prop
  | .sign _ _ _ => False
  | .apply _ _ => False
  | .callMapped _ => False
  | .callListed _ => False
  | .readTime => False
  | .change _ _ => False
  | .setClock _ => False
  | _ => True

namespace State

/-- The settings that a new signer is made from: those of the session, or of arguments alone. -/
def settingsFrom (state : State) : Option (List (Json × Json)) → Except Fault Settings
  | none => .ok state.settings
  | some arguments => Sources.argumentsOf arguments >>= Sources.resolveAlone

/-- What a step can do: the states that it can lead to. -/
inductive Effect (state : State) : Step → State → Prop
  /-- The step is refused before it calls anything, or only asks. -/
  | idle {step : Step} (hcall : state.call? step = none) : Effect state step state
  | makeSigner {secret base timestampHeader signHeader : Payload} {clock : Clock}
      {signer : Signer}
      (hsigner : Signer.make secret base timestampHeader signHeader = .ok signer) :
      Effect state (.makeSigner secret base timestampHeader signHeader clock)
        (state.install signer clock)
  | signerFromSettings {arguments : Option (List (Json × Json))} {clock : Clock}
      {settings : Settings} {signer : Signer}
      (hsettings : state.settingsFrom arguments = .ok settings)
      (hsigner : Signer.ofSettings settings = .ok signer) :
      Effect state (.signerFromSettings arguments clock) (state.install signer clock)
  | change {name : String} {value : Payload} {place : Nat} {enrolled changed : Enrolled}
      (hcurrent : state.current? = some (place, enrolled))
      (hchanged : State.changed enrolled name value = .ok changed) :
      Effect state (.change (.string name) value)
        { state with signers := state.signers.set place changed }
  | setClock {clock : Clock} {place : Nat} {enrolled : Enrolled}
      (hcurrent : state.current? = some (place, enrolled)) :
      Effect state (.setClock clock)
        { state with signers := state.signers.set place (enrolled.setClock clock) }
  | setSetting {name : String} {value : Json} {setting : Setting}
      (hname : Setting.ofName? name = some setting) :
      Effect state (.setSetting (.string name) value) (state.withSetting setting value)
  | setPart {name : String} {value : Json} (hname : Setting.ofName? name = none)
      (hpart : refusalOfPart name value = .ok ()) :
      Effect state (.setSetting (.string name) value)
        { state with
          lostRecord := if name = recordName then some value.kind else state.lostRecord }
  | setInstant (instant : Int) :
      Effect state (.setInstant instant)
        { state with telemetry := { state.telemetry with instant := instant } }
  | setHeaders {rule : NameRule} {items : List Entry} {headers : Headers}
      (hheaders : Headers.ofAssignments rule items = .ok headers) :
      Effect state (.setHeaders rule items) { state with headers := headers }
  | append {name : Payload} {value : Json} {headers : Headers}
      (hheaders : state.headers.append name value = .ok headers) :
      Effect state (.append name value) { state with headers := headers }
  | readTime {place : Nat} {enrolled : Enrolled}
      (hcurrent : state.current? = some (place, enrolled)) :
      Effect state .readTime
        (state.moveClock place (enrolled.signer.readTime (state.clockOf enrolled)).2)
  | configure {level : Payload} {levels : Log.Levels}
      (hlevels : Log.Levels.configure level = .ok levels) :
      Effect state (.configure level) (state.configured levels)
  | log {draft : Log.Draft} {logger : Option String} (hlogger : loggerOf draft = .ok logger) :
      Effect state (.log draft) { state with loggers := logger.toList ++ state.loggers }
  /-- The signer at a place reads its clock, what the call counts is counted, and headers may have
  got the new fields. -/
  | signs {step : Step} (hstep : step.Signs) (place : Nat) (clock : Clock) (headers : Headers) :
      Effect state step
        { ((state.moveClock place clock).absorb ((state.call? step).elim [] Call.events)).1 with
          headers := headers }
  /-- Logging is configured before it turns out that there is no secret. -/
  | hookWithoutSecret {kind : HookKind} {request : HookRequest} {levels : Log.Levels}
      (hlevels : Log.Levels.configure (.json state.settings.logLevel) = .ok levels) :
      Effect state (kind.make request) (state.configured levels)
  | hookOfGiven {kind : HookKind} {request : HookRequest} {levels : Log.Levels} {place : Nat}
      (hlevels : Log.Levels.configure (.json state.settings.logLevel) = .ok levels)
      (hplace : state.given? request = some place) :
      Effect state (kind.make request)
        ((state.configured levels).withHook ⟨place, request.keyFrom state.settings⟩ kind)
  | hookOfDefault {kind : HookKind} {request : HookRequest} {levels : Log.Levels}
      {signer : Signer}
      (hlevels : Log.Levels.configure (.json state.settings.logLevel) = .ok levels)
      (hsigner : Signer.ofSettings state.settings = .ok signer) :
      Effect state (kind.make request)
        (((state.configured levels).enroll ⟨signer, .shared⟩).1.withHook
          ⟨state.signers.length, request.keyFrom state.settings⟩ kind)

variable (state : State)

theorem call?_make (kind : HookKind) (request : HookRequest) :
    state.call? (kind.make request) = none := by
  cases kind <;> rfl

theorem effect_changeStep (name : Json) (value : Payload) :
    state.Effect (.change name value) (state.changeStep name value).1 := by
  rw [changeStep.eq_def]
  split
  · split
    · exact .idle rfl
    · rename_i hcurrent
      split
      · exact .idle rfl
      · rename_i hchanged
        exact .change hcurrent hchanged
  · exact .idle rfl

theorem fst_showSettings : state.showSettings.1 = state := by
  rw [showSettings]
  split
  · rfl
  · rfl

theorem withPart_eq (name : String) (value : Json) :
    state.withPart name value =
      { state with
        lostRecord := if name = recordName then some value.kind else state.lostRecord } := by
  rw [withPart]
  split
  · rfl
  · rfl

theorem effect_setSettingStep (name value : Json) :
    state.Effect (.setSetting name value) (state.setSettingStep name value).1 := by
  rw [setSettingStep.eq_def]
  split
  · split
    · rename_i hname
      dsimp only
      split
      · exact .setSetting hname
      · rw [fst_showSettings]
        exact .setSetting hname
    · rename_i hname
      split
      · exact .idle rfl
      · rename_i hpart
        rw [fst_showSettings, withPart_eq]
        exact .setPart hname hpart
  · exact .idle rfl

/-- A step that settles a run of the signer it calls has the effect of a signing. -/
theorem effect_settle {α : Type} {step : Step} (hstep : step.Signs) (place : Nat) (run : Run α)
    (hevents : run.events = (state.call? step).elim [] Call.events) :
    state.Effect step (state.settle place run).1 := by
  have hheaders : (state.moveClock place run.clock).headers = state.headers := by
    rw [moveClock]
    split
    · rfl
    · rfl
    · rfl
  have heffect : state.Effect step _ := .signs hstep place run.clock state.headers
  rw [← hheaders, ← hevents] at heffect
  exact heffect

theorem effect_signStep (url : Json) (body : Payload) (time : Json) :
    state.Effect (.sign url body time) (state.signStep url body time).1 := by
  have hsigns : (Step.sign url body time).Signs := trivial
  rw [signStep, withCurrent]
  cases hcurrent : state.current? with
  | none => exact .idle (by rw [call?, hcurrent]; rfl)
  | some current =>
    obtain ⟨place, enrolled⟩ := current
    have hevents : (enrolled.signer.sign (state.clockOf enrolled) url body time).events =
        (state.call? (.sign url body time)).elim [] Call.events := by
      rw [call?, hcurrent]
      rfl
    dsimp only
    split
    · exact effect_settle state hsigns place _ hevents
    · exact effect_settle state hsigns place _ hevents

theorem effect_applyStep (url : Json) (body : Payload) :
    state.Effect (.apply url body) (state.applyStep url body).1 := by
  have hsigns : (Step.apply url body).Signs := trivial
  rw [applyStep]
  cases hcurrent : state.current? with
  | none => exact .idle (by rw [call?, hcurrent]; rfl)
  | some current =>
    obtain ⟨place, enrolled⟩ := current
    have hevents : (enrolled.signer.apply (state.clockOf enrolled) (some state.headers) url
        body).1.events = (state.call? (.apply url body)).elim [] Call.events := by
      rw [call?, hcurrent]
      rfl
    dsimp only
    rw [settle, hevents]
    split
    · exact .signs hsigns place _ _
    · exact .signs hsigns place _ _

theorem effect_callMappedStep (call : MappedCall) :
    state.Effect (.callMapped call) (state.callMappedStep call).1 := by
  have hsigns : (Step.callMapped call).Signs := trivial
  rw [callMappedStep]
  cases hhook : state.hookAt? state.mappedHook with
  | none => exact .idle (by rw [call?, hhook]; rfl)
  | some placed =>
    obtain ⟨place, enrolled, hook⟩ := placed
    dsimp only
    cases hheaders : call.fields.mapM (Headers.ofAssignments .caseless) with
    | error fault =>
      refine .idle ?_
      rw [call?, hhook, Option.bind_some]
      dsimp only
      rw [hheaders]
    | ok headers =>
      have hevents : (hook.attachMapped (state.clockOf enrolled)
          ⟨call.method, call.url, headers, call.body⟩).1.events =
            (state.call? (.callMapped call)).elim [] Call.events := by
        rw [call?, hhook, Option.bind_some]
        dsimp only
        rw [hheaders]
        rfl
      dsimp only
      split
      · exact effect_settle state hsigns place _ hevents
      · exact effect_settle state hsigns place _ hevents

theorem effect_callListedStep (call : ListedCall) :
    state.Effect (.callListed call) (state.callListedStep call).1 := by
  have hsigns : (Step.callListed call).Signs := trivial
  rw [callListedStep]
  cases hhook : state.hookAt? state.listedHook with
  | none => exact .idle (by rw [call?, hhook]; rfl)
  | some placed =>
    obtain ⟨place, enrolled, hook⟩ := placed
    dsimp only
    cases hrequest : ListedRequest.make call.method call.address call.fields call.content with
    | error fault =>
      refine .idle ?_
      rw [call?, hhook, Option.bind_some]
      dsimp only
      rw [hrequest]
    | ok request =>
      have hevents : (hook.passListed (state.clockOf enrolled) request call.isRead).1.events =
          (state.call? (.callListed call)).elim [] Call.events := by
        rw [events_passListed, call?, hhook, Option.bind_some]
        dsimp only
        rw [hrequest]
      dsimp only
      split
      · exact effect_settle state hsigns place _ hevents
      · exact effect_settle state hsigns place _ hevents

theorem effect_make (kind : HookKind) (request : HookRequest) :
    state.Effect (kind.make request) (state.step (kind.make request)).1 := by
  cases hgiven : state.given? request with
  | some place =>
    rw [step_make_of_given state hgiven]
    split
    · exact .idle (call?_make state kind request)
    · rename_i levels hlevels
      exact .hookOfGiven hlevels hgiven
  | none =>
    rw [step_make_of_default state hgiven]
    split
    · exact .idle (call?_make state kind request)
    · rename_i levels hlevels
      split
      · exact .hookWithoutSecret hlevels
      · rename_i signer hsigner
        exact .hookOfDefault hlevels hsigner

theorem fst_logBy (logger : Option String) (level : Int) (draft : Log.Draft) :
    (state.logBy logger level draft).1 = state := by
  rw [logBy]
  repeat' split
  all_goals rfl

/-- Every step has one of the effects. -/
theorem effect_step (step : Step) : state.Effect step (state.step step).1 := by
  cases step with
  | makeSigner secret base timestampHeader signHeader clock =>
    rw [State.step]
    split
    · exact .idle rfl
    · rename_i signer hsigner
      exact .makeSigner hsigner
  | signerFromSettings arguments clock =>
    rw [State.step, installFromSettings.eq_def]
    dsimp only
    split
    · exact .idle rfl
    · rename_i signer hmade
      obtain ⟨settings, hsettings, hsigner⟩ := exists_of_bind_eq_ok hmade
      refine .signerFromSettings ?_ hsigner
      cases arguments with
      | none => exact hsettings
      | some arguments => exact hsettings
  | change name value => exact effect_changeStep state name value
  | setClock clock =>
    rw [State.step, withCurrent]
    split
    · rename_i hcurrent
      exact .setClock hcurrent
    · exact .idle rfl
  | setSetting name value => exact effect_setSettingStep state name value
  | setInstant instant => exact .setInstant instant
  | sign url body time => exact effect_signStep state url body time
  | setHeaders rule items =>
    rw [State.step, setHeadersStep]
    split
    · exact .idle rfl
    · rename_i hheaders
      exact .setHeaders hheaders
  | append name value =>
    rw [State.step, appendStep]
    split
    · exact .idle rfl
    · rename_i hheaders
      exact .append hheaders
  | apply url body => exact effect_applyStep state url body
  | readTime =>
    rw [State.step, readTimeStep, withCurrent]
    split
    · rename_i hcurrent
      dsimp only
      split
      · exact .readTime hcurrent
      · exact .readTime hcurrent
    · exact .idle rfl
  | matchBase url =>
    rw [State.step, withCurrent]
    split
    · split
      · exact .idle rfl
      · exact .idle rfl
    · exact .idle rfl
  | configure level =>
    rw [State.step]
    split
    · exact .idle rfl
    · rename_i levels hlevels
      exact .configure hlevels
  | showLevels => exact .idle rfl
  | log draft =>
    rw [State.step, logStep]
    split
    · exact .idle rfl
    · rename_i hlogger
      dsimp only
      split
      · exact .log hlogger
      · rw [fst_logBy]
        exact .log hlogger
  | showMetrics => exact .idle rfl
  | makeMappedHook request => exact effect_make state .mapped request
  | callMapped call => exact effect_callMappedStep state call
  | makeListedHook request => exact effect_make state .listed request
  | callListed call => exact effect_callListedStep state call

/-! ### What a step counts -/

@[simp]
theorem telemetry_moveClock (place : Nat) (clock : Clock) :
    (state.moveClock place clock).telemetry = state.telemetry := by
  rw [moveClock]
  split
  · rfl
  · rfl
  · rfl

/-- A signing changes of the telemetry nothing but the counts. -/
theorem telemetry_absorb_moveClock (place : Nat) (clock : Clock) (events : List Event) :
    ((state.moveClock place clock).absorb events).1.telemetry =
      { state.telemetry with
        tally := (outcomesOf events).foldl Tally.increment state.telemetry.tally } := by
  change ((state.moveClock place clock).telemetry.absorb events).1 = _
  rw [Telemetry.absorb_fst, telemetry_moveClock]

theorem Effect.tally {state after : State} {step : Step} (h : state.Effect step after) :
    after.telemetry.tally =
      (outcomesOf ((state.call? step).elim [] Call.events)).foldl Tally.increment
        state.telemetry.tally := by
  cases h with
  | idle hcall =>
    rw [hcall]
    rfl
  | readTime => exact congrArg Telemetry.tally (telemetry_moveClock ..)
  | signs => exact congrArg Telemetry.tally (telemetry_absorb_moveClock ..)
  | hookWithoutSecret =>
    rw [call?_make]
    rfl
  | hookOfGiven =>
    rw [call?_make, telemetry_withHook]
    rfl
  | hookOfDefault =>
    rw [call?_make, telemetry_withHook]
    rfl
  | _ => rfl

/-- A step counts what it calls, and nothing else. -/
theorem tally_step (step : Step) :
    (state.step step).1.telemetry.tally =
      (outcomesOf ((state.call? step).elim [] Call.events)).foldl Tally.increment
        state.telemetry.tally :=
  (effect_step state step).tally

theorem tally_run : ∀ (steps : List Step) (state : State),
    (run state steps).1.telemetry.tally =
      (outcomesOf ((state.calls steps).flatMap Call.events)).foldl Tally.increment
        state.telemetry.tally
  | [], _ => rfl
  | step :: steps, state => by
    have hcall : ((state.call? step).toList ++ (state.step step).1.calls steps).flatMap
        Call.events = (state.call? step).elim [] Call.events ++
          ((state.step step).1.calls steps).flatMap Call.events := by
      cases state.call? step with
      | none => rfl
      | some call => rfl
    change (run (state.step step).1 steps).1.telemetry.tally = _
    rw [tally_run steps, tally_step, calls, hcall, outcomesOf_append, List.foldl_append]

/-! ### What a signing leaves as it is -/

/-- Moving a clock changes of a signer only the clock that is its own. -/
theorem map_signers_moveClock {α : Type} (part : Enrolled → α)
    (hpart : ∀ signer clock clock', part ⟨signer, .own clock⟩ = part ⟨signer, .own clock'⟩)
    (place : Nat) (clock : Clock) :
    (state.moveClock place clock).signers.map part = state.signers.map part := by
  rw [moveClock]
  split
  · rfl
  · rename_i signer own hfound
    refine List.ext_getElem? fun i => ?_
    rw [List.getElem?_map, List.getElem?_map, List.getElem?_set]
    split
    · rename_i hi
      rw [← hi, hfound, if_pos (List.getElem?_eq_some_iff.mp hfound).1]
      exact congrArg some (hpart signer clock own)
    · rfl
  · rfl

/-- What stays as it is when something is signed: settings, levels and loggers, the current signer
and the hooks, and all signers, but for how far a clock has been read. -/
structure Keeps (before after : State) : Prop where
  settings : after.settings = before.settings
  lostRecord : after.lostRecord = before.lostRecord
  levels : after.telemetry.levels = before.telemetry.levels
  loggers : after.loggers = before.loggers
  current : after.current = before.current
  mappedHook : after.mappedHook = before.mappedHook
  listedHook : after.listedHook = before.listedHook
  signers : after.signers.map (·.signer) = before.signers.map (·.signer)
  /-- A signer that shares the session's clock goes on to share it. -/
  shared : after.signers.map (·.time.isShared) = before.signers.map (·.time.isShared)

theorem Keeps.refl (state : State) : state.Keeps state :=
  ⟨rfl, rfl, rfl, rfl, rfl, rfl, rfl, rfl, rfl⟩

theorem keeps_moveClock (place : Nat) (clock : Clock) :
    state.Keeps (state.moveClock place clock) := by
  have hsigners := map_signers_moveClock state (fun enrolled => enrolled.signer)
    (fun _ _ _ => rfl) place clock
  have hshared := map_signers_moveClock state (fun enrolled => enrolled.time.isShared)
    (fun _ _ _ => rfl) place clock
  rw [moveClock] at hsigners hshared ⊢
  split
  · exact ⟨rfl, rfl, rfl, rfl, rfl, rfl, rfl, rfl, rfl⟩
  · rename_i hfound
    rw [hfound] at hsigners hshared
    exact ⟨rfl, rfl, rfl, rfl, rfl, rfl, rfl, hsigners, hshared⟩
  · exact .refl state

theorem keeps_signing (place : Nat) (clock : Clock) (events : List Event) (headers : Headers) :
    state.Keeps
      { ((state.moveClock place clock).absorb events).1 with headers := headers } := by
  have hmoved := keeps_moveClock state place clock
  have hlevels : ((state.moveClock place clock).absorb events).1.telemetry.levels =
      state.telemetry.levels := by
    rw [telemetry_absorb_moveClock]
  exact ⟨hmoved.settings, hmoved.lostRecord, hlevels, hmoved.loggers, hmoved.current,
    hmoved.mappedHook, hmoved.listedHook, hmoved.signers, hmoved.shared⟩

theorem Effect.keeps {state after : State} {step : Step} (h : state.Effect step after)
    (hstep : step.Signs) : state.Keeps after := by
  cases h with
  | idle => exact .refl state
  | signs => exact keeps_signing ..
  | @hookWithoutSecret kind => cases kind <;> exact hstep.elim
  | @hookOfGiven kind => cases kind <;> exact hstep.elim
  | @hookOfDefault kind => cases kind <;> exact hstep.elim
  | _ => exact hstep.elim

theorem keeps_step {step : Step} (hstep : step.Signs) : state.Keeps (state.step step).1 :=
  (effect_step state step).keeps hstep

/-! ### What others find after something was set up -/

/-- A session that has come further without touching what was there: the clock stands where it
stood, all signers are what they were, at their places, and nothing was counted. -/
structure Extends (before after : State) : Prop where
  clock : after.clock = before.clock
  signers : before.signers <+: after.signers
  tally : after.telemetry.tally = before.telemetry.tally

namespace Extends

variable {before middle after : State}

theorem refl (state : State) : state.Extends state :=
  ⟨rfl, List.prefix_refl _, rfl⟩

theorem trans (h : before.Extends middle) (h' : middle.Extends after) : before.Extends after :=
  ⟨h'.clock.trans h.clock, h.signers.trans h'.signers, h'.tally.trans h.tally⟩

end Extends

theorem Effect.extends {state after : State} {step : Step} (h : state.Effect step after)
    (hstep : step.SetsUp) : state.Extends after := by
  cases h with
  | makeSigner => exact ⟨rfl, List.prefix_append _ _, rfl⟩
  | signerFromSettings => exact ⟨rfl, List.prefix_append _ _, rfl⟩
  | change => exact hstep.elim
  | setClock => exact hstep.elim
  | readTime => exact hstep.elim
  | signs hsigns =>
    cases step with
    | sign => exact hstep.elim
    | apply => exact hstep.elim
    | callMapped => exact hstep.elim
    | callListed => exact hstep.elim
    | _ => exact hsigns.elim
  | @hookOfGiven kind => cases kind <;> exact ⟨rfl, List.prefix_refl _, rfl⟩
  | @hookOfDefault kind => cases kind <;> exact ⟨rfl, List.prefix_append _ _, rfl⟩
  | _ => exact ⟨rfl, List.prefix_refl _, rfl⟩

/-- Whatever is set up, what was there before stays. -/
theorem extends_run : ∀ {steps : List Step} (state : State), (∀ step ∈ steps, step.SetsUp) →
    state.Extends (run state steps).1
  | [], state, _ => .refl state
  | step :: steps, state, h => by
    obtain ⟨hstep, hsteps⟩ := List.forall_mem_cons.mp h
    exact ((effect_step state step).extends hstep).trans (extends_run _ hsteps)

end State

end Session

end SignedHttp
