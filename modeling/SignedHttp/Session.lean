import SignedHttp.Session.Step

/-!
# Sessions

A session goes from state to state by steps; each step gives an answer and the lines
that it logged. A failing step leaves signers and hooks as they were, but what it read
from a clock stays read, what it counted stays counted, and fields that it added to the
headers stay there. Making a hook first configures logging by the settings, and that holds
even if there is no secret for it.

Key definitions: `State.step`, `run`.
-/

namespace SignedHttp.Session

namespace State

variable (state : State)

def quiet (reply : Reply) : State × Reply × List Line :=
  (state, reply, [])

/-- What a step does with the current signer; without one it fails, saying what the
signer was to be used for. -/
def withCurrent (use : String) (act : Nat → Enrolled → State × Reply × List Line) :
    State × Reply × List Line :=
  match state.current? with
  | some (place, enrolled) => act place enrolled
  | none => state.quiet (.failed (.noSigner use))

def failedWith (fault : Fault) (lines : List Line) : State × Reply × List Line :=
  (state, .failedWith fault (some state.headers), lines)

/-- The state after a signer was made, which is the current one from then on. -/
def install (signer : Signer) (clock : Clock) : State :=
  let (state, place) := state.enroll ⟨signer, .own clock⟩
  { state with current := some place }

/-- Makes a signer from the session's settings or from settings of arguments alone. -/
def installFromSettings (arguments : Option (List (Json × Json))) (clock : Clock) :
    State × Reply × List Line :=
  let settings := match arguments with
    | none => .ok state.settings
    | some arguments => Sources.argumentsOf arguments >>= Sources.resolveAlone
  match settings >>= Signer.ofSettings with
  | .error fault => state.quiet (.failed fault)
  | .ok signer => (state.install signer clock).quiet (.signer signer)

/-- Names of parts that nothing at all has too. -/
def partsOfNothing : List String :=
  ["__bool__", "__delattr__", "__dir__", "__doc__", "__eq__", "__format__", "__ge__",
    "__getattribute__", "__getstate__", "__gt__", "__hash__", "__init__", "__init_subclass__",
    "__le__", "__lt__", "__ne__", "__new__", "__reduce__", "__reduce_ex__", "__repr__",
    "__setattr__", "__sizeof__", "__str__", "__subclasshook__"]

/-- Why no part of this name can be changed while there is no signer. -/
def refusalOfNothing (name : String) (value : Payload) : Fault :=
  if name = WholeName.kind.name then .wrongPart (.notAClass value.fullKind)
  else if partsOfNothing.contains name then .wrongPart (.readOnly name)
  else .noSigner name

/-- The signer after a value was put in the place of what a name stands for. -/
def changed (enrolled : Enrolled) (name : String) (value : Payload) : Except Fault Enrolled :=
  match WholeName.ofName? name with
  | none => .ok (enrolled.set value (.ofName name))
  | some whole =>
    enrolled.rebuild <$> (whole.assign Signer.className value).mapError .wrongPart

/-- Puts a value in the place of a part of the current signer. -/
def changeStep (name : Json) (value : Payload) : State × Reply × List Line :=
  match name with
  | .string name =>
    match state.current? with
    | none => state.quiet (.failed (refusalOfNothing name value))
    | some (place, enrolled) =>
      match changed enrolled name value with
      | .error fault => state.quiet (.failed fault)
      | .ok enrolled => quiet { state with signers := state.signers.set place enrolled } .done
  | name => state.quiet (.failed (.wrongPart (.nameNotText name.kind)))

/-- Signs with the current signer. The answer shows the fields, which must be able to have
their names. -/
def signStep (url : Json) (body : Payload) (time : Json) :
    State × Reply × List Line :=
  state.withCurrent "sign" fun place enrolled =>
    let run := enrolled.signer.sign (state.clockOf enrolled) url body time
    let (after, lines) := state.settle place run
    match run.result >>= fun signed => (fun _ => signed) <$> signed.fields with
    | .error fault => (after, .failed fault, lines)
    | .ok signed => (after, .signed signed, lines)

def applyStep (url : Json) (body : Payload) : State × Reply × List Line :=
  match state.current? with
  | none => state.failedWith (.noSigner "apply") []
  | some (place, enrolled) =>
    let (run, headers) :=
      enrolled.signer.apply (state.clockOf enrolled) (some state.headers) url body
    let (after, lines) := state.settle place run
    let after := { after with headers := headers.getD state.headers }
    match run.result with
    | .error fault => after.failedWith fault lines
    | .ok signed => (after, .applied signed after.headers, lines)

def setHeadersStep (rule : NameRule) (items : List Entry) : State × Reply × List Line :=
  match Headers.ofAssignments rule items with
  | .error fault => state.quiet (.failed fault)
  | .ok headers => quiet { state with headers := headers } (.headers headers)

def appendStep (name : Payload) (value : Json) : State × Reply × List Line :=
  match state.headers.append name value with
  | .error fault => state.quiet (.failed fault)
  | .ok headers => quiet { state with headers := headers } (.headers headers)

def commonParts : List String :=
  ["__class_vars__", "__private_attributes__", "__signature__", "__pydantic_complete__",
    "__pydantic_computed_fields__", "__pydantic_core_schema__", "__pydantic_custom_init__",
    "__pydantic_decorators__", "__pydantic_extra_info__", "__pydantic_fields__",
    "__pydantic_generic_metadata__", "__pydantic_parent_namespace__", "__pydantic_post_init__",
    "__pydantic_root_model__", "__pydantic_serializer__", "__pydantic_setattr_handlers__",
    "__pydantic_validator__"]

/-- Names of parts that settings work out. -/
def computedParts : List String :=
  ["model_extra", "model_fields_set", "__fields__", "__fields_set__"]

/-- The name of the part that records which settings were given. -/
def recordName : String := "__pydantic_fields_set__"

/-- Whether a name is one for private use, which settings may be given without having it. -/
def isPrivate (name : String) : Bool :=
  name.toList.head? = some '_' && name != "__root__"

/-- Why settings that have no part of this name cannot be given it, if they cannot. -/
def refusalOfPart (name : String) (value : Json) : Except Fault Unit :=
  if commonParts.contains name then .error (.wrongPart (.common name))
  else if computedParts.contains name then .error (.wrongPart (.computed name))
  else match WholeName.ofName? name with
    | some whole =>
      (whole.assign "BaseSettings" (.json value)).mapError .wrongPart >>= fun _ =>
        .error (.wrongPart (.lost "Settings" Setting.secret.name))
    | none => if isPrivate name then .ok () else .error (.noSetting name)

def withSetting (setting : Setting) (value : Json) : State :=
  { state with settings := state.settings.set setting value }

/-- The state with a value in the place of a part of the settings that is no setting. -/
def withPart (name : String) (value : Json) : State :=
  if name = recordName then { state with lostRecord := some value.kind } else state

def showSettings : State × Reply × List Line :=
  match state.settings.hasSecret with
  | .error fault => state.quiet (.failed fault)
  | .ok hasSecret => state.quiet (.settings state.settings hasSecret)

/-- Changes one of the session's settings. A setting is recorded as given after it has changed,
and whether there is a secret is asked last. -/
def setSettingStep (name value : Json) : State × Reply × List Line :=
  match name with
  | .string name =>
    match Setting.ofName? name with
    | some setting =>
      let after := state.withSetting setting value
      match state.lostRecord with
      | some kind => after.quiet (.failed (.wrongPart (.lost kind "add")))
      | none => after.showSettings
    | none =>
      match refusalOfPart name value with
      | .error fault => state.quiet (.failed fault)
      | .ok () => (state.withPart name value).showSettings
  | name => state.quiet (.failed (.wrongPart (.nameNotText name.kind)))

def readTimeStep : State × Reply × List Line :=
  state.withCurrent "now_ms" fun place enrolled =>
    let (time, clock) := enrolled.signer.readTime (state.clockOf enrolled)
    let after := state.moveClock place clock
    match time >>= Log.numeral with
    | .error fault => after.quiet (.failed fault)
    | .ok text => after.quiet (.time text)

/-- Names that extra fields of a record must not have. -/
def reservedFields : List String :=
  ["message", "asctime", "name", "msg", "args", "levelname", "levelno", "pathname", "filename",
    "module", "exc_info", "exc_text", "stack_info", "lineno", "funcName", "created", "msecs",
    "relativeCreated", "thread", "threadName", "processName", "process"]

def rootName : String := "root"

/-- The name of a draft's logger; it is missing for the root logger, which has several. -/
def loggerOf (draft : Log.Draft) : Except Fault (Option String) :=
  match draft.logger with
  | .string name => .ok (if name.isEmpty || name = rootName then none else some name)
  | name => if name.isEmpty then .ok none else .error .loggerNotText

/-- Logs a draft by an existing logger. At a level that the logger does not let through nothing
is looked at; otherwise the level must have a name and the extra fields names of their own. A
draft that cannot be put together is dropped, and so is one of a logger that does not belong to
the package. -/
def logBy (logger : Option String) (level : Int) (draft : Log.Draft) :
    State × Reply × List Line :=
  let belongs := logger.any (Log.Logger.belongs state.loggers)
  let enabled :=
    if belongs then state.telemetry.levels.enabled level
    else .ofNat Log.Levels.rootLevel ≤ level
  if !enabled then state.quiet .done
  else match Log.levelLabel draft.level with
    | .error fault => state.quiet (.failed fault)
    | .ok _ =>
      match draft.fields.find? fun (name, _) => reservedFields.contains name with
      | some (name, _) => state.quiet (.failed (.reservedField name))
      | none =>
        match belongs, draft.message ⟨true, draft.fields⟩ with
        | true, .ok message =>
          let record : Log.Record := ⟨logger.getD rootName, level, message, draft.fields⟩
          (state, .done, state.telemetry.write record)
        | _, _ => state.quiet .done

/-- Logs a draft. The logger exists from then on, and the level must be a number. -/
def logStep (draft : Log.Draft) : State × Reply × List Line :=
  match loggerOf draft with
  | .error fault => state.quiet (.failed fault)
  | .ok logger =>
    let state := { state with loggers := logger.toList ++ state.loggers }
    match draft.level.toInt? with
    | none => state.quiet (.failed .levelNotInteger)
    | some level => state.logBy logger level draft

def configured (levels : Log.Levels) : State :=
  { state with telemetry := { state.telemetry with levels := levels } }

/-- Makes a hook: logging is configured, then the signer is found or made, then the API
key is chosen. -/
def placeHook (request : HookRequest) (keep : State → PlacedHook → State) :
    State × Reply × List Line :=
  match Log.Levels.configure (.json state.settings.logLevel) with
  | .error fault => state.quiet (.failed fault)
  | .ok levels =>
    let state := state.configured levels
    let found := if request.useCurrent then state.current else none
    let placed : Except Fault (State × Nat) := match found with
      | some place => .ok (state, place)
      | none =>
        (fun signer => state.enroll ⟨signer, .shared⟩) <$> Signer.ofSettings state.settings
    match placed with
    | .error fault => state.quiet (.failed fault)
    | .ok (after, place) =>
      let apiKey := match request.apiKey with
        | .null => state.settings.apiKey
        | key => key
      (keep after ⟨place, apiKey⟩).quiet (.hook apiKey levels)

def hookAt? (hook : Option PlacedHook) : Option (Nat × Enrolled × Hook) := do
  let hook ← hook
  let enrolled ← state.signers[hook.place]?
  return (hook.place, enrolled, ⟨enrolled.signer, hook.apiKey⟩)

def callMappedStep (call : MappedCall) : State × Reply × List Line :=
  match state.hookAt? state.mappedHook with
  | none => state.quiet (.failed .noHook)
  | some (place, enrolled, hook) =>
    match call.fields.mapM (Headers.ofAssignments .caseless) with
    | .error fault => state.quiet (.failedWith fault none)
    | .ok headers =>
      let (run, after) :=
        hook.attachMapped (state.clockOf enrolled) ⟨call.method, call.url, headers, call.body⟩
      let (state, lines) := state.settle place run
      match run.result with
      | .error fault => (state, .failedWith fault after.headers, lines)
      | .ok sent => (state, .mapped sent.headers, lines)

def callListedStep (call : ListedCall) : State × Reply × List Line :=
  match state.hookAt? state.listedHook with
  | none => state.quiet (.failed .noHook)
  | some (place, enrolled, hook) =>
    match ListedRequest.make call.method call.address call.fields call.content with
    | .error fault => state.quiet (.failed fault)
    | .ok request =>
      let (run, _) := hook.passListed (state.clockOf enrolled) request call.isRead
      let (state, lines) := state.settle place run
      match run.result with
      | .error fault => (state, .failed fault, lines)
      | .ok sent => (state, .listed sent.url.text sent.fields, lines)

/-- One step: the state after it, the answer, and the lines that it logged. -/
def step : Step → State × Reply × List Line
  | .makeSigner secret base timestampHeader signHeader clock =>
    match Signer.make secret base timestampHeader signHeader with
    | .error fault => state.quiet (.failed fault)
    | .ok signer => (state.install signer clock).quiet .done
  | .signerFromSettings arguments clock => state.installFromSettings arguments clock
  | .change name value => state.changeStep name value
  | .setClock clock =>
    state.withCurrent "clock" fun place enrolled =>
      quiet { state with signers := state.signers.set place (enrolled.setClock clock) } .done
  | .setSetting name value => state.setSettingStep name value
  | .setInstant instant =>
    quiet { state with telemetry := { state.telemetry with instant := instant } } .done
  | .sign url body time => state.signStep url body time
  | .setHeaders rule items => state.setHeadersStep rule items
  | .append name value => state.appendStep name value
  | .apply url body => state.applyStep url body
  | .readTime => state.readTimeStep
  | .matchBase url =>
    state.withCurrent "prefix_matches" fun _ enrolled =>
      match enrolled.signer.matchesBase url with
      | .error fault => state.quiet (.failed fault)
      | .ok doesMatch => state.quiet (.matched doesMatch)
  | .configure level =>
    match Log.Levels.configure level with
    | .error fault => state.quiet (.failed fault)
    | .ok levels => (state.configured levels).quiet (.levels levels)
  | .showLevels => state.quiet (.levels state.telemetry.levels)
  | .log draft => state.logStep draft
  | .showMetrics => state.quiet (.metrics state.telemetry.tally.exposition)
  | .makeMappedHook request =>
    state.placeHook request fun state hook => { state with mappedHook := some hook }
  | .callMapped call => state.callMappedStep call
  | .makeListedHook request =>
    state.placeHook request fun state hook => { state with listedHook := some hook }
  | .callListed call => state.callListedStep call

end State

/-- The state after the steps, and the answer and lines of each. -/
def run : State → List Step → State × List (Reply × List Line)
  | state, [] => (state, [])
  | state, step :: steps =>
    let (after, answer) := state.step step
    let (final, answers) := run after steps
    (final, answer :: answers)

end SignedHttp.Session
