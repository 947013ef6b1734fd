import SignedHttp.Attribute
import SignedHttp.Calendar
import SignedHttp.Log.Level
import SignedHttp.Log.Template

/-!
# Log records and their lines

A record is written as one line of JSON: the instant, the level's name, the logger,
the message, and those of seven extra fields that it carries, always in the same
order. The instant must have a date, and numbers must be short enough to be written.

A draft is a record that is still to be made. Its level is named first; then it takes its
extra fields one after the other, and those that it has for itself are replaced by extra ones
of the same names: `name` for the logger, `levelname` for the level's name, and `msg` and `args`
for the parts of the message. All of them together can be replaced too, and then it may
lack some.

Key definitions: `Record`, `Record.line`, `Draft`, `Draft.message`, `Draft.line`.
-/

namespace SignedHttp.Log

def writtenFields : List String :=
  ["method", "url", "path", "timestamp", "prefix", "result", "error"]

/-- The value of a field. Of two fields of one name the later counts. -/
def field? (name : String) (fields : List (String × Json)) : Option Json :=
  fields.reverse.lookup name

/-- The line of what a record shows, if all its numbers are short enough to write. -/
def lineOf (moment : Moment) (level logger : Json) (message : List Nat)
    (fields : List (String × Json)) : Except Fault String :=
  let json := Json.object ([("ts", .string moment.text), ("level", level), ("logger", logger),
    ("message", .ofPoints message)] ++
      writtenFields.filterMap fun name => (field? name fields).map (name, ·))
  if json.holdsLongNumeral then .error .longNumeral else .ok json.render

/-- What is logged: by which logger, at which level, and with which extra fields. The
message is given by its code points. -/
structure Record where
  logger : String
  level : Int
  message : List Nat
  fields : List (String × Json)
deriving Repr

def Record.line (record : Record) (instant : Int) : Except Fault String := do
  let level ← levelLabel (.number record.level)
  let moment ← (Moment.reach instant).mapError .unreachableInstant
  lineOf moment level (.string record.logger) record.message record.fields

/-- A record that is still to be made. -/
structure Draft where
  logger : Json
  level : Json
  template : Json
  arguments : List Json
  fields : List (String × Json)
deriving Repr

/-- The fields that a record is given besides those it has for itself. -/
structure GivenFields where
  /-- Whether the record still has its own. -/
  hasOwn : Bool
  fields : List (String × Json)
deriving Repr

namespace GivenFields

def className : String := "LogRecord"

def none : GivenFields := ⟨true, []⟩

def add (given : GivenFields) (field : String × Json) : Except Fault GivenFields :=
  match WholeName.ofName? field.1 with
  | .none => .ok { given with fields := given.fields ++ [field] }
  | some whole =>
    ((⟨false, ·⟩) <$> whole.assign className (.json field.2)).mapError .wrongPart

/-- The value of a field that the record has for itself unless it is given. -/
def get (given : GivenFields) (name : String) (own : Json) : Except Fault Json :=
  match field? name given.fields with
  | some value => .ok value
  | .none =>
    if given.hasOwn then .ok own else .error (.wrongPart (.lost className name))

end GivenFields

namespace Draft

variable (draft : Draft)

/-- The field that stands in the way of putting a message together. -/
def obstacle : String := "getMessage"

def argumentsWith (given : GivenFields) : Except Fault Arguments :=
  match field? "args" given.fields with
  | some value => .ok (.single value)
  | none => (fun _ => .ofList draft.arguments) <$> given.get "args" .null

def message (given : GivenFields) : Except Fault (List Nat) :=
  match field? obstacle given.fields with
  | some value => .error (.notAnOperation value.kind)
  | none => do
    let text ← (← given.get "msg" draft.template).shown
    fill text (← draft.argumentsWith given)

def line (instant : Int) : Except Fault String := do
  let level ← levelLabel draft.level
  let given ← draft.fields.foldlM GivenFields.add GivenFields.none
  let moment ← (Moment.reach instant).mapError .unreachableInstant
  let level ← given.get "levelname" level
  let logger ← given.get "name" draft.logger
  let message ← draft.message given
  lineOf moment level logger message given.fields

end Draft

end SignedHttp.Log
