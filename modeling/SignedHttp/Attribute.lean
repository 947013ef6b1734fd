import SignedHttp.Payload

/-!
# Parts reached by name

The parts of an object can be given new values by name. Three names stand for the object as a
whole: its class, which must stay a class, the mapping of all its parts, which can be exchanged
for another mapping, and those that watch it, who are not to be changed.

Key definitions: `AttributeDefect`, `WholeName`, `WholeName.assign`.
-/

namespace SignedHttp

/-- Why a part of an object cannot be read or changed. -/
inductive AttributeDefect where
  | nameNotText (kind : String)
  | notAClass (kind : String)
  | notAMapping (kind : String)
  /-- The part is kept by the class of that name. -/
  | notWritable (name owner : String)
  /-- The object has lost the part. -/
  | lost (owner name : String)
  /-- Nothing at all has a part of this name, and it cannot be changed. -/
  | readOnly (name : String)
  /-- Settings work the part out, so that it cannot be changed. -/
  | computed (name : String)
  | common (name : String)
deriving DecidableEq, Repr

def AttributeDefect.message : AttributeDefect → String
  | .nameNotText kind => "attribute name must be string, not '" ++ kind ++ "'"
  | .notAClass kind => "__class__ must be set to a class, not '" ++ kind ++ "' object"
  | .notAMapping kind => "__dict__ must be set to a dictionary, not a '" ++ kind ++ "'"
  | .notWritable name owner =>
    "attribute '" ++ name ++ "' of '" ++ owner ++ "' objects is not writable"
  | .lost owner name => "'" ++ owner ++ "' object has no attribute '" ++ name ++ "'"
  | .readOnly name => "'NoneType' object attribute '" ++ name ++ "' is read-only"
  | .computed name => "property '" ++ name ++ "' of 'Settings' object has no setter"
  | .common name =>
    "'" ++ name ++ "' is a ClassVar of `Settings` and cannot be set on an instance. " ++
      "If you want to set a value on the class, use `Settings." ++ name ++ " = value`."

/-- A name that stands for an object as a whole. -/
inductive WholeName where
  | kind
  /-- The mapping of all parts. -/
  | parts
  /-- Those that watch the object. -/
  | watchers
deriving DecidableEq, Repr

namespace WholeName

def all : List WholeName :=
  [.kind, .parts, .watchers]

def name : WholeName → String
  | .kind => "__class__"
  | .parts => "__dict__"
  | .watchers => "__weakref__"

def ofName? (name : String) : Option WholeName :=
  all.find? (·.name = name)

/-- The parts of an object of the class after the assignment of a value. -/
def assign (owner : String) (value : Payload) :
    WholeName → Except AttributeDefect (List (String × Json))
  | .kind => .error (.notAClass value.fullKind)
  | .parts =>
    match value with
    | .json (.object members) => .ok members
    | value => .error (.notAMapping value.fullKind)
  | .watchers => .error (.notWritable WholeName.watchers.name owner)

end WholeName

end SignedHttp
