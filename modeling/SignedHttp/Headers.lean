import SignedHttp.Log.Value
import SignedHttp.Payload
import SignedHttp.Text.Case

/-!
# Header mappings

A mapping from field names to values, in order. It finds a name either as it is
spelled or by its lower case; an assignment keeps the place of the name it finds and
takes the new value, and with lower case the new spelling too. A mapping cannot repeat a
field, so a value added under a name that is there, in whatever letter case, is folded into
the value of the first such field, behind a comma.

Names and values are texts as a rule, and such a mapping is `named`. With anything else in
it a mapping is `mixed`: then a name has a lower case only if it is a text or bytes, a name
without can be compared with no other, and what may still change is no name.

Key definitions: `Headers`, `Headers.ofPairs`, `Headers.ofAssignments`, `Headers.append`,
`Headers.appendAll`, `Headers.addAll`.
-/

namespace SignedHttp

/-- How a mapping finds a name. -/
inductive NameRule where
  /-- As it is spelled. -/
  | exact
  /-- By its lower case. -/
  | caseless
deriving DecidableEq, Repr

def NameRule.same : NameRule → String → String → Bool
  | .exact, a, b => a = b
  | .caseless, a, b => Text.sameName a b

abbrev Field := String × String

abbrev Entry := Payload × Json

/-- An ordered mapping from field names to values. -/
inductive Headers where
  | named (rule : NameRule) (fields : List Field)
  /-- A mapping that does not hold texts alone. -/
  | mixed (rule : NameRule) (entries : List Entry)
deriving Repr

namespace Headers

def assignIn (rule : NameRule) (name value : String) : List Field → List Field
  | [] => [(name, value)]
  | (key, old) :: rest =>
    if rule.same key name then (name, value) :: rest
    else (key, old) :: assignIn rule name value rest

/-- The fields after folding a value into the first of the name, or adding it at the end. -/
def foldIn (name value : String) : List Field → List Field
  | [] => [(name, value)]
  | (key, old) :: rest =>
    if Text.sameName key name then (key, old ++ ", " ++ value) :: rest
    else (key, old) :: foldIn name value rest

def empty (rule : NameRule) : Headers :=
  .named rule []

def ofPairs (rule : NameRule) (pairs : List Field) : Headers :=
  .named rule (pairs.foldl (fun entries (name, value) => assignIn rule name value entries) [])

def rule : Headers → NameRule
  | .named rule _ => rule
  | .mixed rule _ => rule

def entryOf (field : Field) : Entry :=
  (.text field.1, .string field.2)

def entries : Headers → List Entry
  | .named _ fields => fields.map entryOf
  | .mixed _ entries => entries

def field? : Entry → Option Field
  | (.text name, .string value) => some (name, value)
  | _ => none

def ofEntries (rule : NameRule) (entries : List Entry) : Headers :=
  match entries.mapM field? with
  | some fields => .named rule fields
  | none => .mixed rule entries

/-! ### Names of any kind -/

def lowered : Payload → Except Fault Payload
  | .text name => .ok (.text (Text.lower name))
  | .json (.points name) => .ok (.json (.ofPoints (Text.lowerPoints [] name.codes)))
  | .bytes b =>
    .ok (.bytes (b.map fun byte => if 0x41 ≤ byte && byte ≤ 0x5A then byte + 32 else byte))
  | name => .error (.incomparableName name.fullKind)

def sameLowered (a b : Payload) : Except Fault Bool := do
  return (← lowered a).isSame (← lowered b)

def checkName (rule : NameRule) (name : Payload) : Except Fault Unit :=
  match rule, lowered name with
  | .caseless, .error fault => .error fault
  | _, _ => if name.canBeKey then .ok () else .error (.unusableKey name.kind)

def separator : List Nat :=
  Text.points ", ".toList

def foldEntry (rule : NameRule) (name : Payload) (value : Json) :
    List Entry → Except Fault (List Entry)
  | [] => do
    checkName rule name
    return [(name, value)]
  | (key, old) :: rest => do
    if ← sameLowered key name then
      return (key, .ofPoints ((← old.shown) ++ separator ++ (← value.shown))) :: rest
    else return (key, old) :: (← foldEntry rule name value rest)

/-- The entries with the value assigned to a name that the mapping can hold. -/
def placeEntry (rule : NameRule) (name : Payload) (value : Json) : List Entry → List Entry
  | [] => [(name, value)]
  | (key, old) :: rest =>
    match rule, sameLowered key name with
    | .caseless, .ok true => (name, value) :: rest
    | .exact, _ =>
      if key.isSame name then (key, value) :: rest
      else (key, old) :: placeEntry rule name value rest
    | _, _ => (key, old) :: placeEntry rule name value rest

def assignEntry (rule : NameRule) (entries : List Entry) (entry : Entry) :
    Except Fault (List Entry) := do
  checkName rule entry.1
  return placeEntry rule entry.1 entry.2 entries

def ofAssignments (rule : NameRule) (assignments : List Entry) : Except Fault Headers :=
  match assignments.mapM field? with
  | some fields => .ok (ofPairs rule fields)
  | none => ofEntries rule <$> assignments.foldlM (assignEntry rule) []

/-! ### Adding fields -/

/-- Adds a field without discarding one of the same name. -/
def append (headers : Headers) (name : Payload) (value : Json) : Except Fault Headers :=
  match headers, name, value with
  | .named rule fields, .text name, .string value => .ok (.named rule (foldIn name value fields))
  | headers, name, value =>
    ofEntries headers.rule <$> foldEntry headers.rule name value headers.entries

/-- Adds the fields in order, up to the first that cannot be added: the mapping then, and
why not all were added. -/
def appendAll (headers : Headers) : List Entry → Headers × Option Fault
  | [] => (headers, none)
  | (name, value) :: rest =>
    match headers.append name value with
    | .ok headers => headers.appendAll rest
    | .error fault => (headers, some fault)

/-- Adds the fields in order to a mapping that may be missing; nothing but no field at all
can be added to a missing one. -/
def addAll (headers : Option Headers) (fields : List Entry) : Option Headers × Option Fault :=
  match headers, fields with
  | some headers, fields =>
    let (after, fault) := headers.appendAll fields
    (some after, fault)
  | none, [] => (none, none)
  | none, _ :: _ => (none, some .noHeaders)

end Headers

end SignedHttp
