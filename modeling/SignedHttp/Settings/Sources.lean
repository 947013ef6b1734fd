import SignedHttp.Settings
import SignedHttp.Settings.Command
import SignedHttp.Settings.File
import SignedHttp.Settings.Options

/-!
# Where settings come from

A setting is taken from the command line, if the arguments bring one, else from the
arguments, else from the environment, else from the settings file, else it has its default.
Names are compared by their lower case; an argument can ask for more in the environment and in
the file. Of several equal names the last counts there; among the arguments the spelling that
comes first counts, with the value that it was given last. An empty value is a value. A setting
must be a text, or may be null where it may be missing; the file and the arguments must not
name what is no setting, while the environment may hold anything.

The name of a variable must not be empty or hold an equals sign, and neither it nor the value
may hold a null character.

Key definitions: `Sources`, `Sources.ofAssignments`, `Sources.lookup`,
`Sources.unknownNames`, `Sources.prepared`, `Sources.resolve`, `Sources.resolveAlone`.
-/

namespace SignedHttp

/-- What settings are made from: the assignments to environment variables in their
order, the text of the settings file, the arguments, what a command line among them gives, and
how the file is read. -/
structure Sources where
  environment : List (String × String)
  file : Option String
  arguments : List (String × Json)
  command : List (Setting × Json)
  reader : Settings.File.Reader := .paired
deriving Repr

/-- The value under the last name that is equal to `name` when it is folded. -/
def lastNamed {α : Type} (fold : String → String) (name : String) (pairs : List (String × α)) :
    Option α :=
  (pairs.reverse.find? fun (key, _) => fold key = name).map Prod.snd

/-- The value under the first name whose lower case is `name`: of several values under that
one spelling, the last. -/
def firstNamed {α : Type} (name : String) (pairs : List (String × α)) : Option α := do
  let (key, _) ← pairs.find? fun (key, _) => Text.lower key = name
  pairs.reverse.lookup key

/-- The pairs whose names are not given another value later. -/
def lastAssigned {α : Type} : List (String × α) → List (String × α)
  | [] => []
  | (name, value) :: rest =>
    if rest.any (·.1 = name) then lastAssigned rest else (name, value) :: lastAssigned rest

namespace Sources

open Settings (Command Options)

def empty : Sources := ⟨[], none, [], [], .paired⟩

/-! ### Sources of any values -/

def variableText : Json → Except SourceDefect String
  | .string s => .ok s
  | .points s => .error (.surrogates s.refusal)
  | value => .error (.variableNotText value.kind)

def hasNull (s : String) : Bool :=
  s.toList.contains '\x00'

def bindingOf (assignment : Json × Json) : Except SourceDefect (String × String) := do
  let name ← variableText assignment.1
  let value ← variableText assignment.2
  if hasNull name || hasNull value then throw .nullCharacter
  if name.toList.contains '=' then throw .equalsInName
  if name.isEmpty then throw .emptyName
  return (name, value)

def argumentOf (assignment : Json × Json) : Except SourceDefect (String × Json) :=
  match assignment.1 with
  | .string name => .ok (name, assignment.2)
  | .points name => .error (.surrogates name.refusal)
  | _ => .error .argumentNotText

def argumentsOf (assignments : List (Json × Json)) : Except Fault (List (String × Json)) :=
  (assignments.mapM argumentOf).mapError .unusableSource

def ofAssignments (environment : List (Json × Json)) (file : Option String)
    (arguments : List (Json × Json)) (reader : Settings.File.Reader := .paired) :
    Except Fault Sources := do
  let environment ← (environment.mapM bindingOf).mapError .unusableSource
  return ⟨environment, file, ← argumentsOf arguments, [], reader⟩

/-! ### Looking up settings -/

variable (sources : Sources)

/-- The value of an environment variable, by its exact name. -/
def environmentValue? (name : String) : Option String :=
  sources.environment.reverse.lookup name

def fileTable (options : Options) : Settings.File.Table :=
  match sources.file with
  | none => []
  | some text =>
    if options.readsFile then
      (Settings.File.values sources.reader sources.environmentValue? text).filter fun (_, value) =>
        value.all options.counts
    else []

def environmentTable (options : Options) : List (String × String) :=
  (lastAssigned sources.environment).filter fun (_, value) => options.counts value

/-- The value of a setting, from the first source that has one. -/
def lookup (options : Options) (setting : Setting) : Json :=
  match sources.command.reverse.lookup setting <|>
    firstNamed setting.name sources.arguments with
  | some given => given
  | none =>
    let name := options.variableName setting.name
    match lastNamed options.fold name (sources.environmentTable options) with
    | some s => options.read s
    | none =>
      match lastNamed options.fold name (sources.fileTable options) with
      | some (some s) => options.read s
      | _ => setting.default

def fits (setting : Setting) : Json → Bool
  | .string _ => true
  | .points _ => true
  | .null => setting.mayBeNull
  | _ => false

/-- Whether a name in the file is a setting's, or is let pass for looking like one. -/
def isFileName (options : Options) (name : String) : Bool :=
  Setting.all.any fun setting =>
    name = options.variableName setting.name || (options.opening != some "" && name = setting.name)

/-- Names of the file that have a value and are no setting's, as they are compared. -/
def unknownFileNames (options : Options) : List String :=
  let table := sources.fileTable options
  let names := (table.map fun (name, _) => options.fold name).eraseDups
  names.filter fun name =>
    !isFileName options name &&
      match lastNamed options.fold name table with
      | some (some s) => !s.isEmpty
      | _ => false

def unknownArguments : List String :=
  (sources.arguments.map Prod.fst).filter fun name =>
    !Options.isOption name && !Setting.all.any fun setting => Text.lower name = setting.name

def unknownNames (options : Options) : List String :=
  (sources.unknownFileNames options ++ sources.unknownArguments).eraseDups

/-- What is wrong: values that do not fit, in the order of the settings, then unknown
names. -/
def defects (options : Options) : List SettingDefect :=
  (Setting.all.filter fun setting => !fits setting (sources.lookup options setting)).map
      (fun setting => .notText setting.name) ++
    (sources.unknownNames options).map .unknown

/-- How the sources are read, and the sources with what their file and their command line are
read as. -/
def prepared : Except SourceDefect (Options × Sources) := do
  let options ← Options.ofArguments sources.arguments
  let file ← sources.file.mapM options.reread
  let command ← Command.bindings sources.arguments
  if options.isOpened && options.opening.isNone then throw (.unnamedVariable Setting.secret.name)
  Options.checkSecrets sources.arguments sources.file.isSome
  return (options, { sources with file := file, command := command })

/-- The settings that the sources give when they are read by themselves. -/
def read : Except Fault Settings := do
  let (options, sources) ← sources.prepared.mapError .unusableSource
  match sources.defects options with
  | [] => return .ofFunction fun setting => sources.lookup options setting
  | defects => throw (.invalidSettings defects)

/-- The settings that the sources give. Without any source all have their defaults. -/
def resolve : Except Fault Settings :=
  if sources.arguments.any (·.1 = Options.ownName) then
    .error (.unusableSource (.ownName Options.ownName))
  else match Options.value? sources.arguments Options.readyArgument with
    | none => sources.read
    | some ready =>
      (fun () => .ofFunction Setting.default) <$>
        (Options.checkReady ready).mapError .unusableSource

/-- The settings that arguments alone give. They must not say which file to read. -/
def resolveAlone (arguments : List (String × Json)) : Except Fault Settings :=
  if arguments.any (·.1 = Options.fileArgument) then
    .error (.unusableSource (.saidTwice Options.fileArgument))
  else resolve { Sources.empty with arguments := (Options.fileArgument, .null) :: arguments }

end Sources

end SignedHttp
