import SignedHttp.Json
import SignedHttp.Settings.File.Encoding
import SignedHttp.Text.Case

/-!
# How sources of settings are read

Some arguments do not give a setting but say how the sources are read: whether letter case
counts in names, what the names of variables begin with, which file is the settings file and
in which encoding, whether empty values count, and which text stands for no value. A null
there leaves everything as it is, except that with a null for the file none is read. Others
have kept names and make no difference to settings of texts, or do so only if they are
refused; those about command lines belong to `Settings.Command`. One argument brings the
sources themselves: then nothing else is read, and as no value here is a source, there must be
none.

Key definitions: `Settings.Options`, `Settings.Options.ofArguments`,
`Settings.Options.isOption`, `Settings.Options.checkReady`.
Key theorems: `Settings.Options.ofArguments_eq_default`.
-/

namespace SignedHttp.Settings

structure Options where
  isCaseSensitive : Bool := false
  /-- What the names of variables begin with, if that is a text. -/
  opening : Option String := some "SIGNER_"
  /-- Whether the variables of settings have names that begin so. -/
  isOpened : Bool := true
  readsFile : Bool := true
  /-- The encoding of the file, if it is one. -/
  encoding : Except SourceDefect File.Encoding := .ok .utf8
  ignoresEmpty : Bool := false
  /-- The text that stands for no value. -/
  nullText : Option String := none

namespace Options

/-- The name by which the reader of sources calls itself, which no argument may have. -/
def ownName : String := "__pydantic_self__"

def fileArgument : String := "_env_file"

def secretsArgument : String := "_secrets_dir"

def readyArgument : String := "_build_sources"

def effective : List String :=
  ["_case_sensitive", "_env_prefix", "_env_prefix_target", fileArgument, "_env_file_encoding",
    "_env_ignore_empty", "_env_parse_none_str", "_env_nested_max_split"]

/-- The arguments that can be refused, and make no difference otherwise, or make none at all. -/
def refusable : List String :=
  [secretsArgument, readyArgument, "_nested_model_default_partial_update"]

/-- What the names of arguments begin with that are kept for saying how variables and the
settings file are read, or a command line. -/
def kept : List String :=
  ["_env_", "_cli_"]

def isOption (name : String) : Bool :=
  effective.contains name || refusable.contains name || kept.any fun s => s.isPrefixOf name

def fileName : String := ".env"

/-- Whether a path leads to the settings file in the working directory. -/
def leadsToFile (path : String) : Bool :=
  path.toList.head? != some '/' &&
    (path.splitOn "/").filter (fun part => !(part.isEmpty || part = ".")) = [fileName]

def paths : Json → Except SourceDefect (List String)
  | .string path => .ok [path]
  | .array items => items.mapM fun item =>
    match item with
    | .string path => .ok path
    | item => .error (.noPath item.kind)
  | .object members => .ok (members.map Prod.fst)
  | value => .error (.notSeveral value.kind)

/-- The value of an argument, unless it is missing or null. -/
def value? (arguments : List (String × Json)) (name : String) : Option Json :=
  match arguments.reverse.lookup name with
  | some .null => none
  | value => value

/-- What the names of variables begin with: a text, or what has a length at least. -/
def openingBy (arguments : List (String × Json)) : Except SourceDefect (Option String) :=
  match value? arguments "_env_prefix" with
  | none => .ok (Options.opening {})
  | some value =>
    if value.toInt?.isSome then .error (.unfitOpening value.kind) else .ok value.string?

def readsFileBy (arguments : List (String × Json)) : Except SourceDefect Bool :=
  match arguments.reverse.lookup fileArgument with
  | none => .ok true
  | some .null => .ok false
  | some value => (·.any leadsToFile) <$> paths value

def encodingBy (arguments : List (String × Json)) : Except SourceDefect File.Encoding :=
  match value? arguments "_env_file_encoding" with
  | none => .ok .utf8
  | some value =>
    if value.isEmpty then .ok .utf8
    else match value with
      | .string name => File.Encoding.ofName name
      | value => .error (.encodingNotText value.kind)

/-- The targets of an opening that variables of settings are among. -/
def openedTargets : List String :=
  ["variable", "all"]

/-- Refuses what is no count in the place of one. -/
def checkCount (arguments : List (String × Json)) : Except SourceDefect Unit :=
  match value? arguments "_env_nested_max_split" with
  | none => .ok ()
  | some value =>
    if value.isEmpty || value.toInt?.isSome then .ok () else .error (.noCount value.kind)

def ofArguments (arguments : List (String × Json)) : Except SourceDefect Options := do
  let value? := value? arguments
  checkCount arguments
  return {
    isCaseSensitive := (value? "_case_sensitive").any (!·.isEmpty)
    opening := ← openingBy arguments
    isOpened := (value? "_env_prefix_target").all (·.string?.any openedTargets.contains)
    readsFile := ← readsFileBy arguments
    encoding := encodingBy arguments
    ignoresEmpty := (value? "_env_ignore_empty").any (!·.isEmpty)
    nullText := (value? "_env_parse_none_str").bind Json.string? }

/-- Arguments among which there is no option leave everything as it is. -/
theorem ofArguments_eq_default (arguments : List (String × Json))
    (h : ∀ name ∈ effective, arguments.reverse.lookup name = none) :
    ofArguments arguments = .ok {} := by
  have none_of {name : String} (hn : name ∈ effective) : value? arguments name = none := by
    simp [value?, h name hn]
  simp only [ofArguments, checkCount, openingBy, readsFileBy, encodingBy,
    none_of (by decide : "_case_sensitive" ∈ effective),
    none_of (by decide : "_env_prefix" ∈ effective),
    none_of (by decide : "_env_prefix_target" ∈ effective), h fileArgument (by decide),
    none_of (by decide : "_env_file_encoding" ∈ effective),
    none_of (by decide : "_env_ignore_empty" ∈ effective),
    none_of (by decide : "_env_parse_none_str" ∈ effective),
    none_of (by decide : "_env_nested_max_split" ∈ effective)]
  rfl

/-! ### Arguments that can be refused -/

def checkSecrets (arguments : List (String × Json)) (hasFile : Bool) : Except SourceDefect Unit :=
  match value? arguments secretsArgument with
  | none => .ok ()
  | some value => do
    let leads := (← paths value).any leadsToFile
    if hasFile && leads then throw .noDirectory

def parts? : Json → Option (List Json)
  | .string s => some (s.toList.map fun c => .string c.toString)
  | .array items => some items
  | .object members => some (members.map fun (name, _) => .string name)
  | _ => none

/-- Refuses sources that are brought, unless there are none. Something else comes with them. -/
def checkReady (value : Json) : Except SourceDefect Unit :=
  match parts? value with
  | none => .error (.notPair value.kind)
  | some [sources, _] =>
    if sources.isEmpty then .ok ()
    else match parts? sources with
      | some (source :: _) => .error (.notSource source.kind)
      | _ => .error (.notSeveral sources.kind)
  | some parts =>
    .error (if parts.length < 2 then .tooFewForPair parts.length else .tooManyForPair)

/-! ### Reading by the options -/

variable (options : Options)

def fold (name : String) : String :=
  if options.isCaseSensitive then name else Text.lower name

def variableName (setting : String) : String :=
  options.fold ((if options.isOpened then options.opening.getD "" else "") ++ setting)

/-- Whether a value counts although it is empty. -/
def counts (value : String) : Bool :=
  !(options.ignoresEmpty && value.isEmpty)

def read (text : String) : Json :=
  if options.nullText = some text then .null else .string text

/-- What the settings file with a text is read as. A file that is not read makes no
difference. -/
def reread (text : String) : Except SourceDefect String :=
  if options.readsFile then do (← options.encoding).reread text else .ok text

end Options

end SignedHttp.Settings
