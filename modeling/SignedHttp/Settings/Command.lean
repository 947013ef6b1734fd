import SignedHttp.Settings
import SignedHttp.Settings.Options
import SignedHttp.Text.Blank
import SignedHttp.Text.Digit

/-!
# Command lines as a source of settings

An argument can bring the arguments of a command line, which give settings before all other
sources. Each setting is an option of its name behind two hyphens; its value follows, either
behind an equals sign or as the next argument, and of several values the last counts. The next
argument is no value if it looks like an option: if it begins with a hyphen and is neither that
hyphen alone, nor a negative number, nor holds a space. Letter case makes no difference to the
names of options unless it counts in names.

What belongs to no option is refused, and a refusal ends the program unless the arguments say
otherwise. A call for help ends it too.

Key definitions: `Command`, `Command.ofArguments`, `Command.classify`, `Command.read`,
`Command.bindings`.
Key theorems: `Command.bindings_eq_nil`.
-/

namespace SignedHttp.Settings

structure Command where
  /-- The sign that options begin with. -/
  sign : Char := '-'
  /-- What the names of options begin with. -/
  opening : String := ""
  /-- Whether the words of a name are parted by hyphens. -/
  hyphenates : Bool := false
  ignoresCase : Bool := true
  nullText : Option String := some "null"
  /-- Whether arguments are passed over that belong to no option. -/
  skipsUnknown : Bool := false
  /-- Whether a refusal ends the program. -/
  exits : Bool := true

namespace Command

open Options (value?)

/-! ### How it is read -/

/-- The argument that brings a command line. -/
def argument : String := "_cli_parse_args"

/-- Whether a value of an argument is there and counts as true. -/
def holds (arguments : List (String × Json)) (name : String) : Bool :=
  (value? arguments name).any (!·.isEmpty)

/-- A character that a name can begin with. Of those outside ASCII all are let pass. -/
def isNameStart (c : Char) : Bool :=
  c.isAlpha || c = '_' || 0x80 ≤ c.toNat

def isOpening (s : List Char) : Bool :=
  s.head? != some '.' && s.getLast? != some '.' &&
    match s.filter (· != '.') with
    | [] => false
    | c :: rest => isNameStart c && rest.all fun c => isNameStart c || c.isDigit

def openingBy (arguments : List (String × Json)) : Except SourceDefect String :=
  match value? arguments "_cli_prefix" with
  | none => .ok ""
  | some value =>
    if value.isEmpty then .ok ""
    else match value with
      | .string s => if isOpening s.toList then .ok (s ++ ".") else .error (.unfitCommandName s)
      | value => .error (.commandNameNotText value.kind)

/-- The text that stands for no value on a command line. The one that stands for it in all
sources comes first. -/
def nullTextBy (arguments : List (String × Json)) : Option String :=
  let given := ["_env_parse_none_str", "_cli_parse_none_str"].findSome? fun name =>
    (value? arguments name).filter (!·.isEmpty)
  match given with
  | some value => value.string?
  | none =>
    match value? arguments "_cli_avoid_json" with
    | some (.bool true) => some "None"
    | _ => some "null"

def signBy (arguments : List (String × Json)) : Char :=
  match value? arguments "_cli_flag_prefix_char" with
  | some (.string s) => s.toList.head?.getD '-'
  | _ => '-'

/-- Whether letter case makes no difference to the names of options: unless anything is said of
it but that it does not count. -/
def ignoresCaseBy (arguments : List (String × Json)) : Bool :=
  match value? arguments "_case_sensitive" with
  | none | some (.bool false) => true
  | _ => false

def ofArguments (arguments : List (String × Json)) : Except SourceDefect Command := do
  return {
    sign := signBy arguments
    opening := ← openingBy arguments
    hyphenates := holds arguments "_cli_kebab_case"
    ignoresCase := ignoresCaseBy arguments
    nullText := nullTextBy arguments
    skipsUnknown := holds arguments "_cli_ignore_unknown_args"
    exits := (value? arguments "_cli_exit_on_error").all (!·.isEmpty) }

variable (command : Command)

/-! ### Kinds of arguments -/

def optionOf (setting : Setting) : String :=
  let name := command.opening ++ setting.name
  .ofList [command.sign, command.sign] ++
    if command.hyphenates then name.map fun c => if c = '_' then '-' else c else name

def shortHelp : String := .ofList [command.sign, 'h']

def longHelp : String := .ofList [command.sign, command.sign] ++ "help"

/-- An argument with the name of an option in lower case. A line break ends its value. -/
def fold (text : String) : String :=
  let isNamed (c : Char) : Bool := !Text.isBlank c && c != '='
  match text.toList with
  | first :: second :: rest =>
    if first = command.sign && isNamed second then
      let name := (second :: rest).takeWhile isNamed
      let value := ((second :: rest).dropWhile isNamed).takeWhile (· != '\n')
      Text.lower (.ofList (first :: name)) ++ .ofList value
    else text
  | _ => text

/-- Whether digits with a point before one or more of them, or none, follow a hyphen. -/
def isNegative (s : List Char) : Bool :=
  let isDigit (c : Char) : Bool := (Text.digitValue? c).isSome
  let s := if s.getLast? = some '\n' then s.dropLast else s
  match s with
  | '-' :: s =>
    match s.dropWhile isDigit with
    | [] => !s.isEmpty
    | '.' :: t => !t.isEmpty && t.all isDigit
    | _ => false
  | _ => false

inductive Kind where
  /-- It is no option, and so can be the value of one. -/
  | value
  /-- It says that no options follow. -/
  | divider
  /-- It is the option of a setting, perhaps with its value. -/
  | option (setting : Setting) (given : Option String)
  /-- It calls for help, perhaps with a value that help does not take. -/
  | help (needless : Option String)
  /-- It looks like an option and is none. -/
  | unknown
deriving DecidableEq, Repr

/-- What follows a short call for help in the same argument is either more of them, or options
that are not asked for any more, or is refused. -/
def helpTail (isValue : Bool) : List Char → Option String
  | [] => some ""
  | c :: s =>
    if isValue || c = command.sign then some (.ofList (c :: s))
    else if c != 'h' then none
    else match s with
      | [] => none
      | d :: t => if d = '=' then helpTail true t else helpTail false (d :: t)

def classify (text : String) : Kind :=
  let s := text.toList
  let name := String.ofList (s.takeWhile (· != '='))
  let given := (s.dropWhile (· != '=')).tail?.map String.ofList
  let looksNegative := command.sign = '-' && isNegative s
  if text = "--" then .divider
  else if s.head? != some command.sign then .value
  else match Setting.all.find? (command.optionOf · = text) with
    | some setting => .option setting none
    | none =>
      if text = command.shortHelp || text = command.longHelp then .help none
      else if s.length = 1 then .value
      else match Setting.all.find? (given.isSome && command.optionOf · = name) with
        | some setting => .option setting given
        | none =>
          if given.isSome && name = command.longHelp then .help given
          else if given.isSome && name = command.shortHelp then
            .help (command.helpTail true (s.drop 3))
          else if s.take 2 = command.shortHelp.toList then .help (command.helpTail false (s.drop 2))
          else if looksNegative || s.contains ' ' then .value
          else .unknown

/-! ### Reading -/

def refusal (defect : CommandDefect) : SourceDefect :=
  if command.exits then .leaving 2 else .unreadableCommand defect

/-- The values of settings that arguments give, and the arguments that belong to no option. -/
def readFrom : List String → Except SourceDefect (List (Setting × String) × List String)
  | [] => .ok ([], [])
  | text :: rest =>
    match command.classify text with
    | .divider => .ok ([], text :: rest)
    | .value | .unknown => do
      let (bound, left) ← readFrom rest
      return (bound, text :: left)
    | .help none => .error (.leaving 0)
    | .help (some value) =>
      .error (command.refusal
        (.needlessValue (command.shortHelp ++ "/" ++ command.longHelp) value))
    | .option setting (some value) => do
      let (bound, left) ← readFrom rest
      return ((setting, value) :: bound, left)
    | .option setting none =>
      match rest with
      | value :: rest =>
        if command.classify value = .value then do
          let (bound, left) ← readFrom rest
          return ((setting, value) :: bound, left)
        else .error (command.refusal (.missingValue (command.optionOf setting)))
      | [] => .error (command.refusal (.missingValue (command.optionOf setting)))

def read (arguments : List String) : Except SourceDefect (List (Setting × Json)) := do
  let arguments := if command.ignoresCase then arguments.map command.fold else arguments
  let (bound, left) ← command.readFrom arguments
  if !left.isEmpty && !command.skipsUnknown then
    throw (command.refusal (.unrecognized left))
  return bound.map fun (setting, value) =>
    (setting, if command.nullText = some value then .null else .string value)

/-- The text of an argument. What is empty is an empty text. -/
def text (item : Json) : Except SourceDefect String :=
  match item with
  | .string s => .ok s
  | item => if item.isEmpty then .ok "" else .error (.commandNotText item.kind)

/-- The values of settings that the command line among the arguments gives, if there is one. -/
def bindings (arguments : List (String × Json)) : Except SourceDefect (List (Setting × Json)) :=
  match value? arguments argument with
  | none => .ok []
  | some value => do
    let command ← ofArguments arguments
    match value with
    | .bool _ | .number 0 => return []
    | .array items => command.read (← items.mapM text)
    | value => throw (.noCommand value.kind)

theorem bindings_eq_nil {arguments : List (String × Json)}
    (h : arguments.reverse.lookup argument = none) : bindings arguments = .ok [] := by
  simp [bindings, value?, h]

end Command

end SignedHttp.Settings
