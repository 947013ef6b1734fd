import SignedHttp.Attribute
import SignedHttp.Calendar
import SignedHttp.HostName
import SignedHttp.Log.Defect
import SignedHttp.Settings.Defect
import SignedHttp.Text.Ascii
import SignedHttp.Text.Utf8

/-!
# Faults

Why an operation fails. Each fault is a cause, and `Fault.message` is what it says, which is also
what the log shows of it.

Key definitions: `Fault`, `Fault.message`.
-/

namespace SignedHttp

inductive UrlDefect where
  | tooLong
  | control (c : Char) (index : Nat)
  | address4 (host : String)
  | address6 (host : String)
  | hostName (host : String)
  | portNumber (text : String)
  /-- The path does not follow the authority with a slash. -/
  | detachedPath
  /-- An address without scheme and authority starts with two slashes. -/
  | doubleSlash
  /-- An address without scheme and authority starts with a colon. -/
  | leadingColon
deriving DecidableEq, Repr

/-- Why an operation fails. What an operation of the caller's says when it fails is given by its
code points. -/
inductive Fault where
  | missingSecret
  | unsignableBody (kind : String)
  | malformedText (defect : Text.Utf8.Malformed)
  /-- A string with surrogates is to be written in UTF-8. -/
  | surrogates (refusal : Text.Unencodable)
  | brokenClock (message : List Nat)
  | undefinedTime
  /-- The clock reads an infinite time, or one that is infinite in milliseconds. -/
  | infiniteTime
  | notADouble (text : String)
  /-- The clock is to read a value of this kind as a double. -/
  | notReal (kind : String)
  | hugeReal
  | unreachableInstant (defect : InstantDefect)
  | longNumeral
  /-- A prefix is to be taken off a value of this kind. -/
  | unstrippable (kind : String)
  /-- A prefix is to be found in a value of this kind. -/
  | unsearchable (kind : String)
  /-- A value of this kind is to be taken off an address. -/
  | unusablePrefix (kind : String)
  /-- A value of this kind is to be found in an address. -/
  | unfindablePrefix (kind : String)
  | unusableSecret (kind : String)
  /-- The secret itself fails to say what its bytes are. -/
  | brokenSecret (message : List Nat)
  | noHeaders
  /-- A field whose name is a value of this kind is to be compared with others. -/
  | incomparableName (kind : String)
  | unsendableName (kind : String)
  | unsendableValue (kind : String)
  | unusableKey (kind : String)
  /-- Logging is configured by a value of this kind, which has no letters. -/
  | unnamedLevel (kind : String)
  /-- Logging is configured by a name that denotes a record format. -/
  | formatAsLevel
  /-- Logging is configured by a name that denotes the styles of record formats. -/
  | stylesAsLevel
  | levelNotInteger
  | loggerNotText
  | notHex (position : Nat)
  /-- A value of this kind is to be read as hexadecimal digits. -/
  | noDigits (kind : String)
  | notAscii (refusal : Text.Unencodable)
  | unreadContent
  | unfitContent (kind : String)
  /-- The content consists of items of this kind, which are no bytes. -/
  | unreadableContent (kind : String)
  | unfitMethod (kind : String)
  /-- A request has a value of this kind, with this literal, for its address. -/
  | unfitAddress (kind literal : String)
  | invalidUrl (defect : UrlDefect)
  | unreadableHost (defect : HostName.Defect)
  | wrongPart (defect : AttributeDefect)
  | frozenField (name : List Nat)
  | missingParts (names : List String)
  | unknownPart (name : String)
  /-- Signed headers are given what they themselves are called by. -/
  | takenPart (name : String)
  | invalidTemplate (defect : Log.TemplateDefect)
  | notAnOperation (kind : String)
  | reservedField (name : String)
  | noSetting (name : String)
  | noSigner (use : String)
  | noHook
  | unsized (kind : String)
  | unusableSource (defect : SourceDefect)
  | invalidSettings (defects : List SettingDefect)
deriving DecidableEq, Repr

def UrlDefect.message : UrlDefect → String
  | .tooLong => "URL too long"
  | .control c index =>
    "Invalid non-printable ASCII character in URL, " ++ Text.quoted c.toString ++
      " at position " ++ toString index ++ "."
  | .address4 host => "Invalid IPv4 address: " ++ Text.quoted host
  | .address6 host => "Invalid IPv6 address: " ++ Text.quoted host
  | .hostName host => "Invalid IDNA hostname: " ++ Text.quoted host
  | .portNumber text => "Invalid port: " ++ Text.quoted text
  | .detachedPath => "For absolute URLs, path must be empty or begin with '/'"
  | .doubleSlash => "Relative URLs cannot have a path starting with '//'"
  | .leadingColon => "Relative URLs cannot have a path starting with ':'"

namespace Fault

/-- How a use that values of a kind do not have is refused. -/
def onKind (kind use : String) : String :=
  "'" ++ kind ++ "' object has no attribute '" ++ use ++ "'"

/-- How a use of something that is not there is refused. -/
def onNothing (use : String) : String :=
  onKind "NoneType" use

/-- Quoted names in a row, with `and` before the last one. -/
def enumerated : List String → String
  | [] => ""
  | [name] => Text.quoted name
  | [first, last] => Text.quoted first ++ " and " ++ Text.quoted last
  | [first, middle, last] =>
    Text.quoted first ++ ", " ++ Text.quoted middle ++ ", and " ++ Text.quoted last
  | name :: rest => Text.quoted name ++ ", " ++ enumerated rest

def receiver : String := "SignedHeaders.__init__()"

/-- The wording of a fault, apart from what the caller's own operations say. -/
def wording : Fault → String
  | missingSecret => "Signing secret is not set."
  | unsignableBody kind => "Cannot sign request body of type " ++ kind
  | malformedText defect => defect.message
  | surrogates refusal => refusal.message "utf-8" "surrogates not allowed"
  | brokenClock _ => ""
  | undefinedTime => "cannot convert float NaN to integer"
  | infiniteTime => "cannot convert float infinity to integer"
  | notADouble text => "could not convert string to float: " ++ Text.quoted text
  | notReal kind => "float() argument must be a string or a real number, not '" ++ kind ++ "'"
  | hugeReal => "int too large to convert to float"
  | unreachableInstant defect => defect.message
  | longNumeral =>
    "Exceeds the limit (4300 digits) for integer string conversion; " ++
      "use sys.set_int_max_str_digits() to increase the limit"
  | unstrippable kind => onKind kind "replace"
  | unsearchable kind => "argument of type '" ++ kind ++ "' is not iterable"
  | unusablePrefix kind => "replace() argument 1 must be str, not " ++ kind
  | unfindablePrefix kind => "'in <string>' requires string as left operand, not " ++ kind
  | unusableSecret kind => onKind kind "encode"
  | brokenSecret _ => ""
  | noHeaders => onNothing "keys"
  | incomparableName kind => onKind kind "lower"
  | unsendableName kind => onKind kind "encode"
  | unsendableValue kind => "Header value must be str or bytes, not <class '" ++ kind ++ "'>"
  | unusableKey kind => "unhashable type: " ++ Text.quoted kind
  | unnamedLevel kind => onKind kind "upper"
  | formatAsLevel => "Unknown level: '%(levelname)s:%(name)s:%(message)s'"
  | stylesAsLevel =>
    "Level not an integer or a valid string: \x7b'%': (<class 'logging.PercentStyle'>, " ++
      "'%(levelname)s:%(name)s:%(message)s'), '\x7b': (<class 'logging.StrFormatStyle'>, " ++
      "'\x7blevelname\x7d:\x7bname\x7d:\x7bmessage\x7d'), " ++
      "'$': (<class 'logging.StringTemplateStyle'>, " ++
      "'$\x7blevelname\x7d:$\x7bname\x7d:$\x7bmessage\x7d')\x7d"
  | levelNotInteger => "level must be an integer"
  | loggerNotText => "A logger name must be a string"
  | notHex position =>
    "non-hexadecimal number found in fromhex() arg at position " ++ toString position
  | noDigits kind =>
    "fromhex() argument must be str, not " ++ (if kind = "NoneType" then "None" else kind)
  | notAscii refusal => refusal.message "ascii" "ordinal not in range(128)"
  | unreadContent =>
    "Attempted to access streaming request content, without having called `read()`."
  | unfitContent kind => "Unexpected type for 'content', <class '" ++ kind ++ "'>"
  | unreadableContent kind =>
    "sequence item 0: expected a bytes-like object, " ++ kind ++ " found"
  | unfitMethod kind => onKind kind "upper"
  | unfitAddress kind literal =>
    "Invalid type for url.  Expected str or httpx.URL, got <class '" ++ kind ++ "'>: " ++ literal
  | invalidUrl defect => defect.message
  | unreadableHost defect => defect.message
  | wrongPart defect => defect.message
  | frozenField name => "cannot assign to field " ++ Text.quotedPoints name
  | missingParts names =>
    receiver ++ " missing " ++ toString names.length ++ " required positional argument" ++
      (if names.length = 1 then "" else "s") ++ ": " ++ enumerated names
  | unknownPart name => receiver ++ " got an unexpected keyword argument '" ++ name ++ "'"
  | takenPart name => receiver ++ " got multiple values for argument '" ++ name ++ "'"
  | invalidTemplate defect => defect.message
  | notAnOperation kind => "'" ++ kind ++ "' object is not callable"
  | noSetting name => "\"Settings\" object has no field \"" ++ name ++ "\""
  | reservedField name => "\"Attempt to overwrite '" ++ name ++ "' in LogRecord\""
  | noSigner use => onNothing use
  | noHook => ""
  | unsized kind => "object of type '" ++ kind ++ "' has no len()"
  | unusableSource defect => defect.message
  | invalidSettings _ => ""

def message : Fault → Json
  | brokenClock text => .ofPoints text
  | brokenSecret text => .ofPoints text
  | fault => .string fault.wording

theorem exists_codes?_message (fault : Fault) : ∃ s, fault.message.codes? = some s := by
  unfold message
  split
  · exact ⟨_, Json.codes?_ofPoints _⟩
  · exact ⟨_, Json.codes?_ofPoints _⟩
  · exact ⟨_, rfl⟩

end Fault

end SignedHttp
