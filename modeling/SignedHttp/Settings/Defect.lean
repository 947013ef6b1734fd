import SignedHttp.Text.Quoted
import SignedHttp.Text.Undecodable
import SignedHttp.Text.Unencodable

/-!
# Defects of settings

What is wrong with the values that settings are given, and with the sources that they are
given by.

Key definitions: `SettingDefect`, `CommandDefect`, `SourceDefect`.
-/

namespace SignedHttp

inductive SettingDefect where
  | notText (name : String)
  | unknown (name : String)
deriving DecidableEq, Repr

def SettingDefect.name : SettingDefect → String
  | .notText name => name
  | .unknown name => name

def SettingDefect.message : SettingDefect → String
  | .notText _ => "Input should be a valid string"
  | .unknown _ => "Extra inputs are not permitted"

inductive CommandDefect where
  | missingValue (option : String)
  | needlessValue (option value : String)
  | unrecognized (arguments : List String)
deriving DecidableEq, Repr

def CommandDefect.message : CommandDefect → String
  | .missingValue option => "argument " ++ option ++ ": expected one argument"
  | .needlessValue option value =>
    "argument " ++ option ++ ": ignored explicit argument " ++ Text.quoted value
  | .unrecognized arguments => "unrecognized arguments: " ++ " ".intercalate arguments

inductive SourceDefect where
  | variableNotText (kind : String)
  | nullCharacter
  | equalsInName
  | emptyName
  /-- A variable or the name of an argument is a string with surrogates. -/
  | surrogates (refusal : Text.Unencodable)
  | argumentNotText
  /-- An argument has the name by which the reader of sources calls itself. -/
  | ownName (name : String)
  /-- An argument says again what is said already. -/
  | saidTwice (name : String)
  /-- A value of this kind stands in the place of several. -/
  | notSeveral (kind : String)
  | noPath (kind : String)
  | noDirectory
  /-- The variable of this setting has no name. -/
  | unnamedVariable (setting : String)
  /-- The names of variables are to begin with a value of this kind. -/
  | unfitOpening (kind : String)
  | noCount (kind : String)
  | encodingNotText (kind : String)
  | unknownEncoding (name : String)
  | nullInEncoding
  /-- What the encoding of this name is for is no text. -/
  | noTextEncoding (name : String)
  | undefinedEncoding
  /-- The file is to have units in this form, and no mark says their byte order. -/
  | unmarked (form : String)
  /-- The file is to be spelled by digits and has this character among them. -/
  | noSpellingDigit (c : Char)
  /-- The file is to be spelled and ends inside a number. -/
  | cutSpelling
  /-- The file is to be spelled and a number leads to this, which is no code point. -/
  | wideSpelling (n : Nat)
  | undecodable (refusal : Text.Undecodable)
  | noCommand (kind : String)
  | commandNotText (kind : String)
  /-- The names of options are to begin with this text, which is no name. -/
  | unfitCommandName (text : String)
  /-- The names of options are to begin with a value of this kind. -/
  | commandNameNotText (kind : String)
  | unreadableCommand (defect : CommandDefect)
  /-- The command line ends the program with this status. -/
  | leaving (status : Nat)
  | notPair (kind : String)
  | tooFewForPair (count : Nat)
  | tooManyForPair
  | notSource (kind : String)
deriving DecidableEq, Repr

def SourceDefect.message : SourceDefect → String
  | .variableNotText kind => "str expected, not " ++ kind
  | .nullCharacter => "embedded null byte"
  | .equalsInName => "illegal environment variable name"
  | .emptyName => "[Errno 22] Invalid argument"
  | .surrogates refusal => refusal.message "utf-8" "surrogates not allowed"
  | .argumentNotText => "keywords must be strings"
  | .ownName name => "BaseSettings.__init__() got multiple values for argument '" ++ name ++ "'"
  | .saidTwice name =>
    "request_signer.config.Settings() got multiple values for keyword argument '" ++ name ++ "'"
  | .notSeveral kind => "'" ++ kind ++ "' object is not iterable"
  | .noPath kind => "expected str, bytes or os.PathLike object, not " ++ kind
  | .noDirectory => "secrets_dir must reference a directory, not a file"
  | .unnamedVariable setting =>
    "error getting value for field \"" ++ setting ++ "\" from source \"EnvSettingsSource\""
  | .unfitOpening kind => "object of type '" ++ kind ++ "' has no len()"
  | .noCount kind => "unsupported operand type(s) for -: '" ++ kind ++ "' and 'int'"
  | .encodingNotText kind => "open() argument 'encoding' must be str or None, not " ++ kind
  | .unknownEncoding name => "unknown encoding: " ++ name
  | .nullInEncoding => "embedded null character"
  | .noTextEncoding name =>
    "'" ++ name ++ "' is not a text encoding; use codecs.open() to handle arbitrary codecs"
  | .undefinedEncoding => "undefined encoding"
  | .unmarked form => form ++ " stream does not start with BOM"
  | .noSpellingDigit c => "Invalid extended code point '" ++ c.toString ++ "'"
  | .cutSpelling => "incomplete punicode string"
  | .wideSpelling n => "Invalid character U+" ++ .ofList (Nat.toDigits 16 n)
  | .undecodable refusal => refusal.message
  | .noCommand kind =>
    "cli_parse_args must be a list or tuple of strings, received <class '" ++ kind ++ "'>"
  | .commandNotText kind => "expected string or bytes-like object, got '" ++ kind ++ "'"
  | .unfitCommandName text => "CLI settings source prefix is invalid: " ++ text
  | .commandNameNotText kind => "'" ++ kind ++ "' object has no attribute 'startswith'"
  | .unreadableCommand defect => "error parsing CLI: " ++ defect.message
  | .leaving status => toString status
  | .notPair kind => "cannot unpack non-iterable " ++ kind ++ " object"
  | .tooFewForPair count =>
    "not enough values to unpack (expected 2, got " ++ toString count ++ ")"
  | .tooManyForPair => "too many values to unpack (expected 2)"
  | .notSource kind => "'" ++ kind ++ "' object is not callable"

end SignedHttp
