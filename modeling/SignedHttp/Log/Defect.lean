import SignedHttp.Text.Quoted

/-!
# Defects of log messages

What is wrong with a message that is to be put together with its arguments.

Key definitions: `TemplateDefect`, `TemplateDefect.message`.
-/

namespace SignedHttp.Log

/-- What is wrong with a log message and its arguments. -/
inductive TemplateDefect where
  | incomplete
  | openName
  /-- A placeholder has a name, and there is nothing to look it up in. -/
  | noMembers
  /-- A placeholder has a name, and the items to look it up in have none. -/
  | namelessItems
  | unknownName (name : String)
  | tooFewArguments
  | tooManyArguments
  /-- An argument that says a width or a precision is no number. -/
  | amountNotInteger
  | writtenWidth
  | writtenPrecision
  | givenWidth
  | givenPrecision
  | tooManyDigits
  | outOfMemory
  /-- The placeholder with its letter at this index of the message is none that is known. -/
  | unsupported (c : Char) (index : Nat)
  /-- A placeholder for numbers meets a value of a kind that has no number. -/
  | notNumeric (letter : Char) (kind : String)
  /-- A placeholder for integers in another base meets a value of another kind. -/
  | notInteger (letter : Char) (kind : String)
  /-- A placeholder for fractions meets a value of a kind that has no number. -/
  | notReal (kind : String)
  | hugeReal
  | notCharacter
  | noSuchCharacter
deriving DecidableEq, Repr

def TemplateDefect.message : TemplateDefect → String
  | .incomplete => "incomplete format"
  | .openName => "incomplete format key"
  | .noMembers => "format requires a mapping"
  | .namelessItems => "list indices must be integers or slices, not str"
  | .unknownName name => Text.quoted name
  | .tooFewArguments => "not enough arguments for format string"
  | .tooManyArguments => "not all arguments converted during string formatting"
  | .amountNotInteger => "* wants int"
  | .writtenWidth => "width too big"
  | .writtenPrecision => "precision too big"
  | .givenWidth => "Python int too large to convert to C ssize_t"
  | .givenPrecision => "Python int too large to convert to C int"
  | .tooManyDigits => "precision too large"
  | .outOfMemory => ""
  | .unsupported c index =>
    let number := String.ofList (Nat.toDigits 16 c.toNat)
    "unsupported format character '" ++ (if '\x1f' ≤ c && c < '\x7f' then c.toString else "?") ++
      "' (0x" ++ number ++ ") at index " ++ toString index
  | .notNumeric letter kind =>
    "%" ++ letter.toString ++ " format: a real number is required, not " ++ kind
  | .notInteger letter kind =>
    "%" ++ letter.toString ++ " format: an integer is required, not " ++ kind
  | .notReal kind => "must be real number, not " ++ kind
  | .hugeReal => "int too large to convert to float"
  | .notCharacter => "%c requires int or char"
  | .noSuchCharacter => "%c arg not in range(0x110000)"

end SignedHttp.Log
