import SignedHttp.Json

/-!
# Reading JSON

A text is read in two passes, each of them one step at a time. The first cuts it into tokens:
strings, words such as `null` or a number, and the marks of structure, with blanks between them.
The second puts values together from the tokens, with the arrays and objects that are still open
on a stack.

All escapes of strings are read, and two of them that spell a surrogate pair are one code point. A
surrogate that is left makes the string one of code points. Numbers are integers: fractions and
exponents are not read, and neither are names of members with surrogates.

Key definitions: `Json.joinPairs`, `Json.Lexer.step`, `Json.tokens?`, `Json.Builder.step`,
`Json.read?`.
-/

namespace SignedHttp.Json

/-! ### Strings and words -/

def isHigh (n : Nat) : Bool :=
  0xD800 ≤ n && n < 0xDC00

def isLow (n : Nat) : Bool :=
  0xDC00 ≤ n && n < 0xE000

/-- Code points with surrogate pairs put together. -/
def joinPairs : List Nat → List Nat
  | high :: low :: rest =>
    if isHigh high && isLow low then
      (0x10000 + 0x400 * (high - 0xD800) + (low - 0xDC00)) :: joinPairs rest
    else high :: joinPairs (low :: rest)
  | short => short

/-- The natural number that digits without leading zeros denote. -/
def natural? : List Char → Option Nat
  | [] => none
  | ['0'] => some 0
  | d :: rest =>
    if d = '0' || !(d :: rest).all Char.isDigit then none
    else some (Text.Decimal.value (d :: rest))

def integer? : List Char → Option Int
  | '-' :: digits => (fun n => -Int.ofNat n) <$> natural? digits
  | digits => Int.ofNat <$> natural? digits

def word? (word : List Char) : Option Json :=
  if word = "null".toList then some .null
  else if word = "true".toList then some (.bool true)
  else if word = "false".toList then some (.bool false)
  else .number <$> integer? word

/-! ### Tokens -/

inductive Token where
  | openArray
  | closeArray
  | openObject
  | closeObject
  | comma
  | colon
  /-- A string or a word. -/
  | value (value : Json)

def mark? : Char → Option Token
  | '[' => some .openArray
  | ']' => some .closeArray
  | '\x7b' => some .openObject
  | '\x7d' => some .closeObject
  | ',' => some .comma
  | ':' => some .colon
  | _ => none

def isBlank (c : Char) : Bool :=
  c = ' ' || c = '\t' || c = '\n' || c = '\r'

def isWordChar (c : Char) : Bool :=
  c.isAlphanum || c = '-' || c = '+' || c = '.'

/-- The code point that a letter behind a backslash stands for. -/
def escaped? : Char → Option Nat
  | '"' => some 0x22
  | '\\' => some 0x5C
  | '/' => some 0x2F
  | 'b' => some 0x08
  | 'f' => some 0x0C
  | 'n' => some 0x0A
  | 'r' => some 0x0D
  | 't' => some 0x09
  | _ => none

inductive Mode where
  | between
  | word (chars : List Char)
  /-- Inside a string of which these code points are read. -/
  | text (s : List Nat)
  /-- Behind a backslash. -/
  | escape (s : List Nat)
  /-- Inside four hexadecimal digits, of which so many were read and denote this number. -/
  | unit (s : List Nat) (count value : Nat)

/-- The first pass: the tokens that are read, and where it stands. -/
structure Lexer where
  tokens : List Token
  mode : Mode

namespace Lexer

def start (tokens : List Token) (c : Char) : Option Lexer :=
  if isBlank c then some ⟨tokens, .between⟩
  else if c = '"' then some ⟨tokens, .text []⟩
  else if isWordChar c then some ⟨tokens, .word [c]⟩
  else (fun token => ⟨tokens ++ [token], .between⟩) <$> mark? c

/-- The tokens, if the text may end or something new may begin here. -/
def settle (lexer : Lexer) : Option (List Token) :=
  match lexer.mode with
  | .between => some lexer.tokens
  | .word chars => (fun value => lexer.tokens ++ [.value value]) <$> word? chars
  | _ => none

def step (lexer : Lexer) (c : Char) : Option Lexer :=
  match lexer.mode with
  | .between => start lexer.tokens c
  | .word chars =>
    if isWordChar c then some ⟨lexer.tokens, .word (chars ++ [c])⟩
    else lexer.settle >>= (start · c)
  | .text s =>
    if c = '"' then some ⟨lexer.tokens ++ [.value (ofPoints (joinPairs s))], .between⟩
    else if c = '\\' then some ⟨lexer.tokens, .escape s⟩
    else if c < ' ' then none
    else some ⟨lexer.tokens, .text (s ++ [c.toNat])⟩
  | .escape s =>
    if c = 'u' then some ⟨lexer.tokens, .unit s 0 0⟩
    else (fun n => ⟨lexer.tokens, .text (s ++ [n])⟩) <$> escaped? c
  | .unit s count value =>
    (Text.Hex.digit? c).map fun digit =>
      if count = 3 then ⟨lexer.tokens, .text (s ++ [16 * value + digit])⟩
      else ⟨lexer.tokens, .unit s (count + 1) (16 * value + digit)⟩

end Lexer

def tokens? (text : List Char) : Option (List Token) :=
  text.foldlM Lexer.step ⟨[], .between⟩ >>= Lexer.settle

/-! ### Values -/

/-- An array or object that is still open, with what stands in it so far. -/
inductive Frame where
  | array (items : List Json)
  /-- An object with the name of the member whose value comes next. -/
  | object (members : List (String × Json)) (name : String)

inductive Place where
  | value
  /-- The first item of an array, or its end. -/
  | firstItem
  /-- The name of an object's first member, or its end. -/
  | firstName
  /-- The name of a further member. -/
  | name (members : List (String × Json))
  | colon (members : List (String × Json)) (name : String)
  /-- What stands behind a whole value. -/
  | done (value : Json)

/-- The second pass: what may come next, and what is still open, the innermost first. -/
structure Builder where
  place : Place
  stack : List Frame

namespace Builder

def start (stack : List Frame) : Token → Option Builder
  | .value value => some ⟨.done value, stack⟩
  | .openArray => some ⟨.firstItem, .array [] :: stack⟩
  | .openObject => some ⟨.firstName, stack⟩
  | _ => none

def step : Builder → Token → Option Builder
  | ⟨.value, stack⟩, token => start stack token
  | ⟨.firstItem, .array items :: stack⟩, .closeArray => some ⟨.done (.array items), stack⟩
  | ⟨.firstItem, stack⟩, token => start stack token
  | ⟨.firstName, stack⟩, .closeObject => some ⟨.done (.object []), stack⟩
  | ⟨.firstName, stack⟩, .value (.string name) => some ⟨.colon [] name, stack⟩
  | ⟨.name members, stack⟩, .value (.string name) => some ⟨.colon members name, stack⟩
  | ⟨.colon members name, stack⟩, .colon => some ⟨.value, .object members name :: stack⟩
  | ⟨.done value, .array items :: stack⟩, .comma =>
    some ⟨.value, .array (items ++ [value]) :: stack⟩
  | ⟨.done value, .array items :: stack⟩, .closeArray =>
    some ⟨.done (.array (items ++ [value])), stack⟩
  | ⟨.done value, .object members name :: stack⟩, .comma =>
    some ⟨.name (members ++ [(name, value)]), stack⟩
  | ⟨.done value, .object members name :: stack⟩, .closeObject =>
    some ⟨.done (.object (members ++ [(name, value)])), stack⟩
  | _, _ => none

/-- The value, if it is whole and nothing is open. -/
def whole? : Builder → Option Json
  | ⟨.done value, []⟩ => some value
  | _ => none

end Builder

def build? (tokens : List Token) : Option Json :=
  tokens.foldlM Builder.step ⟨.value, []⟩ >>= Builder.whole?

def read? (text : String) : Option Json :=
  tokens? text.toList >>= build?

end SignedHttp.Json
