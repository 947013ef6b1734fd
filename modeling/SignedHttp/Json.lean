import SignedHttp.Text.Decimal
import SignedHttp.Text.Hex
import SignedHttp.Text.Point

/-!
# JSON values and their text

JSON without fractions, written on one line of printable ASCII: members in their
order, `", "` between items and `": "` after a name. Every other character is written
as `\u` and four hexadecimal digits, twice for a character that needs two UTF-16 units.
A string may also be irregular; its surrogates are written as the one unit that they are. Every
string is the one of its code points and of no others (`ofPoints_of_codes?`).

Values of different kinds differ, except that truth counts as a number. Strings, numbers,
truth and the missing value can be keys of a mapping; arrays and objects may still change.

Key definitions: `Json`, `Json.codes?`, `Json.ofPoints`, `Json.render`, `Json.holdsLongNumeral`,
`Json.kind`, `Json.isSame`.
Key theorems: `Json.codes?_ofPoints`, `Json.ofPoints_of_codes?`, `Json.isSame_string`.
-/

namespace SignedHttp

/-- A JSON value whose numbers are integers. -/
inductive Json where
  | null
  | bool (b : Bool)
  | number (n : Int)
  | string (s : String)
  /-- A string that is no text. -/
  | points (s : Text.Irregular)
  | array (items : List Json)
  | object (members : List (String × Json))
deriving Repr

namespace Json

def ofOption : Option String → Json
  | some s => .string s
  | none => .null

def string? : Json → Option String
  | .string s => some s
  | _ => none

/-! ### Strings as code points -/

def codes? : Json → Option (List Nat)
  | .string s => some (Text.points s.toList)
  | .points s => some s.codes
  | _ => none

def ofPoints (s : List Nat) : Json :=
  if h : s.all Text.isCharacter = true then .string (Text.ofPoints s)
  else .points ⟨s, Bool.eq_false_iff.mpr h⟩

theorem ofPoints_of_all {s : List Nat} (h : s.all Text.isCharacter = true) :
    ofPoints s = .string (Text.ofPoints s) :=
  dif_pos h

@[simp]
theorem ofPoints_points (s : String) : ofPoints (Text.points s.toList) = .string s := by
  rw [ofPoints_of_all (Text.all_points s.toList), Text.ofPoints_points]

@[simp]
theorem ofPoints_codes (s : Text.Irregular) : ofPoints s.codes = .points s :=
  dif_neg (Bool.eq_false_iff.mp s.isIrregular)

@[simp]
theorem codes?_ofPoints (s : List Nat) : (ofPoints s).codes? = some s := by
  by_cases h : s.all Text.isCharacter = true
  · rw [ofPoints_of_all h, codes?, Text.points_ofPoints h]
  · rw [ofPoints, dif_neg h, codes?]

theorem ofPoints_of_codes? {value : Json} {s : List Nat} (h : value.codes? = some s) :
    ofPoints s = value := by
  cases value with
  | string t => rw [← Option.some.inj h, ofPoints_points]
  | points t => rw [← Option.some.inj h, ofPoints_codes]
  | _ => cases h

/-- A string is that of its code points only. -/
theorem ofPoints_inj {s t : List Nat} (h : ofPoints s = ofPoints t) : s = t := by
  have hcodes := congrArg codes? h
  rwa [codes?_ofPoints, codes?_ofPoints, Option.some.injEq] at hcodes

/-! ### Kinds -/

/-- The name of the value's kind, as refusals give it. -/
def kind : Json → String
  | .null => "NoneType"
  | .bool _ => "bool"
  | .number _ => "int"
  | .string _ => "str"
  | .points _ => "str"
  | .array _ => "list"
  | .object _ => "dict"

def isEmpty : Json → Bool
  | .null => true
  | .bool b => !b
  | .number n => n = 0
  | .string s => s.toList.isEmpty
  | .points s => s.codes.isEmpty
  | .array items => items.isEmpty
  | .object members => members.isEmpty

/-- The number of a value; truth counts as one. -/
def toInt? : Json → Option Int
  | .bool b => some (if b then 1 else 0)
  | .number n => some n
  | _ => none

def canBeKey : Json → Bool
  | .array _ => false
  | .object _ => false
  | _ => true

mutual

/-- Whether two values are equal, where truth counts as a number. The members of objects
stand in the order of their names. -/
def isSame : Json → Json → Bool
  | .null, .null => true
  | .string a, .string b => a = b
  | .points a, .points b => a = b
  | .array a, .array b => isSameItems a b
  | .object a, .object b => isSameMembers a b
  | a, b => a.toInt?.isSome && a.toInt? = b.toInt?

def isSameItems : List Json → List Json → Bool
  | [], [] => true
  | a :: as, b :: bs => isSame a b && isSameItems as bs
  | _, _ => false

def isSameMembers : List (String × Json) → List (String × Json) → Bool
  | [], [] => true
  | (name, a) :: as, (other, b) :: bs => name = other && isSame a b && isSameMembers as bs
  | _, _ => false

end

theorem isSame_string (a b : String) : isSame (.string a) (.string b) = decide (a = b) := by
  simp [isSame]

theorem isSame_ofPoints_iff {s t : List Nat} :
    isSame (ofPoints s) (ofPoints t) = true ↔ ofPoints s = ofPoints t := by
  unfold ofPoints
  split <;> split <;> simp [isSame, toInt?]

/-! ### The text of a value -/

/-- The escape of one UTF-16 unit. -/
def escapeUnit (n : Nat) : List Char :=
  ['\\', 'u', Text.Hex.digit (n / 4096 % 16), Text.Hex.digit (n / 256 % 16),
    Text.Hex.digit (n / 16 % 16), Text.Hex.digit (n % 16)]

def escapeChar (c : Char) : List Char :=
  if c = '"' then ['\\', '"']
  else if c = '\\' then ['\\', '\\']
  else if c = '\n' then ['\\', 'n']
  else if c = '\r' then ['\\', 'r']
  else if c = '\t' then ['\\', 't']
  else if c = '\x08' then ['\\', 'b']
  else if c = '\x0c' then ['\\', 'f']
  else if ' ' ≤ c && c ≤ '~' then [c]
  else if c.toNat < 0x10000 then escapeUnit c.toNat
  else
    let n := c.toNat - 0x10000
    escapeUnit (0xD800 + n / 0x400) ++ escapeUnit (0xDC00 + n % 0x400)

def escapePoint (n : Nat) : List Char :=
  if Text.isCharacter n then escapeChar (.ofNat n) else escapeUnit n

def quoted (s : String) : List Char :=
  '"' :: s.toList.flatMap escapeChar ++ ['"']

mutual

def chars : Json → List Char
  | .null => "null".toList
  | .bool true => "true".toList
  | .bool false => "false".toList
  | .number n => (Text.Decimal.numeral n).toList
  | .string s => quoted s
  | .points s => '"' :: s.codes.flatMap escapePoint ++ ['"']
  | .array [] => ['[', ']']
  | .array (item :: items) => '[' :: chars item ++ itemChars items ++ [']']
  | .object [] => ['\x7b', '\x7d']
  | .object ((name, value) :: members) =>
    '\x7b' :: quoted name ++ ':' :: ' ' :: chars value ++ memberChars members ++ ['\x7d']

def itemChars : List Json → List Char
  | [] => []
  | item :: items => ',' :: ' ' :: chars item ++ itemChars items

def memberChars : List (String × Json) → List Char
  | [] => []
  | (name, value) :: members =>
    ',' :: ' ' :: quoted name ++ ':' :: ' ' :: chars value ++ memberChars members

end

/-- The text of a value on one line. -/
def render (value : Json) : String :=
  .ofList (chars value)

mutual

/-- Whether a number in the value is too long to be written. -/
def holdsLongNumeral : Json → Bool
  | .number n => Text.Decimal.isLong n
  | .array items => anyHoldsLongNumeral items
  | .object members => anyMemberHoldsLongNumeral members
  | _ => false

def anyHoldsLongNumeral : List Json → Bool
  | [] => false
  | item :: items => holdsLongNumeral item || anyHoldsLongNumeral items

def anyMemberHoldsLongNumeral : List (String × Json) → Bool
  | [] => false
  | (_, value) :: members => holdsLongNumeral value || anyMemberHoldsLongNumeral members

end

@[simp]
theorem holdsLongNumeral_string (s : String) : (string s).holdsLongNumeral = false := by
  simp [holdsLongNumeral]

theorem holdsLongNumeral_ofOption (s : Option String) :
    (ofOption s).holdsLongNumeral = false := by
  cases s <;> simp [ofOption, holdsLongNumeral]

theorem holdsLongNumeral_of_codes? {value : Json} {s : List Nat} (h : value.codes? = some s) :
    value.holdsLongNumeral = false := by
  cases value with
  | string | points => simp [holdsLongNumeral]
  | _ => cases h

end Json

end SignedHttp
