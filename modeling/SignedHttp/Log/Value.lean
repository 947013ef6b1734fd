import SignedHttp.Fault
import SignedHttp.Json

/-!
# Values in messages

How a value reads in a message: a string as it is, every other value as its literal. In a
literal strings are quoted, and items and members stand between brackets. A value with a
number that is too long to be written has no text.

Key definitions: `Json.literal`, `Json.asciiLiteral`, `Json.shown`.
-/

namespace SignedHttp

/-- The numeral of an integer that is short enough to write. -/
def Log.numeral (n : Int) : Except Fault String :=
  match Text.Decimal.numeral? n with
  | some s => .ok s
  | none => .error .longNumeral

namespace Json

mutual

def literalChars : Json → List Char
  | .null => "None".toList
  | .bool true => "True".toList
  | .bool false => "False".toList
  | .number n => (Text.Decimal.numeral n).toList
  | .string s => (Text.quoted s).toList
  | .points s => (Text.quotedPoints s.codes).toList
  | .array [] => ['[', ']']
  | .array (item :: items) => '[' :: literalChars item ++ literalItems items ++ [']']
  | .object [] => ['\x7b', '\x7d']
  | .object ((name, value) :: members) =>
    '\x7b' :: (Text.quoted name).toList ++ ':' :: ' ' :: literalChars value ++
      literalMembers members ++ ['\x7d']

def literalItems : List Json → List Char
  | [] => []
  | item :: items => ',' :: ' ' :: literalChars item ++ literalItems items

def literalMembers : List (String × Json) → List Char
  | [] => []
  | (name, value) :: members =>
    ',' :: ' ' :: (Text.quoted name).toList ++ ':' :: ' ' :: literalChars value ++
      literalMembers members

end

/-- The literal of a value whose numbers can all be written. -/
def literal (value : Json) : Except Fault (List Char) :=
  if value.holdsLongNumeral then .error .longNumeral else .ok value.literalChars

def asciiLiteral (value : Json) : Except Fault (List Char) :=
  (·.flatMap fun c => if Text.Ascii.isAscii c then [c] else Text.escapeCode c.toNat) <$>
    value.literal

def shown : Json → Except Fault (List Nat)
  | .string s => .ok (Text.points s.toList)
  | .points s => .ok s.codes
  | value => Text.points <$> value.literal

end Json

end SignedHttp
