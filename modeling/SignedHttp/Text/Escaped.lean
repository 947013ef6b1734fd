import SignedHttp.Text.Grid
import SignedHttp.Text.Undecodable
import SignedHttp.Text.Wide

/-!
# Texts with escapes

In a text with escapes each byte is the character of its number, but for a backslash: it
starts an escape, which gives a character by a letter or by its number. A raw text knows no
escapes but those of four and of eight digits.

Key definitions: `Escaped.decodeFrom`.
-/

namespace SignedHttp.Text.Escaped

/-- The first bytes of a list as the digits of a number in a base, at most `limit` of them:
their values. -/
def digits (base : Nat) : Nat → List UInt8 → List Nat
  | 0, _ | _, [] => []
  | limit + 1, byte :: s =>
    match Hex.digit? (.ofNat byte.toNat) with
    | some value => if value < base then value :: digits base limit s else []
    | none => []

def number (base : Nat) (digits : List Nat) : Nat :=
  digits.foldl (fun n value => n * base + value) 0

/-- What is read behind a backslash: the characters, and how many bytes they take; or how many
bytes are refused, with the backslash, and why. -/
abbrev Reading := Except (Nat × Undecodable.Cause) (List Char × Nat)

/-- The character of a number that an escape of `limit` digits gives. Half a character alone is
none. -/
def numbered (limit : Nat) (pattern : String) (beyond : Undecodable.Cause) (s : List UInt8) :
    Reading :=
  let values := digits 16 limit s
  let n := number 16 values
  if values.length < limit then .error (2 + values.length, .shortEscape pattern)
  else if 0x110000 ≤ n then .error (2 + limit, beyond)
  else if Wide.isFirstHalf n || Wide.isSecondHalf n then .ok ([Grid.gap], 1 + limit)
  else .ok ([.ofNat n], 1 + limit)

/-- The refusal of an escape that gives the name of a character: no name is known. -/
def named (s : List UInt8) : Reading :=
  match s with
  | brace :: s =>
    let name := s.takeWhile (· != 0x7D)
    if brace != 0x7B then .error (2, .noName)
    else if name.length = s.length then .error (3 + name.length, .noName)
    else if name.isEmpty then .error (3, .noName)
    else .error (4 + name.length, .unknownName)
  | [] => .error (2, .noName)

def letters : List (Char × Char) :=
  [('\\', '\\'), ('\'', '\''), ('"', '"'), ('a', '\x07'), ('b', '\x08'), ('f', '\x0c'),
    ('n', '\n'), ('r', '\r'), ('t', '\t'), ('v', '\x0b')]

/-- What the bytes behind a backslash are read as. What starts no escape stays, with the
backslash. -/
def escape (isRaw : Bool) : List UInt8 → Reading
  | [] => if isRaw then .ok (['\\'], 0) else .error (1, .loneBackslash)
  | byte :: s =>
    let c := Char.ofNat byte.toNat
    if c = 'u' then numbered 4 "uXXXX" (if isRaw then .noRawCodePoint else .noCodePoint) s
    else if c = 'U' then
      numbered 8 "UXXXXXXXX" (if isRaw then .noRawCodePoint else .noCodePoint) s
    else if isRaw then .ok (['\\', c], 1)
    else if c = '\n' then .ok ([], 1)
    else if c = 'x' then numbered 2 "xXX" .noCodePoint s
    else if c = 'N' then named s
    else match letters.lookup c, digits 8 3 (byte :: s) with
      | some d, _ => .ok ([d], 1)
      | none, [] => .ok (['\\', c], 1)
      | none, values => .ok ([.ofNat (number 8 values)], values.length)

def decodeFrom (isRaw : Bool) (i : Nat) : List UInt8 → Except Undecodable (List Char)
  | [] => .ok []
  | byte :: s =>
    if byte != 0x5C then (Char.ofNat byte.toNat :: ·) <$> decodeFrom isRaw (i + 1) s
    else match escape isRaw s with
      | .ok (t, count) => (t ++ ·) <$> decodeFrom isRaw (i + 1 + count) (s.drop count)
      | .error (length, cause) =>
        .error ⟨if isRaw then "rawunicodeescape" else "unicodeescape", i, byte, length, cause⟩
termination_by bytes => bytes.length
decreasing_by
  all_goals simp only [List.length_cons, List.length_drop]; omega

end SignedHttp.Text.Escaped
