/-!
# Base64

Three bytes are written as four digits of the standard alphabet; one or two bytes at
the end are padded with the sign `=`, so the text's length is a multiple of four.

Key definitions: `digit`, `encode`, `digit?`, `decode?`.
Key theorems: `length_encode`.
-/

namespace SignedHttp.Text.Base64

def digit (n : Nat) : Char :=
  if n < 26 then .ofNat (0x41 + n)
  else if n < 52 then .ofNat (0x61 + (n - 26))
  else if n < 62 then .ofNat (0x30 + (n - 52))
  else if n = 62 then '+'
  else '/'

/-- The digits of the bytes, three bytes at a time. -/
def encodeChars : List UInt8 → List Char
  | [] => []
  | [a] => [digit (a.toNat / 4), digit (a.toNat % 4 * 16), '=', '=']
  | [a, b] =>
    [digit (a.toNat / 4), digit (a.toNat % 4 * 16 + b.toNat / 16), digit (b.toNat % 16 * 4), '=']
  | a :: b :: c :: s =>
    digit (a.toNat / 4) :: digit (a.toNat % 4 * 16 + b.toNat / 16) ::
      digit (b.toNat % 16 * 4 + c.toNat / 64) :: digit (c.toNat % 64) :: encodeChars s

def encode (bytes : List UInt8) : String :=
  .ofList (encodeChars bytes)

def digit? (c : Char) : Option Nat :=
  if 'A' ≤ c && c ≤ 'Z' then some (c.toNat - 0x41)
  else if 'a' ≤ c && c ≤ 'z' then some (c.toNat - 0x61 + 26)
  else if '0' ≤ c && c ≤ '9' then some (c.toNat - 0x30 + 52)
  else if c = '+' then some 62
  else if c = '/' then some 63
  else none

/-- The bytes that the digits denote, four digits at a time. Signs of padding may stand in the
place of the last digit, or of the last two. -/
def decodeChars : List Char → Option (List UInt8)
  | [] => some []
  | a :: b :: c :: d :: s => do
    let a ← digit? a
    let b ← digit? b
    let first := UInt8.ofNat (4 * a + b / 16)
    if c = '=' && d = '=' && s.isEmpty then return [first]
    let c ← digit? c
    let second := UInt8.ofNat (b % 16 * 16 + c / 4)
    if d = '=' && s.isEmpty then return [first, second]
    let d ← digit? d
    let rest ← decodeChars s
    return first :: second :: .ofNat (c % 4 * 64 + d) :: rest
  | _ => none

def decode? (s : String) : Option (List UInt8) :=
  decodeChars s.toList

/-- Four digits for three bytes, and as many again for one or two that are left. -/
theorem length_encodeChars : ∀ bytes : List UInt8,
    (encodeChars bytes).length = 4 * ((bytes.length + 2) / 3)
  | [] => rfl
  | [_] => by simp [encodeChars]
  | [_, _] => by simp [encodeChars]
  | _ :: _ :: _ :: s => by
    simp only [encodeChars, List.length_cons, length_encodeChars s]
    omega

theorem digit?_digit : ∀ n < 64, digit? (digit n) = some n := by decide

end SignedHttp.Text.Base64
