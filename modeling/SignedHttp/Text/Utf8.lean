import SignedHttp.Text.Unencodable

/-!
# UTF-8

A character is written on one to four bytes, and a surrogate on none, so that a string with one
cannot be written. Reading refuses what no character is written as: a byte that starts none,
overlong forms, surrogates, anything above the last code point, and sequences cut short. A refusal
says where the sequence that does not fit starts and how many of its bytes could still have begun
a character.

Key definitions: `encodeChar`, `encode`, `encodePoints`, `decode`, `Malformed`.
Key theorems: `encodePoints_points`, `encodePoints_eq_ok_iff`.
-/

namespace SignedHttp.Text.Utf8

/-- The continuation byte that carries the last six bits of `n`. -/
def tail (n : Nat) : UInt8 :=
  .ofNat (0x80 + n % 0x40)

def encodeChar (c : Char) : List UInt8 :=
  let n := c.toNat
  if n < 0x80 then [.ofNat n]
  else if n < 0x800 then [.ofNat (0xC0 + n / 0x40), tail n]
  else if n < 0x10000 then [.ofNat (0xE0 + n / 0x1000), tail (n / 0x40), tail n]
  else [.ofNat (0xF0 + n / 0x40000), tail (n / 0x1000), tail (n / 0x40), tail n]

def encode (s : String) : List UInt8 :=
  s.toList.flatMap encodeChar

def check (s : List Nat) : Except Unencodable Unit :=
  Unencodable.checkFrom isCharacter 0 s

def encodePoints (s : List Nat) : Except Unencodable (List UInt8) :=
  (fun () => encode (ofPoints s)) <$> check s

theorem encodePoints_of_all {s : List Nat} (h : s.all isCharacter = true) :
    encodePoints s = .ok (encode (ofPoints s)) := by
  rw [encodePoints, check, (Unencodable.checkFrom_eq_ok_iff isCharacter 0 s).mpr h]
  rfl

theorem encodePoints_points (s : String) : encodePoints (points s.toList) = .ok (encode s) := by
  rw [encodePoints_of_all (all_points s.toList), ofPoints_points]

theorem encodePoints_codes (s : Irregular) : encodePoints s.codes = .error s.refusal := by
  rw [encodePoints, check, s.check_eq]
  rfl

theorem encodePoints_eq_ok_iff (s : List Nat) :
    (∃ bytes, encodePoints s = .ok bytes) ↔ s.all isCharacter = true := by
  constructor
  · rintro ⟨bytes, h⟩
    rw [← Unencodable.checkFrom_eq_ok_iff isCharacter 0 s]
    cases hcheck : check s with
    | ok _ => exact hcheck
    | error refusal =>
      rw [encodePoints, hcheck] at h
      cases h
  · exact fun h => ⟨_, encodePoints_of_all h⟩

inductive Reason
  /-- No character starts with this byte. -/
  | start
  | continuation
  | truncated
deriving DecidableEq, Repr

/-- A sequence of bytes that is no character: where it starts, its first byte, and
the number of bytes that could still have begun one. -/
structure Malformed where
  position : Nat
  lead : UInt8
  length : Nat
  reason : Reason
deriving DecidableEq, Repr

def isTail (b : UInt8) : Bool :=
  0x80 ≤ b && b ≤ 0xBF

/-- Whether `b` may follow the lead byte `a` of a three-byte character: overlong forms
and surrogates are left out. -/
def isSecondOfThree (a b : UInt8) : Bool :=
  isTail b && (a != 0xE0 || 0xA0 ≤ b) && (a != 0xED || b ≤ 0x9F)

/-- Whether `b` may follow the lead byte `a` of a four-byte character: overlong forms
and what lies above the last code point are left out. -/
def isSecondOfFour (a b : UInt8) : Bool :=
  isTail b && (a != 0xF0 || 0x90 ≤ b) && (a != 0xF4 || b ≤ 0x8F)

/-- The bits that a lead byte and its continuation bytes carry. -/
def payload (lead : Nat) (rest : List UInt8) : Nat :=
  rest.foldl (fun n b => n * 0x40 + (b.toNat - 0x80)) lead

def decodeFrom (i : Nat) : List UInt8 → Except Malformed (List Char)
  | [] => .ok []
  | a :: s =>
    if a < 0x80 then (Char.ofNat a.toNat :: ·) <$> decodeFrom (i + 1) s
    else if a < 0xC2 then .error ⟨i, a, 1, .start⟩
    else if a < 0xE0 then
      match s with
      | [] => .error ⟨i, a, 1, .truncated⟩
      | b :: s =>
        if isTail b then
          (Char.ofNat (payload (a.toNat - 0xC0) [b]) :: ·) <$> decodeFrom (i + 2) s
        else .error ⟨i, a, 1, .continuation⟩
    else if a < 0xF0 then
      match s with
      | [] => .error ⟨i, a, 1, .truncated⟩
      | [b] =>
        if isSecondOfThree a b then .error ⟨i, a, 2, .truncated⟩
        else .error ⟨i, a, 1, .continuation⟩
      | b :: c :: s =>
        if !isSecondOfThree a b then .error ⟨i, a, 1, .continuation⟩
        else if !isTail c then .error ⟨i, a, 2, .continuation⟩
        else (Char.ofNat (payload (a.toNat - 0xE0) [b, c]) :: ·) <$> decodeFrom (i + 3) s
    else if a < 0xF5 then
      match s with
      | [] => .error ⟨i, a, 1, .truncated⟩
      | [b] =>
        if isSecondOfFour a b then .error ⟨i, a, 2, .truncated⟩
        else .error ⟨i, a, 1, .continuation⟩
      | [b, c] =>
        if !isSecondOfFour a b then .error ⟨i, a, 1, .continuation⟩
        else if isTail c then .error ⟨i, a, 3, .truncated⟩
        else .error ⟨i, a, 2, .continuation⟩
      | b :: c :: d :: s =>
        if !isSecondOfFour a b then .error ⟨i, a, 1, .continuation⟩
        else if !isTail c then .error ⟨i, a, 2, .continuation⟩
        else if !isTail d then .error ⟨i, a, 3, .continuation⟩
        else (Char.ofNat (payload (a.toNat - 0xF0) [b, c, d]) :: ·) <$> decodeFrom (i + 4) s
    else .error ⟨i, a, 1, .start⟩

def decode (bytes : List UInt8) : Except Malformed String :=
  String.ofList <$> decodeFrom 0 bytes

def Reason.message : Reason → String
  | .start => "invalid start byte"
  | .continuation => "invalid continuation byte"
  | .truncated => "unexpected end of data"

/-- The wording of a refusal: one byte is shown, several are placed. -/
def Malformed.message (e : Malformed) : String :=
  let place :=
    if e.length = 1 then
      "byte 0x" ++ .ofList (Hex.encode [e.lead]) ++ " in position " ++ toString e.position
    else
      "bytes in position " ++ toString e.position ++ "-" ++ toString (e.position + (e.length - 1))
  "'utf-8' codec can't decode " ++ place ++ ": " ++ e.reason.message

end SignedHttp.Text.Utf8
