import SignedHttp.Text.Blank

/-!
# Hexadecimal text

Pairs of ASCII hexadecimal digits, of either case, with ASCII blanks before, between
and after the pairs but not inside one. A text that is not of this form is refused at
the first character that does not fit; a character outside ASCII anywhere in the text
is refused before all else.

Key definitions: `digit`, `encode`, `digit?`, `decode`.
Key theorems: `decodeFrom_encode`.
-/

namespace SignedHttp.Text.Hex

def digit (n : Nat) : Char :=
  if n < 10 then .ofNat (0x30 + n) else .ofNat (0x57 + n)

def capitalDigit (n : Nat) : Char :=
  if n < 10 then .ofNat (0x30 + n) else .ofNat (0x37 + n)

def encode (bytes : List UInt8) : List Char :=
  bytes.flatMap fun b => [digit (b.toNat / 16), digit (b.toNat % 16)]

def digit? (c : Char) : Option Nat :=
  if '0' ≤ c && c ≤ '9' then some (c.toNat - 0x30)
  else if 'a' ≤ c && c ≤ 'f' then some (c.toNat - 0x57)
  else if 'A' ≤ c && c ≤ 'F' then some (c.toNat - 0x37)
  else none

/-- The bytes that the pairs from position `i` on denote, or the position that does
not fit: that of a character, or that of the end inside a pair. -/
def decodeFrom (i : Nat) : List Char → Except Nat (List UInt8)
  | [] => .ok []
  | c :: s =>
    if isAsciiBlank c then decodeFrom (i + 1) s
    else match digit? c with
      | none => .error i
      | some high =>
        match s with
        | [] => .error (i + 1)
        | d :: s =>
          match digit? d with
          | none => .error (i + 1)
          | some low => (UInt8.ofNat (16 * high + low) :: ·) <$> decodeFrom (i + 2) s

def decode (s : String) : Except Nat (List UInt8) :=
  match s.toList.findIdx? (0x80 ≤ ·.toNat) with
  | some i => .error i
  | none => decodeFrom 0 s.toList

theorem ofNat_eq {n : Nat} {b : UInt8} (h : n = b.toNat) : UInt8.ofNat n = b := by
  rw [h, UInt8.ofNat_toNat]

theorem digit?_digit : ∀ n < 16, digit? (digit n) = some n := by decide

theorem isAsciiBlank_digit : ∀ n < 16, isAsciiBlank (digit n) = false := by decide

theorem decodeFrom_encode : ∀ (i : Nat) (bytes : List UInt8),
    decodeFrom i (encode bytes) = .ok bytes
  | _, [] => rfl
  | i, b :: bytes => by
    have hb := b.toNat_lt
    have ih := decodeFrom_encode (i + 2) bytes
    have hval : UInt8.ofNat (16 * (b.toNat / 16) + b.toNat % 16) = b :=
      ofNat_eq (Nat.div_add_mod _ _)
    simp only [encode, List.flatMap_cons, List.cons_append, List.nil_append] at ih ⊢
    have hhigh := isAsciiBlank_digit (b.toNat / 16) (by omega)
    simp only [decodeFrom, hhigh, digit?_digit (b.toNat / 16) (by omega),
      digit?_digit (b.toNat % 16) (by omega), ih, hval, Bool.false_eq_true, ↓reduceIte]
    rfl

end SignedHttp.Text.Hex
