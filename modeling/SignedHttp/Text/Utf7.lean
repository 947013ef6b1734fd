import SignedHttp.Text.Base64
import SignedHttp.Text.Grid
import SignedHttp.Text.Wide

/-!
# UTF-7

ASCII characters stand for themselves, but for the plus sign. It announces units of two bytes
that are written in the digits of Base64; the first character that is no digit ends them, and
belongs to the text unless it is a hyphen. A plus sign in front of a hyphen is a plus sign.

Key definitions: `Utf7.decodeFrom`.
-/

namespace SignedHttp.Text.Utf7

/-- What has been read behind a plus sign: where the sign stands, the bits that make no unit
yet, and the first half of a character that waits for its second one. -/
structure Digits where
  start : Nat
  count : Nat
  bits : Nat
  half : Option Nat

def Digits.none (start : Nat) : Digits :=
  ⟨start, 0, 0, .none⟩

/-- The character of a unit. Half a character alone is none. -/
def charOf (n : Nat) : Char :=
  if Wide.isFirstHalf n || Wide.isSecondHalf n then Grid.gap else .ofNat n

/-- The characters that a unit completes, and the half that waits after it. -/
def completed (half : Option Nat) (n : Nat) : List Char × Option Nat :=
  match half with
  | some first =>
    if Wide.isSecondHalf n then ([.ofNat (Wide.join first n)], none)
    else if Wide.isFirstHalf n then ([Grid.gap], some n)
    else ([Grid.gap, charOf n], none)
  | none => if Wide.isFirstHalf n then ([], some n) else ([charOf n], none)

/-- The characters that are complete with one more digit, and what has been read then. -/
def Digits.push (digits : Digits) (value : Nat) : List Char × Digits :=
  let bits := digits.bits * 0x40 + value
  let count := digits.count + 6
  if count < 16 then ([], { digits with count := count, bits := bits })
  else
    let unit := Nat.pow 2 (count - 16)
    let (s, half) := completed digits.half (bits / unit)
    (s, { digits with count := count - 16, bits := bits % unit, half := half })

def digit? (byte : UInt8) : Option Nat :=
  Base64.digit? (.ofNat byte.toNat)

/-- The bytes from `start` on that are refused for a cause at position `i`. -/
def refusal (start i : Nat) (cause : Undecodable.Cause) : Undecodable :=
  ⟨"utf7", start, 0x2B, i + 1 - start, cause⟩

def direct (i : Nat) (byte : UInt8) : Except Undecodable Char :=
  if byte < 0x80 then .ok (.ofNat byte.toNat) else .error ⟨"utf7", i, byte, 1, .special⟩

/-- The characters that the bytes from position `i` on are, behind digits or not. -/
def decodeFrom (i : Nat) (digits : Option Digits) : List UInt8 → Except Undecodable (List Char)
  | [] =>
    match digits with
    | some d =>
      if d.half.isSome || 6 ≤ d.count || d.bits != 0 then
        .error (refusal d.start (i - 1) .openDigits)
      else .ok []
    | none => .ok []
  | byte :: s =>
    match digits with
    | some d =>
      match digit? byte with
      | some value =>
        let (t, d) := d.push value
        (t ++ ·) <$> decodeFrom (i + 1) (some d) s
      | none =>
        if 6 ≤ d.count then .error (refusal d.start i .cutDigits)
        else if d.bits != 0 then .error (refusal d.start i .padding)
        else if byte = 0x2D then decodeFrom (i + 1) none s
        else do
          let c ← direct i byte
          (c :: ·) <$> decodeFrom (i + 1) none s
    | none =>
      if byte = 0x2B then
        match s with
        | next :: t =>
          if next = 0x2D then ('+' :: ·) <$> decodeFrom (i + 2) none t
          else if (digit? next).isNone then .error (refusal i (i + 1) .noDigits)
          else decodeFrom (i + 1) (some (.none i)) (next :: t)
        | [] => .ok []
      else do
        let c ← direct i byte
        (c :: ·) <$> decodeFrom (i + 1) none s

end SignedHttp.Text.Utf7
