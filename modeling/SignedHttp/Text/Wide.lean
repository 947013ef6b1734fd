import SignedHttp.Text.Undecodable

/-!
# Texts in wide units

A text can be written in units of two or of four bytes, the least byte of each first or last.
A unit of four bytes is a code point. One of two bytes is a code point too, or half of one: the
first half comes from one interval, the second half, which must follow, from another.

Key definitions: `ByteOrder`, `Wide.decode16`, `Wide.decode32`.
-/

namespace SignedHttp.Text

/-- Whether the least byte of a unit comes first or last. -/
inductive ByteOrder where
  | leastFirst
  | leastLast
deriving DecidableEq, Repr

def ByteOrder.suffix : ByteOrder → String
  | .leastFirst => "-le"
  | .leastLast => "-be"

def ByteOrder.number : ByteOrder → List UInt8 → Nat
  | .leastFirst, bytes => bytes.foldr (fun byte n => n * 0x100 + byte.toNat) 0
  | .leastLast, bytes => bytes.foldl (fun n byte => n * 0x100 + byte.toNat) 0

namespace Wide

def isFirstHalf (n : Nat) : Bool :=
  0xD800 ≤ n && n < 0xDC00

def isSecondHalf (n : Nat) : Bool :=
  0xDC00 ≤ n && n < 0xE000

def join (first second : Nat) : Nat :=
  0x10000 + (first - 0xD800) * 0x400 + (second - 0xDC00)

def decode16 (order : ByteOrder) (i : Nat) : List UInt8 → Except Undecodable (List Char)
  | [] => .ok []
  | [a] => .error ⟨"utf-16" ++ order.suffix, i, a, 1, .cutUnit⟩
  | a :: b :: s =>
    let n := order.number [a, b]
    if isFirstHalf n then
      match s with
      | c :: d :: t =>
        let m := order.number [c, d]
        if isSecondHalf m then (Char.ofNat (join n m) :: ·) <$> decode16 order (i + 4) t
        else .error ⟨"utf-16" ++ order.suffix, i, a, 2, .openPair⟩
      | t => .error ⟨"utf-16" ++ order.suffix, i, a, 2 + t.length, .cutPair⟩
    else if isSecondHalf n then .error ⟨"utf-16" ++ order.suffix, i, a, 2, .loneHalf⟩
    else (Char.ofNat n :: ·) <$> decode16 order (i + 2) s

def decode32 (order : ByteOrder) (i : Nat) : List UInt8 → Except Undecodable (List Char)
  | [] => .ok []
  | a :: b :: c :: d :: s =>
    let n := order.number [a, b, c, d]
    if 0x110000 ≤ n then .error ⟨"utf-32" ++ order.suffix, i, a, 4, .tooGreat⟩
    else if isFirstHalf n || isSecondHalf n then
      .error ⟨"utf-32" ++ order.suffix, i, a, 4, .surrogate⟩
    else (Char.ofNat n :: ·) <$> decode32 order (i + 4) s
  | a :: s => .error ⟨"utf-32" ++ order.suffix, i, a, s.length + 1, .cutUnit⟩

end Wide

end SignedHttp.Text
