import SignedHttp.Text.Undecodable
import SignedHttp.Text.Unencodable

/-!
# ASCII text

Header fields are carried as ASCII, and a string with other characters is refused. Bytes are read
as ASCII too, and are refused at the first that is none.

Key definitions: `isAscii`, `check`, `decodeFrom`.
Key theorems: `check_eq_ok_iff`.
-/

namespace SignedHttp.Text.Ascii

def isAscii (c : Char) : Bool :=
  c.toNat < 0x80

theorem toNat_lt_of_isAscii {c : Char} (h : isAscii c = true) : c.toNat < 0x80 := by
  simpa [isAscii] using h

def hasByte (n : Nat) : Bool :=
  n < 0x80

def check (s : List Nat) : Except Unencodable Unit :=
  Unencodable.checkFrom hasByte 0 s

theorem check_eq_ok_iff (s : String) :
    check (points s.toList) = .ok () ↔ ∀ c ∈ s.toList, isAscii c = true := by
  rw [check, Unencodable.checkFrom_eq_ok_iff, points, List.all_map, List.all_eq_true]
  rfl

/-- The characters that the bytes from position `i` on are in ASCII; other bytes are refused as
those of an encoding of some name. -/
def decodeFrom (name : String) (cause : Undecodable.Cause) (i : Nat) :
    List UInt8 → Except Undecodable (List Char)
  | [] => .ok []
  | byte :: bytes =>
    if byte < 0x80 then (Char.ofNat byte.toNat :: ·) <$> decodeFrom name cause (i + 1) bytes
    else .error ⟨name, i, byte, 1, cause⟩

end SignedHttp.Text.Ascii
