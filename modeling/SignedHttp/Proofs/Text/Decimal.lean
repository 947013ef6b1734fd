import Mathlib.Algebra.Ring.Nat
import Mathlib.Data.List.Basic
import SignedHttp.Text.Decimal

/-!
# Numerals show their numbers

The digits of a number denote it (`value_digits`), so different numbers have different digits, and
different integers have different numerals (`numeral_inj`). Zeros in front do not change what digits
denote (`value_padded`), and with them a number stands in as many digits as asked for if these are
enough (`shows_padded`).

Key definitions: `Shows`.
Key theorems: `value_digits`, `digits_inj`, `numeral_inj`, `padded_inj`, `shows_padded`.
-/

namespace SignedHttp.Text.Decimal

theorem isDigit_of_mem_digits {n : Nat} {c : Char} (h : c ∈ digits n) : c.isDigit = true :=
  Nat.isDigit_of_mem_toDigits (by decide) (by decide) h

theorem digits_ne_nil (n : Nat) : digits n ≠ [] := fun h => by
  have hlength := Nat.length_toDigits_pos (b := 10) (n := n)
  rw [← digits, h] at hlength
  cases hlength

theorem value_digits (n : Nat) : value (digits n) = n :=
  Nat.ofDigitChars_toDigits (by decide) (by decide)

theorem digits_inj {n m : Nat} (h : digits n = digits m) : n = m := by
  rw [← value_digits n, h, value_digits]

theorem sign_not_mem_digits (n : Nat) : '-' ∉ digits n := fun h => by
  cases isDigit_of_mem_digits h

theorem numeral_inj {n m : Int} (h : numeral n = numeral m) : n = m := by
  have h := String.ofList_injective h
  split at h
  · split at h
    · have := digits_inj (List.cons.inj h).2
      omega
    · exact absurd (h ▸ List.mem_cons_self) (sign_not_mem_digits m.natAbs)
  · split at h
    · exact absurd (h ▸ List.mem_cons_self) (sign_not_mem_digits n.natAbs)
    · have := digits_inj h
      omega

/-! ### Zeros in front -/

theorem isDigit_of_mem_padded {width n : Nat} {c : Char} (h : c ∈ padded width n) :
    c.isDigit = true := by
  rcases List.mem_append.mp h with hzero | hdigit
  · rw [List.eq_of_mem_replicate hzero]
    rfl
  · exact isDigit_of_mem_digits hdigit

theorem value_zeros_append (s : List Char) : ∀ count : Nat,
    value (List.replicate count '0' ++ s) = value s
  | 0 => rfl
  | count + 1 => value_zeros_append s count

theorem value_padded (width n : Nat) : value (padded width n) = n :=
  (value_zeros_append _ _).trans (value_digits n)

theorem padded_inj {width n m : Nat} (h : padded width n = padded width m) : n = m := by
  rw [← value_padded width n, h, value_padded]

/-! ### Fields of fixed width -/

/-- Whether a text shows a number in exactly so many digits. -/
structure Shows (width n : Nat) (s : List Char) : Prop where
  length : s.length = width
  isDigit : ∀ c ∈ s, c.isDigit = true
  value : value s = n

theorem length_padded {width n : Nat} (hwidth : 0 < width) (h : n < 10 ^ width) :
    (padded width n).length = width := by
  have hlength : (digits n).length ≤ width := (Nat.length_toDigits_le_iff (by decide) hwidth).mpr h
  rw [padded, List.length_append, List.length_replicate]
  omega

theorem shows_padded {width n : Nat} (hwidth : 0 < width) (h : n < 10 ^ width) :
    Shows width n (padded width n) :=
  ⟨length_padded hwidth h, fun _ => isDigit_of_mem_padded, value_padded width n⟩

end SignedHttp.Text.Decimal
