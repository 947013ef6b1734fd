import Mathlib.Order.Monotone.Defs
import SignedHttp.Clock
import SignedHttp.Proofs.Number.Rounding

/-!
# The time in milliseconds

A double that a clock reads is multiplied by 1000 and cut. It gives a time if the product is rounded
to a number below the bound of doubles (`Reading.milliseconds_double_eq_ok_iff`), and then a later
reading gives no earlier time (`Reading.milliseconds_mono`), the time is accurate
(`Reading.abs_milliseconds_sub_lt`), and it is exact for whole seconds up to 53 bits of milliseconds
(`Reading.milliseconds_whole`).

The readings of a clock are counted from zero (`Clock.nth`). A clock rises if all of them are
doubles and none is less than one before it (`Clock.Rises`); read once, it still does.

Key definitions: `Reading.TimedAt`, `Clock.nth`, `Clock.Rises`.
Key theorems: `Reading.milliseconds_double_eq_ok_iff`, `Reading.milliseconds_mono`,
`Reading.abs_milliseconds_sub_lt`, `Clock.Rises.le_of_later`.
-/

namespace SignedHttp

open Number

/-! ### One reading -/

namespace Reading

/-- Whether a number of seconds has this product with 1000, rounded to a double. -/
structure TimedAt (x v : Rat) : Prop where
  rounds : RoundsTo (1000 * x) v
  bounded : |v| < 2 ^ 1024

variable {x y v : Rat} {n m : Int}

theorem times_eq_finite_iff : (Binary64.finite x).times 1000 = .finite v ↔ TimedAt x v := by
  have hproduct : (Binary64.finite x).times 1000 = nearest (1000 * x) := by
    rw [mul_comm]
    rfl
  rw [hproduct, nearest_eq_finite_iff]
  exact ⟨fun h => ⟨h.1, h.2⟩, fun h => ⟨h.rounds, h.bounded⟩⟩

/-- A double gives the time that its product with 1000 is cut to. -/
theorem TimedAt.milliseconds_eq (h : TimedAt x v) :
    (double (.finite x)).milliseconds = .ok (truncate v) := by
  rw [milliseconds, times_eq_finite_iff.mpr h]

theorem milliseconds_double_eq_ok_iff :
    (double (.finite x)).milliseconds = .ok n ↔ ∃ v, TimedAt x v ∧ truncate v = n := by
  constructor
  · intro h
    rw [milliseconds] at h
    split at h
    · cases h
    · cases h
    · rename_i v hproduct
      exact ⟨v, times_eq_finite_iff.mp hproduct, Except.ok.inj h⟩
  · rintro ⟨v, hv, rfl⟩
    exact hv.milliseconds_eq

theorem milliseconds_mono (hxy : x ≤ y) (hx : (double (.finite x)).milliseconds = .ok n)
    (hy : (double (.finite y)).milliseconds = .ok m) : n ≤ m := by
  obtain ⟨v, hv, rfl⟩ := milliseconds_double_eq_ok_iff.mp hx
  obtain ⟨w, hw, rfl⟩ := milliseconds_double_eq_ok_iff.mp hy
  have hproducts : 1000 * x ≤ 1000 * y := by linarith
  exact truncate_mono (hv.rounds.mono hproducts hw.rounds)

/-- A time is off by less than one millisecond and a small part of itself. -/
theorem abs_milliseconds_sub_lt (h : (double (.finite x)).milliseconds = .ok n) :
    |(n : Rat) - 1000 * x| < 1 + 2 ^ (-53 : Int) * |1000 * x| := by
  obtain ⟨v, hv, rfl⟩ := milliseconds_double_eq_ok_iff.mp h
  exact abs_truncate_sub_lt_of_roundsTo hv.rounds

/-- Whole numbers of at most 53 bits are rounded to themselves. -/
theorem timedAt_whole {k : Int} (hk : |1000 * k| ≤ 2 ^ 53) : TimedAt k (1000 * k) := by
  obtain ⟨m, hm, -⟩ := exists_hasSignificand hk (show (-1074 : Int) ≤ 0 by decide)
  have hcast : ((1000 * k : Int) : Rat) * 2 ^ (0 : Int) = 1000 * k := by
    rw [zpow_zero, mul_one]
    push_cast
    rfl
  rw [hcast] at hm
  refine ⟨hm.roundsTo, ?_⟩
  have habs : |(1000 * k : Rat)| ≤ 2 ^ 53 := by exact_mod_cast hk
  exact habs.trans_lt (pow_lt_pow_right₀ (by norm_num) (by decide))

theorem milliseconds_whole {k : Int} (hk : |1000 * k| ≤ 2 ^ 53) :
    (double (.finite k)).milliseconds = .ok (1000 * k) := by
  rw [(timedAt_whole hk).milliseconds_eq]
  have hcast : (1000 * k : Rat) = ((1000 * k : Int) : Rat) := by push_cast; rfl
  rw [hcast, truncate_intCast]

end Reading

/-! ### One reading after the other -/

namespace Clock

def nth (clock : Clock) : Nat → Reading
  | 0 => clock.read.1
  | k + 1 => clock.read.2.nth k

/-- Whether a clock gives doubles, none of them less than one before it. -/
def Rises (clock : Clock) : Prop :=
  ∃ x : Nat → Rat, Monotone x ∧ ∀ k, clock.nth k = .double (.finite (x k))

variable {clock : Clock}

theorem Rises.read (h : clock.Rises) : clock.read.2.Rises := by
  obtain ⟨x, hmono, hx⟩ := h
  exact ⟨fun k => x (k + 1), fun _ _ hle => hmono (Nat.succ_le_succ hle), fun k => hx (k + 1)⟩

/-- The readings of a clock that rises give no time before that of the first one. -/
theorem Rises.le_of_later (h : clock.Rises) {n m : Int} (hn : clock.read.1.milliseconds = .ok n)
    {k : Nat} (hm : (clock.nth k).milliseconds = .ok m) : n ≤ m := by
  obtain ⟨x, hmono, hx⟩ := h
  have hfirst : clock.read.1 = .double (.finite (x 0)) := hx 0
  rw [hfirst] at hn
  rw [hx k] at hm
  exact Reading.milliseconds_mono (hmono (Nat.zero_le k)) hn hm

end Clock

end SignedHttp
