import Mathlib.Algebra.Order.Field.Power
import Mathlib.Data.Rat.Floor
import Mathlib.Tactic.FieldSimp
import Mathlib.Tactic.Linarith
import Mathlib.Tactic.NormNum
import Mathlib.Tactic.Positivity
import Mathlib.Tactic.Ring
import SignedHttp.Number.Binary64

/-!
# Products are rounded correctly

A double is a whole number of at most 53 bits, its significand, times a power of two that is not
below the least one (`HasSignificand`). `nearest` gives the double next to a number, and of two that
are equally near the one with an even significand (`RoundsTo`), unless that reaches two to the power
of 1024 (`nearest_eq_finite_iff`).

`nearest` itself knows one spacing for each number, and rounds to a whole number of units of this
size. The doubles that are spaced more closely are all nearer to zero than the number, with a
multiple of the unit in between, so they are farther from it than the one that is chosen
(`lt_abs_sub_of_finer`). Both directions rest on this, that the choice is right and that it is the
only one.

Rounding keeps the order, since of two neighbours the greater one is never nearer to the lesser
number only (`RoundsTo.mono`), and so does cutting towards zero. What is lost by both is less than
one and a small part of the number (`abs_truncate_sub_lt_of_roundsTo`).

Key definitions: `HasSignificand`, `RoundsTo`, `rounded`.
Key theorems: `roundsTo_iff`, `nearest_eq_finite_iff`, `RoundsTo.mono`,
`abs_truncate_sub_lt_of_roundsTo`.
-/

namespace SignedHttp.Number

/-! ### Powers of two -/

theorem twoPow_eq_zpow (k : Int) : twoPow k = (2 : Rat) ^ k := by
  cases k with
  | ofNat n => simp [twoPow, Rat.mkRat_eq_div]
  | negSucc n => simp [twoPow, Rat.mkRat_eq_div, zpow_negSucc]

theorem two_zpow_le {a b : Int} (h : a ≤ b) : (2 : Rat) ^ a ≤ 2 ^ b :=
  zpow_le_zpow_right₀ (by norm_num) h

theorem two_zpow_pos (k : Int) : (0 : Rat) < 2 ^ k :=
  zpow_pos (by norm_num) k

theorem abs_eq (q : Rat) : q.abs = |q| := by
  unfold Rat.abs
  split
  · exact (abs_of_nonneg ‹_›).symm
  · exact (abs_of_neg (not_le.mp ‹_›)).symm

/-- A positive number lies between the power of two of its exponent and the next one. -/
theorem binaryExponent_bounds {q : Rat} (hq : 0 < q) :
    (2 : Rat) ^ binaryExponent q ≤ q ∧ q < 2 ^ (binaryExponent q + 1) := by
  have hnum : q.num.natAbs ≠ 0 := Int.natAbs_ne_zero.mpr (Rat.num_pos.mpr hq).ne'
  have hden : (0 : Rat) < q.den := by exact_mod_cast q.den_pos
  have hq_eq : q = (q.num.natAbs : Rat) / q.den := by
    have habs : (q.num.natAbs : Rat) = q.num := by
      rw [Nat.cast_natAbs, abs_of_pos (Rat.num_pos.mpr hq)]
    rw [habs, Rat.num_div_den]
  have hnum_ge : (2 : Rat) ^ (q.num.natAbs.log2 : Int) ≤ q.num.natAbs := by
    exact_mod_cast Nat.log2_self_le hnum
  have hnum_lt : (q.num.natAbs : Rat) < 2 ^ ((q.num.natAbs.log2 : Int) + 1) := by
    exact_mod_cast Nat.lt_log2_self (n := q.num.natAbs)
  have hden_ge : (2 : Rat) ^ (q.den.log2 : Int) ≤ q.den := by
    exact_mod_cast Nat.log2_self_le q.den_nz
  have hden_lt : (q.den : Rat) < 2 ^ ((q.den.log2 : Int) + 1) := by
    exact_mod_cast Nat.lt_log2_self (n := q.den)
  unfold binaryExponent
  generalize q.num.natAbs = a at *
  have hcast : Int.ofNat a.log2 - Int.ofNat q.den.log2 = (a.log2 : Int) - (q.den.log2 : Int) := rfl
  rw [hcast]
  generalize (a.log2 : Int) = i at *
  generalize (q.den.log2 : Int) = j at *
  -- both parts are known up to a factor of two, so the exponent is `i - j` or one less
  have hlow : (2 : Rat) ^ (i - j - 1) < q := by
    rw [hq_eq, lt_div_iff₀ hden]
    calc (2 : Rat) ^ (i - j - 1) * q.den < 2 ^ (i - j - 1) * 2 ^ (j + 1) :=
          mul_lt_mul_of_pos_left hden_lt (two_zpow_pos _)
      _ = 2 ^ i := by rw [← zpow_add₀ (by norm_num)]; congr 1; ring
      _ ≤ a := hnum_ge
  have hhigh : q < 2 ^ (i - j + 1) := by
    rw [hq_eq, div_lt_iff₀ hden]
    calc (a : Rat) < 2 ^ (i + 1) := hnum_lt
      _ = 2 ^ (i - j + 1) * 2 ^ j := by rw [← zpow_add₀ (by norm_num)]; congr 1; ring
      _ ≤ 2 ^ (i - j + 1) * q.den := mul_le_mul_of_nonneg_left hden_ge (two_zpow_pos _).le
  dsimp only
  rw [twoPow_eq_zpow]
  split
  · exact ⟨‹_›, hhigh⟩
  · refine ⟨hlow.le, ?_⟩
    rw [sub_add_cancel]
    exact lt_of_not_ge ‹_›

/-! ### Whole numbers -/

theorem roundHalfEven_eq (q : Rat) :
    roundHalfEven q =
      if Int.fract q < 1 / 2 then ⌊q⌋
      else if 1 / 2 < Int.fract q then ⌊q⌋ + 1
      else if ⌊q⌋ % 2 = 0 then ⌊q⌋
      else ⌊q⌋ + 1 := by
  have hden : (0 : Rat) < q.den := by exact_mod_cast q.den_pos
  have hfloor : q.num / q.den = ⌊q⌋ := Rat.floor_def'.symm
  have hrest : Int.fract q = ((q.num % q.den : Int) : Rat) / q.den := by
    have hsum : (q.num : Rat) = q.den * ⌊q⌋ + ((q.num % q.den : Int) : Rat) := by
      rw [← hfloor]
      exact_mod_cast (Int.mul_ediv_add_emod q.num q.den).symm
    rw [Int.fract, eq_div_iff hden.ne', sub_mul, Rat.mul_den_eq_num]
    linarith
  have hless : Int.fract q < 1 / 2 ↔ 2 * (q.num % q.den) < (q.den : Int) := by
    rw [hrest, div_lt_div_iff₀ hden (by norm_num), one_mul, mul_comm]
    exact_mod_cast Iff.rfl
  have hmore : 1 / 2 < Int.fract q ↔ (q.den : Int) < 2 * (q.num % q.den) := by
    rw [hrest, div_lt_div_iff₀ (by norm_num) hden, one_mul, mul_comm (_ : Rat) 2]
    exact_mod_cast Iff.rfl
  unfold roundHalfEven
  simp only [hfloor, hless, hmore]

theorem abs_roundHalfEven_sub_le (q : Rat) : |(roundHalfEven q : Rat) - q| ≤ 1 / 2 := by
  have hsum := Int.floor_add_fract q
  have hnonneg := Int.fract_nonneg q
  have hlt := Int.fract_lt_one q
  rw [roundHalfEven_eq, abs_le]
  split_ifs
  all_goals push_cast; constructor <;> linarith

/-- Another whole number is at least a half away, and if it is not farther then the one that is
chosen is even. -/
theorem even_roundHalfEven {q : Rat} {k : Int} (hne : k ≠ roundHalfEven q)
    (htie : |(k : Rat) - q| ≤ 1 / 2) : Even (roundHalfEven q) := by
  have hsum := Int.floor_add_fract q
  have hnonneg := Int.fract_nonneg q
  have hlt := Int.fract_lt_one q
  obtain ⟨hlow, hhigh⟩ := abs_le.mp htie
  have hk : k = ⌊q⌋ ∨ k = ⌊q⌋ + 1 := by
    have h1 : ⌊q⌋ - 1 < k := by
      have : ((⌊q⌋ - 1 : Int) : Rat) < k := by push_cast; linarith
      exact_mod_cast this
    have h2 : k < ⌊q⌋ + 2 := by
      have : (k : Rat) < ((⌊q⌋ + 2 : Int) : Rat) := by push_cast; linarith
      exact_mod_cast this
    omega
  rw [roundHalfEven_eq] at hne ⊢
  split_ifs at hne ⊢ with hless hmore heven
  · obtain rfl := hk.resolve_left hne
    push_cast at hhigh
    linarith
  · obtain rfl := hk.resolve_right hne
    linarith
  · exact Int.even_iff.mpr heven
  · rw [Int.even_iff]
    omega

theorem abs_roundHalfEven_sub_le_abs_sub (q : Rat) (k : Int) :
    |(roundHalfEven q : Rat) - q| ≤ |(k : Rat) - q| := by
  have hhalf := abs_roundHalfEven_sub_le q
  by_cases hk : k = roundHalfEven q
  · rw [hk]
  · have hint : 1 ≤ |k - roundHalfEven q| := Int.one_le_abs (sub_ne_zero.mpr hk)
    have hone : (1 : Rat) ≤ |(k : Rat) - roundHalfEven q| := by exact_mod_cast hint
    have htriangle := abs_sub_le (k : Rat) q (roundHalfEven q)
    rw [abs_sub_comm q] at htriangle
    linarith

/-! ### Doubles -/

/-- Whether a number has a significand: it is this whole number, of at most 53 bits, times a power
of two. The doubles are the numbers with a significand that are less than two to the power of
1024. -/
def HasSignificand (v : Rat) (m : Int) : Prop :=
  |m| < 2 ^ 53 ∧ ∃ e : Int, -1074 ≤ e ∧ v = m * 2 ^ e

/-- Whether a number is rounded to another one: that one has a significand, none that has is nearer,
and if one is as near then the significand is even. -/
structure RoundsTo (q v : Rat) : Prop where
  hasSignificand : ∃ m, HasSignificand v m
  nearest : ∀ w m, HasSignificand w m → |v - q| ≤ |w - q|
  even : ∀ w m, HasSignificand w m → w ≠ v → |w - q| = |v - q| → ∃ m, HasSignificand v m ∧ Even m

/-- The number that a number is rounded to if there is no bound above. -/
def rounded (q : Rat) : Rat :=
  roundHalfEven (q / 2 ^ spacing q) * 2 ^ spacing q

theorem neg_1074_le_spacing (q : Rat) : -1074 ≤ spacing q :=
  le_max_left _ _

/-- A number has at most 53 bits in units of its spacing, and all of these unless the spacing is the
least one. -/
theorem spacing_bounds {q : Rat} (hq : q ≠ 0) :
    |q| < 2 ^ 53 * 2 ^ spacing q ∧ (spacing q = -1074 ∨ 2 ^ 52 * 2 ^ spacing q ≤ |q|) := by
  obtain ⟨hlow, hhigh⟩ := binaryExponent_bounds (abs_pos.mpr hq)
  have hpow : ∀ (n : Nat) (k : Int), (2 : Rat) ^ n * 2 ^ k = 2 ^ ((n : Int) + k) := fun n k => by
    rw [zpow_add₀ (by norm_num), zpow_natCast]
  rw [hpow, hpow]
  unfold spacing
  rw [abs_eq]
  generalize binaryExponent |q| = b at *
  refine ⟨hhigh.trans_le (two_zpow_le ?_), ?_⟩
  · push_cast
    omega
  · by_cases hb : b - 52 ≤ -1074
    · exact .inl (max_eq_left hb)
    · refine .inr ((two_zpow_le ?_).trans hlow)
      push_cast
      omega

theorem exists_hasSignificand {n s : Int} (hn : |n| ≤ 2 ^ 53) (hs : -1074 ≤ s) :
    ∃ m, HasSignificand (n * 2 ^ s) m ∧ (Even n → Even m) := by
  rcases lt_or_eq_of_le hn with hlt | heq
  · exact ⟨n, ⟨hlt, s, hs, rfl⟩, id⟩
  · -- one bit too many, all of them zeros but the first
    have hhalf : n = 2 * (n / 2) ∧ |n / 2| < 2 ^ 53 ∧ n / 2 % 2 = 0 := by
      rcases abs_choice n with h | h
      · rw [h] at heq
        subst heq
        decide
      · rw [h] at heq
        obtain rfl : n = -2 ^ 53 := by omega
        decide
    obtain ⟨hn2, hsmall, heven⟩ := hhalf
    refine ⟨n / 2, ⟨hsmall, s + 1, by omega, ?_⟩, fun _ => Int.even_iff.mpr heven⟩
    have hcast : (n : Rat) = 2 * ((n / 2 : Int) : Rat) := by exact_mod_cast hn2
    rw [hcast, zpow_add_one₀ (by norm_num)]
    ring

/-- In units that are not coarser than its own, a number with a significand is whole. -/
theorem exists_eq_mul_of_coarser {m e s : Int} (h : s ≤ e) :
    ∃ k : Int, (m : Rat) * 2 ^ e = k * 2 ^ s ∧ (Even m → Even k) := by
  obtain ⟨n, hn⟩ := Int.eq_ofNat_of_zero_le (sub_nonneg.mpr h)
  refine ⟨m * 2 ^ n, ?_, fun hm => hm.mul_right _⟩
  have he : e = (n : Int) + s := by omega
  rw [he, zpow_add₀ (by norm_num), zpow_natCast]
  push_cast
  ring

/-- In units of the spacing a number is as far from what it is rounded to as its quotient is. -/
theorem abs_mul_sub (q : Rat) (k : Int) :
    |(k : Rat) * 2 ^ spacing q - q| = |(k : Rat) - q / 2 ^ spacing q| * 2 ^ spacing q := by
  have hunit := two_zpow_pos (spacing q)
  have hq : (k : Rat) * 2 ^ spacing q - q = (k - q / 2 ^ spacing q) * 2 ^ spacing q := by
    field_simp
  rw [hq, abs_mul, abs_of_pos hunit]

theorem abs_rounded_sub_le (q : Rat) (k : Int) :
    |rounded q - q| ≤ |(k : Rat) * 2 ^ spacing q - q| := by
  rw [rounded, abs_mul_sub, abs_mul_sub]
  exact mul_le_mul_of_nonneg_right (abs_roundHalfEven_sub_le_abs_sub _ k) (two_zpow_pos _).le

theorem abs_rounded_sub_le_half (q : Rat) : |rounded q - q| ≤ 1 / 2 * 2 ^ spacing q := by
  rw [rounded, abs_mul_sub]
  exact mul_le_mul_of_nonneg_right (abs_roundHalfEven_sub_le _) (two_zpow_pos _).le

/-- Numbers that are spaced more closely are farther than the one that is chosen. -/
theorem lt_abs_sub_of_finer {q : Rat} (hq : q ≠ 0) {m e : Int} (hm : |m| < 2 ^ 53) (he : -1074 ≤ e)
    (hfiner : e < spacing q) : |rounded q - q| < |(m : Rat) * 2 ^ e - q| := by
  have hlarge : 2 ^ 52 * 2 ^ spacing q ≤ |q| :=
    (spacing_bounds hq).2.resolve_left fun h => by omega
  have hsmall : |(m : Rat) * 2 ^ e| < 2 ^ 52 * 2 ^ spacing q := by
    have hm' : |(m : Rat)| < 2 ^ 53 := by exact_mod_cast hm
    calc |(m : Rat) * 2 ^ e| = |(m : Rat)| * 2 ^ e := by rw [abs_mul, abs_of_pos (two_zpow_pos e)]
      _ < 2 ^ 53 * 2 ^ e := mul_lt_mul_of_pos_right hm' (two_zpow_pos e)
      _ = 2 ^ 52 * 2 ^ (e + 1) := by rw [zpow_add_one₀ (by norm_num)]; ring
      _ ≤ 2 ^ 52 * 2 ^ spacing q :=
          mul_le_mul_of_nonneg_left (two_zpow_le hfiner) (by positivity)
  -- the least number of the same spacing and sign lies in between
  have hbetween : |rounded q - q| ≤ |q| - 2 ^ 52 * 2 ^ spacing q := by
    rcases lt_or_gt_of_ne hq with hneg | hpos
    · refine (abs_rounded_sub_le q (-2 ^ 52)).trans_eq ?_
      rw [abs_of_neg hneg] at hlarge ⊢
      push_cast
      rw [abs_of_nonneg (by linarith)]
      ring
    · refine (abs_rounded_sub_le q (2 ^ 52)).trans_eq ?_
      rw [abs_of_pos hpos] at hlarge ⊢
      push_cast
      rw [abs_of_nonpos (by linarith)]
      ring
  have htriangle := abs_sub_abs_le_abs_sub q (m * 2 ^ e)
  rw [abs_sub_comm q] at htriangle
  linarith

theorem rounded_zero : rounded 0 = 0 := by
  have hzero : roundHalfEven 0 = 0 := by decide
  rw [rounded, zero_div, hzero, Int.cast_zero, zero_mul]

theorem roundsTo_rounded (q : Rat) : RoundsTo q (rounded q) := by
  by_cases hq : q = 0
  · subst hq
    rw [rounded_zero]
    have hzero : HasSignificand 0 0 := ⟨by decide, 0, by decide, by simp⟩
    refine ⟨⟨0, hzero⟩, fun w m _ => ?_, fun _ _ _ _ _ => ⟨0, hzero, 0, rfl⟩⟩
    rw [sub_zero, abs_zero]
    exact abs_nonneg _
  have hbits : |roundHalfEven (q / 2 ^ spacing q)| ≤ 2 ^ 53 := by
    have hhalf := abs_le.mp (abs_roundHalfEven_sub_le (q / 2 ^ spacing q))
    have hlt : |q / 2 ^ spacing q| < 2 ^ 53 := by
      rw [abs_div, abs_of_pos (two_zpow_pos (spacing q)), div_lt_iff₀ (two_zpow_pos _)]
      exact (spacing_bounds hq).1
    obtain ⟨hlow, hhigh⟩ := abs_lt.mp hlt
    have hup : (roundHalfEven (q / 2 ^ spacing q) : Rat) < ((2 ^ 53 + 1 : Int) : Rat) := by
      push_cast
      linarith
    have hdown : ((-2 ^ 53 - 1 : Int) : Rat) < roundHalfEven (q / 2 ^ spacing q) := by
      push_cast
      linarith
    have hup' := Int.cast_lt.mp hup
    have hdown' := Int.cast_lt.mp hdown
    exact abs_le.mpr ⟨by omega, by omega⟩
  obtain ⟨m, hm, heven⟩ := exists_hasSignificand hbits (neg_1074_le_spacing q)
  refine ⟨⟨m, hm⟩, ?_, ?_⟩
  · rintro w n ⟨hn, e, he, rfl⟩
    rcases lt_or_ge e (spacing q) with hfiner | hcoarser
    · exact (lt_abs_sub_of_finer hq hn he hfiner).le
    · obtain ⟨k, hk, -⟩ := exists_eq_mul_of_coarser (m := n) hcoarser
      rw [hk]
      exact abs_rounded_sub_le q k
  · rintro w n ⟨hn, e, he, rfl⟩ hne htie
    rcases lt_or_ge e (spacing q) with hfiner | hcoarser
    · exact absurd htie (lt_abs_sub_of_finer hq hn he hfiner).ne'
    · obtain ⟨k, hk, -⟩ := exists_eq_mul_of_coarser (m := n) hcoarser
      have hunit := two_zpow_pos (spacing q)
      rw [hk] at hne htie
      refine ⟨m, hm, heven (even_roundHalfEven (k := k) ?_ ?_)⟩
      · rintro rfl
        exact hne rfl
      · rw [rounded, abs_mul_sub, abs_mul_sub] at htie
        rw [mul_right_cancel₀ hunit.ne' htie]
        exact abs_roundHalfEven_sub_le _

/-- There is one number only that a number is rounded to. -/
theorem roundsTo_iff {q v : Rat} : RoundsTo q v ↔ v = rounded q := by
  refine ⟨fun h => ?_, fun h => h ▸ roundsTo_rounded q⟩
  have hchosen := roundsTo_rounded q
  by_contra hne
  obtain ⟨m, hm⟩ := h.hasSignificand
  obtain ⟨n, hn⟩ := hchosen.hasSignificand
  have htie : |rounded q - q| = |v - q| := le_antisymm (hchosen.nearest v m hm) (h.nearest _ n hn)
  by_cases hq : q = 0
  · rw [hq, rounded_zero, sub_zero, abs_zero] at htie
    rw [hq, rounded_zero] at hne
    have hzero : v - 0 = 0 := abs_eq_zero.mp htie.symm
    exact hne (by linarith)
  -- two even neighbours are two units apart, and cannot both be within half a unit
  obtain ⟨m', ⟨hm', e, he, rfl⟩, heven⟩ := h.even _ n hn (Ne.symm hne) htie
  rcases lt_or_ge e (spacing q) with hfiner | hcoarser
  · exact absurd htie (lt_abs_sub_of_finer hq hm' he hfiner).ne
  · obtain ⟨k, hk, hkeven⟩ := exists_eq_mul_of_coarser (m := m') hcoarser
    have hunit := two_zpow_pos (spacing q)
    have hhalf := abs_roundHalfEven_sub_le (q / 2 ^ spacing q)
    rw [hk] at hne htie
    rw [rounded, abs_mul_sub, abs_mul_sub] at htie
    have hsame := mul_right_cancel₀ hunit.ne' htie
    have hkne : k ≠ roundHalfEven (q / 2 ^ spacing q) := by
      rintro rfl
      exact hne rfl
    have hkhalf : |(k : Rat) - q / 2 ^ spacing q| ≤ 1 / 2 := hsame ▸ hhalf
    have hround := even_roundHalfEven hkne hkhalf
    obtain ⟨hlow, hhigh⟩ := abs_le.mp hhalf
    obtain ⟨hklow, hkhigh⟩ := abs_le.mp hkhalf
    have hnear : |k - roundHalfEven (q / 2 ^ spacing q)| ≤ 1 := by
      have hcast : |(k : Rat) - roundHalfEven (q / 2 ^ spacing q)| ≤ 1 :=
        abs_le.mpr ⟨by linarith, by linarith⟩
      exact_mod_cast hcast
    obtain ⟨a, ha⟩ := hkeven heven
    obtain ⟨b, hb⟩ := hround
    obtain ⟨hleft, hright⟩ := abs_le.mp hnear
    omega

theorem HasSignificand.roundsTo {v : Rat} {m : Int} (h : HasSignificand v m) : RoundsTo v v := by
  have hnearest := (roundsTo_rounded v).nearest v m h
  rw [sub_self, abs_zero] at hnearest
  have hsame : rounded v - v = 0 := abs_eq_zero.mp (le_antisymm hnearest (abs_nonneg _))
  exact roundsTo_iff.mpr (by linarith)

theorem RoundsTo.mono {x y v w : Rat} (hxy : x ≤ y) (hv : RoundsTo x v) (hw : RoundsTo y w) :
    v ≤ w := by
  obtain ⟨m, hm⟩ := hv.hasSignificand
  obtain ⟨n, hn⟩ := hw.hasSignificand
  by_contra hlt
  rw [not_le] at hlt
  -- each is nearer to its number, so both numbers are in the middle
  have hx : w + v ≤ 2 * x := by
    by_contra hlow
    have hnear := hv.nearest w n hn
    rw [abs_of_pos (by linarith : 0 < v - x)] at hnear
    have hup : |w - x| < v - x := abs_lt.mpr ⟨by linarith, by linarith⟩
    linarith
  have hy : 2 * y ≤ w + v := by
    by_contra hhigh
    have hnear := hw.nearest v m hm
    rw [abs_of_neg (by linarith : w - y < 0)] at hnear
    have hup : |v - y| < -(w - y) := abs_lt.mpr ⟨by linarith, by linarith⟩
    linarith
  obtain rfl : x = y := by linarith
  rw [roundsTo_iff.mp hv, roundsTo_iff.mp hw] at hlt
  exact lt_irrefl _ hlt

/-! ### The bound above -/

theorem nearest_eq (q : Rat) :
    nearest q = if 2 ^ 1024 ≤ |rounded q| then .infinite (q.num < 0) else .finite (rounded q) := by
  have hbound : twoPow 1024 = 2 ^ 1024 := twoPow_eq_zpow 1024
  unfold nearest
  split
  · have hq : q = 0 := Rat.num_eq_zero.mp ‹_›
    rw [hq, rounded_zero, abs_zero, if_neg (not_le.mpr (by positivity))]
  · dsimp only
    rw [hbound, twoPow_eq_zpow, abs_eq]
    rfl

/-- A number gives a double if it is rounded to one that does not reach two to the power of 1024. -/
theorem nearest_eq_finite_iff {q v : Rat} :
    nearest q = .finite v ↔ RoundsTo q v ∧ |v| < 2 ^ 1024 := by
  rw [nearest_eq, roundsTo_iff]
  split
  · rename_i hlarge
    refine iff_of_false (fun h => by cases h) ?_
    rintro ⟨rfl, hsmall⟩
    exact absurd hsmall (not_lt.mpr hlarge)
  · rename_i hsmall
    constructor
    · intro h
      obtain rfl := Binary64.finite.inj h
      exact ⟨rfl, not_le.mp hsmall⟩
    · rintro ⟨rfl, -⟩
      rfl

/-! ### Cutting towards zero -/

theorem truncate_of_nonneg {q : Rat} (h : 0 ≤ q) : truncate q = ⌊q⌋ := by
  rw [truncate, Rat.floor_def']
  exact Int.tdiv_eq_ediv_of_nonneg (Rat.num_nonneg.mpr h)

theorem truncate_neg (q : Rat) : truncate (-q) = -truncate q := by
  rw [truncate, truncate, Rat.neg_num, Rat.neg_den, Int.neg_tdiv]

theorem truncate_of_nonpos {q : Rat} (h : q ≤ 0) : truncate q = ⌈q⌉ := by
  have hneg := truncate_of_nonneg (neg_nonneg.mpr h)
  rw [truncate_neg, Int.floor_neg] at hneg
  omega

theorem truncate_mono {x y : Rat} (h : x ≤ y) : truncate x ≤ truncate y := by
  rcases le_total 0 x with hx | hx
  · rw [truncate_of_nonneg hx, truncate_of_nonneg (hx.trans h)]
    exact Int.floor_le_floor h
  · rcases le_total 0 y with hy | hy
    · rw [truncate_of_nonpos hx, truncate_of_nonneg hy]
      have hleft : ⌈x⌉ ≤ 0 := Int.ceil_le.mpr (by exact_mod_cast hx)
      exact hleft.trans (Int.floor_nonneg.mpr hy)
    · rw [truncate_of_nonpos hx, truncate_of_nonpos hy]
      exact Int.ceil_le_ceil h

theorem abs_truncate_sub_lt (q : Rat) : |(truncate q : Rat) - q| < 1 := by
  rw [abs_lt]
  rcases le_total 0 q with hq | hq
  · have hle := Int.floor_le q
    have hlt := Int.lt_floor_add_one q
    rw [truncate_of_nonneg hq]
    constructor <;> linarith
  · have hle := Int.le_ceil q
    have hlt := Int.ceil_lt_add_one q
    rw [truncate_of_nonpos hq]
    constructor <;> linarith

theorem truncate_intCast (n : Int) : truncate n = n := by
  simp [truncate]

theorem truncate_eq_zero {q : Rat} (h : |q| < 1) : truncate q = 0 := by
  obtain ⟨hlow, hhigh⟩ := abs_lt.mp h
  rcases le_total 0 q with hq | hq
  · rw [truncate_of_nonneg hq, Int.floor_eq_zero_iff]
    exact ⟨hq, hhigh⟩
  · rw [truncate_of_nonpos hq, Int.ceil_eq_zero_iff]
    exact ⟨hlow, hq⟩

/-! ### What is lost -/

/-- What is rounded at full precision is off by a small part of itself. -/
theorem abs_sub_le_of_roundsTo {q v : Rat} (h : RoundsTo q v) (hq : 2 ^ (-1022 : Int) ≤ |q|) :
    |v - q| ≤ 2 ^ (-53 : Int) * |q| := by
  have hne : q ≠ 0 := abs_pos.mp ((two_zpow_pos _).trans_le hq)
  obtain ⟨hlow, hhigh⟩ := binaryExponent_bounds (abs_pos.mpr hne)
  have hexponent : -1022 ≤ binaryExponent |q| := by
    have hlt := hq.trans_lt hhigh
    have := (zpow_lt_zpow_iff_right₀ (by norm_num : (1 : Rat) < 2)).mp hlt
    omega
  have hspacing : spacing q = binaryExponent |q| - 52 := by
    rw [spacing, abs_eq]
    exact max_eq_right (by omega)
  have hhalf := abs_rounded_sub_le_half q
  rw [← roundsTo_iff.mp h, hspacing] at hhalf
  calc |v - q| ≤ 1 / 2 * 2 ^ (binaryExponent |q| - 52) := hhalf
    _ = 2 ^ (-53 : Int) * 2 ^ binaryExponent |q| := by
        rw [← zpow_add₀ (by norm_num), show (1 / 2 : Rat) = 2 ^ (-1 : Int) by norm_num,
          ← zpow_add₀ (by norm_num)]
        congr 1
        ring
    _ ≤ 2 ^ (-53 : Int) * |q| := mul_le_mul_of_nonneg_left hlow (two_zpow_pos _).le

/-- **What is rounded and then cut is off by less than one and a small part of itself.** Below full
precision it is next to zero, where nothing is left after the cut. -/
theorem abs_truncate_sub_lt_of_roundsTo {q v : Rat} (h : RoundsTo q v) :
    |(truncate v : Rat) - q| < 1 + 2 ^ (-53 : Int) * |q| := by
  rcases le_or_gt (2 ^ (-1022 : Int)) |q| with hfull | htiny
  · have hround := abs_sub_le_of_roundsTo h hfull
    have hcut := abs_truncate_sub_lt v
    have htriangle := abs_sub_le (truncate v : Rat) v q
    linarith
  · have hzero : HasSignificand 0 0 := ⟨by decide, 0, by decide, by simp⟩
    have hnear := h.nearest 0 0 hzero
    rw [zero_sub, abs_neg] at hnear
    have hhalf : |q| < 1 / 2 :=
      calc |q| < 2 ^ (-1022 : Int) := htiny
        _ ≤ 2 ^ (-1 : Int) := two_zpow_le (by decide)
        _ = 1 / 2 := by norm_num
    have htriangle := abs_add_le (v - q) q
    rw [sub_add_cancel] at htriangle
    have hpart : 0 ≤ 2 ^ (-53 : Int) * |q| := by positivity
    rw [truncate_eq_zero (by linarith), Int.cast_zero, zero_sub, abs_neg]
    linarith

end SignedHttp.Number
