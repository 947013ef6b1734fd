import SignedHttp.Calendar

/-!
# Days back from dates

The day of a date is counted from the first of March of its year: the days of all
years before it, by the leap year rule, and those of the months from March on. It gives
back the day that a date was made from (`toDay_ofDay`), so different days have
different dates.

Key definitions: `Date.toDay`.
Key theorems: `Date.toDay_ofDay`.
-/

namespace SignedHttp.Date

/-- The first of March of a year, as a day counted from the start of 1970. -/
def marchFirst (year : Int) : Int :=
  365 * year + year / 4 - year / 100 + year / 400 - epochDay

/-- The days of the first months, given the lengths of all of them. -/
def monthDays : List Nat → Nat → Nat
  | _, 0 => 0
  | [], _ + 1 => 0
  | length :: rest, month + 1 => length + monthDays rest month

/-- The day of a date, counted from the start of 1970. -/
def toDay (date : Date) : Int :=
  if date.month < 3 then
    marchFirst (date.year - 1) + monthDays monthLengths (date.month + 9) + (date.day - 1)
  else marchFirst date.year + monthDays monthLengths (date.month - 3) + (date.day - 1)

theorem split_eq (unit most count : Nat) :
    (split unit most count).1 * unit + (split unit most count).2 = count := by
  have : min most (count / unit) * unit ≤ count :=
    Nat.le_trans (Nat.mul_le_mul_right unit (Nat.min_le_right _ _)) (Nat.div_mul_le_self count unit)
  simp only [split]
  omega

theorem split_fst (unit most count : Nat) :
    (split unit most count).1 = min most (count / unit) := rfl

/-- The months before the one that holds a day, and the day within it, make up the day. -/
theorem monthOf_sum : ∀ (lengths : List Nat) (day : Nat),
    (monthOf lengths day).1 ≤ lengths.length ∧
      monthDays lengths (monthOf lengths day).1 + (monthOf lengths day).2 = day
  | [], _ => by simp [monthOf, monthDays]
  | length :: lengths, day => by
    simp only [monthOf]
    split
    · simp [monthDays]
    · have := monthOf_sum lengths (day - length)
      simp only [List.length_cons, monthDays]
      omega

/-- The leap year rule counts one day more for each four-year group, but not for the
last of a century, unless that ends a period. -/
theorem marchFirst_period (period : Int) {century group year : Nat} (hc : century ≤ 3)
    (hg : group ≤ 24) (hy : year ≤ 3) :
    marchFirst (400 * period + Int.ofNat (100 * century + 4 * group + year)) =
      146097 * period + 36524 * century + 1461 * group + 365 * year - epochDay := by
  unfold marchFirst
  simp only [Int.ofNat_eq_natCast]
  omega

/-- **A date gives back its day.** -/
theorem toDay_ofDay (day : Int) : toDay (ofDay day) = day := by
  have hday : day + epochDay = 146097 * ((day + epochDay) / periodDays) +
      ((day + epochDay) % periodDays).toNat := by
    simp only [periodDays]
    omega
  have hrest : ((day + epochDay) % periodDays).toNat < 146097 := by
    simp only [periodDays]
    omega
  have hepoch : epochDay = 719468 := rfl
  unfold ofDay
  generalize (day + epochDay) / periodDays = period at *
  generalize ((day + epochDay) % periodDays).toNat = r at *
  have hcentury := split_eq 36524 3 r
  have hcentury' := split_fst 36524 3 r
  generalize split 36524 3 r = parts at *
  obtain ⟨century, r1⟩ := parts
  have hgroup := split_eq 1461 24 r1
  have hgroup' := split_fst 1461 24 r1
  simp only at hcentury hcentury' ⊢
  generalize split 1461 24 r1 = parts at *
  obtain ⟨group, r2⟩ := parts
  have hyear := split_eq 365 3 r2
  have hyear' := split_fst 365 3 r2
  simp only at hgroup hgroup' ⊢
  generalize split 365 3 r2 = parts at *
  obtain ⟨year, r3⟩ := parts
  simp only at hyear hyear' ⊢
  obtain ⟨hmonth, hsum⟩ := monthOf_sum monthLengths r3
  generalize monthOf monthLengths r3 = parts at *
  obtain ⟨month, d⟩ := parts
  have hm : month ≤ 11 := hmonth
  have hfirst := @marchFirst_period period century group year (by omega) (by omega) (by omega)
  simp only at hsum ⊢
  split
  · have hmonth3 : month + 3 - 3 = month := by omega
    simp only [toDay]
    rw [if_neg (by omega), hfirst, hmonth3]
    omega
  · have hmonth9 : month - 9 + 9 = month := by omega
    have hyear1 : ∀ y : Int, y + 1 - 1 = y := by omega
    simp only [toDay]
    rw [if_pos (by omega), hyear1, hfirst, hmonth9]
    omega

end SignedHttp.Date
