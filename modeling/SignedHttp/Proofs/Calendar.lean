import Mathlib.Tactic.IntervalCases
import SignedHttp.Calendar.Inverse

/-!
# Dates of the Gregorian calendar

Years have 365 days and one more in leap years, which are every fourth one, but not those that end a
century unless they end four centuries (`IsLeap`). The number of a date counts the days of the years
from 0 on, then those of the months of its year, then those of its month (`Date.number`). This says
nothing about how dates are found.

Dates are found in years that begin in March. A day lies in one of these, less than 366 days behind
its start, and behind 365 days only where the leap day ends it (`exists_ofMarch`). So what is found
is a date of the calendar (`isValid_ofDay`), and its number is that of the day (`number_ofDay`).

Key definitions: `Date.IsLeap`, `Date.monthLength`, `Date.IsValid`, `Date.number`, `Date.ofMarch`.
Key theorems: `Date.IsValid.number_inj`, `Date.exists_ofMarch`, `Date.isValid_ofDay`,
`Date.number_ofDay`, `Date.year_ofDay`, `Date.IsValid.ofDay_number`.
-/

namespace SignedHttp.Date

/-! ### The calendar -/

def IsLeap (year : Int) : Prop :=
  4 ∣ year ∧ (100 ∣ year → 400 ∣ year)

instance : DecidablePred IsLeap := fun year =>
  inferInstanceAs (Decidable (4 ∣ year ∧ (100 ∣ year → 400 ∣ year)))

def yearLength (year : Int) : Nat :=
  if IsLeap year then 366 else 365

def monthLength (year : Int) (month : Nat) : Nat :=
  if month = 2 then if IsLeap year then 29 else 28
  else if month = 4 ∨ month = 6 ∨ month = 9 ∨ month = 11 then 30
  else 31

structure IsValid (date : Date) : Prop where
  month_pos : 1 ≤ date.month
  month_le : date.month ≤ 12
  day_pos : 1 ≤ date.day
  day_le : date.day ≤ monthLength date.year date.month

instance : DecidablePred IsValid := fun date =>
  decidable_of_iff (1 ≤ date.month ∧ date.month ≤ 12 ∧ 1 ≤ date.day ∧
      date.day ≤ monthLength date.year date.month)
    ⟨fun ⟨hmonth, hmonth', hday, hday'⟩ => ⟨hmonth, hmonth', hday, hday'⟩,
      fun h => ⟨h.month_pos, h.month_le, h.day_pos, h.day_le⟩⟩

/-- Days of the years from 0 on, up to the start of a year. -/
def daysOfYears : Nat → Nat
  | 0 => 0
  | year + 1 => daysOfYears year + yearLength year

def daysOfMonths (year : Int) : Nat → Nat
  | 0 => 0
  | month + 1 => daysOfMonths year month + monthLength year (month + 1)

/-- The number of a date, counted from the start of the year 0. -/
def number (date : Date) : Int :=
  daysOfYears date.year.toNat + daysOfMonths date.year (date.month - 1) + date.day

def epoch : Date := ⟨1970, 1, 1⟩

def first : Date := ⟨1, 1, 1⟩

def last : Date := ⟨9999, 12, 31⟩

/-! ### Numbers of dates -/

theorem daysOfYears_mono : Monotone daysOfYears :=
  monotone_nat_of_le_succ fun _ => Nat.le_add_right _ _

theorem daysOfMonths_mono (year : Int) : Monotone (daysOfMonths year) :=
  monotone_nat_of_le_succ fun _ => Nat.le_add_right _ _

theorem daysOfMonths_twelve (year : Int) : daysOfMonths year 12 = yearLength year := by
  by_cases hleap : IsLeap year
  · simp [daysOfMonths, monthLength, yearLength, hleap]
  · simp [daysOfMonths, monthLength, yearLength, hleap]

namespace IsValid

variable {date other : Date}

theorem le_daysOfMonths (h : date.IsValid) :
    daysOfMonths date.year (date.month - 1) + date.day ≤ daysOfMonths date.year date.month := by
  have hmonth : date.month = date.month - 1 + 1 := by
    have := h.month_pos
    omega
  have hday := h.day_le
  rw [hmonth, daysOfMonths, ← hmonth]
  omega

theorem number_le (h : date.IsValid) (hyear : 0 ≤ date.year) :
    date.number ≤ daysOfYears (date.year.toNat + 1) := by
  have hmonth := h.le_daysOfMonths
  have htwelve := daysOfMonths_mono date.year h.month_le
  have hcast : ((date.year.toNat : Nat) : Int) = date.year := Int.toNat_of_nonneg hyear
  rw [daysOfMonths_twelve] at htwelve
  rw [number, daysOfYears, hcast]
  omega

theorem lt_number (h : date.IsValid) : daysOfYears date.year.toNat < date.number := by
  have hday := h.day_pos
  rw [number]
  omega

/-- A date with no greater number is in no later year. -/
theorem year_le (h : date.IsValid) (hother : other.IsValid) (hyear : 0 ≤ other.year)
    (hle : date.number ≤ other.number) : date.year ≤ other.year := by
  by_contra hlater
  have hnext : other.year.toNat + 1 ≤ date.year.toNat := by omega
  have hyears : daysOfYears (other.year.toNat + 1) ≤ daysOfYears date.year.toNat :=
    daysOfYears_mono hnext
  have hfirst := h.lt_number
  have hlast := hother.number_le hyear
  omega

theorem month_le_of_year_eq (h : date.IsValid) (hother : other.IsValid)
    (hyear : date.year = other.year) (hle : date.number ≤ other.number) :
    date.month ≤ other.month := by
  by_contra hlater
  have hnext : other.month ≤ date.month - 1 := by omega
  have hmonths := daysOfMonths_mono other.year hnext
  have hfirst := h.day_pos
  have hlast := hother.le_daysOfMonths
  rw [number, number, hyear] at hle
  omega

theorem number_inj (h : date.IsValid) (hother : other.IsValid) (hyear : 0 ≤ date.year)
    (hyear' : 0 ≤ other.year) (hnumber : date.number = other.number) : date = other := by
  have hyears : date.year = other.year :=
    le_antisymm (h.year_le hother hyear' hnumber.le) (hother.year_le h hyear hnumber.ge)
  have hmonths : date.month = other.month :=
    le_antisymm (h.month_le_of_year_eq hother hyears hnumber.le)
      (hother.month_le_of_year_eq h hyears.symm hnumber.ge)
  obtain ⟨year, month, day⟩ := date
  obtain ⟨year', month', day'⟩ := other
  dsimp only at hyears hmonths
  subst hyears hmonths
  simp only [number] at hnumber
  have hdays : day = day' := by omega
  rw [hdays]

end IsValid

/-! ### Years from March -/

theorem isLeap_iff (year : Int) :
    IsLeap year ↔ year % 4 = 0 ∧ (year % 100 = 0 → year % 400 = 0) := by
  rw [IsLeap]
  omega

/-- From one first of March to the next it is as long as the year that the next one lies in. -/
theorem marchFirst_eq_add (year : Int) :
    marchFirst year = marchFirst (year - 1) + yearLength year := by
  rw [marchFirst, marchFirst, yearLength]
  split
  · rename_i hleap
    rw [isLeap_iff] at hleap
    omega
  · rename_i hleap
    rw [isLeap_iff] at hleap
    omega

/-- The start of a year lies 306 days behind the first of March before, and that of the year 0 lies
60 days before the first of March of the year 0. -/
theorem daysOfYears_eq (year : Nat) :
    (daysOfYears year : Int) = marchFirst (year - 1) + 306 + (epochDay + 60) := by
  induction year with
  | zero => rfl
  | succ year ih =>
    have hmarch := marchFirst_eq_add year
    rw [daysOfYears]
    push_cast
    rw [add_sub_cancel_right]
    omega

theorem marchFirst_eq (year : Int) :
    marchFirst year = marchFirst (year - 1) + 306 + 31 + monthLength year 2 := by
  have hlength : yearLength year = 306 + 31 + monthLength year 2 := by
    rw [yearLength, monthLength, if_pos rfl]
    split <;> rfl
  have hmarch := marchFirst_eq_add year
  omega

/-- The date of a day of a year that begins in March. -/
def ofMarch (year : Int) (rest : Nat) : Date :=
  let (month, day) := monthOf monthLengths rest
  if month < 10 then ⟨year, month + 3, day + 1⟩ else ⟨year + 1, month - 9, day + 1⟩

/-- The month that holds a day is longer than the days before it. -/
theorem monthOf_snd_lt : ∀ {lengths : List Nat} {day length : Nat},
    lengths[(monthOf lengths day).1]? = some length → (monthOf lengths day).2 < length
  | [], _, _, h => by cases h
  | first :: lengths, day, length, h => by
    rw [monthOf] at h ⊢
    split
    · rename_i hday
      rw [if_pos hday] at h
      exact Option.some.inj h ▸ hday
    · rename_i hday
      rw [if_neg hday] at h
      exact monthOf_snd_lt h

/-- Less than a whole unit is left, unless there are as many as may be. -/
theorem split_parts {unit most count whole rest : Nat} (hunit : 0 < unit)
    (h : split unit most count = (whole, rest)) :
    whole ≤ most ∧ whole * unit + rest = count ∧ (whole < most → rest < unit) := by
  have hsum := split_eq unit most count
  have hwhole := split_fst unit most count
  rw [h] at hsum hwhole
  dsimp only at hsum hwhole
  refine ⟨hwhole ▸ Nat.min_le_left _ _, hsum, fun hless => ?_⟩
  have hdiv : whole = count / unit := by omega
  have hmod : whole * unit + count % unit = count := by
    rw [hdiv]
    exact Nat.div_add_mod' count unit
  have hrest : rest = count % unit := by omega
  exact hrest ▸ Nat.mod_lt count hunit

/-- A day lies in a year that begins in March. Only a year that a leap day ends has a day behind 365
others. -/
theorem exists_ofMarch (day : Int) : ∃ (year : Int) (rest : Nat),
    ofDay day = ofMarch year rest ∧ day = marchFirst year + rest ∧ rest ≤ 365 ∧
      (rest = 365 → IsLeap (year + 1)) := by
  obtain ⟨period, hperiod⟩ : ∃ period, (day + epochDay) / periodDays = period := ⟨_, rfl⟩
  obtain ⟨count, hcount⟩ : ∃ count, ((day + epochDay) % periodDays).toNat = count := ⟨_, rfl⟩
  obtain ⟨⟨century, inCentury⟩, hcentury⟩ : ∃ parts, split 36524 3 count = parts := ⟨_, rfl⟩
  obtain ⟨⟨group, inGroup⟩, hgroup⟩ : ∃ parts, split 1461 24 inCentury = parts := ⟨_, rfl⟩
  obtain ⟨⟨year, rest⟩, hyear⟩ : ∃ parts, split 365 3 inGroup = parts := ⟨_, rfl⟩
  have hfound : ofDay day =
      ofMarch (400 * period + Int.ofNat (100 * century + 4 * group + year)) rest := by
    rw [ofDay, hperiod, hcount]
    dsimp only
    rw [hcentury]
    dsimp only
    rw [hgroup]
    dsimp only
    rw [hyear]
    dsimp only
    rw [ofMarch]
  rw [periodDays] at hperiod hcount
  obtain ⟨hcentury, hcenturies, hshortCentury⟩ := split_parts (by decide) hcentury
  obtain ⟨hgroup, hgroups, hshortGroup⟩ := split_parts (by decide) hgroup
  obtain ⟨hyear, hyears, hshortYear⟩ := split_parts (by decide) hyear
  have hfirst := marchFirst_period period hcentury hgroup hyear
  refine ⟨_, rest, hfound, ?_, ?_, fun hlast => ?_⟩
  · rw [hfirst]
    omega
  · omega
  · have hlastYear : year = 3 := by omega
    have hlastGroup : group = 24 → century = 3 := by omega
    rw [isLeap_iff, Int.ofNat_eq_natCast]
    omega

/-! ### Months from March -/

theorem getElem?_monthLengths (year : Int) {month : Nat} (h : month ≤ 9) :
    monthLengths[month]? = some (monthLength year (month + 3)) := by
  interval_cases month <;> rfl

theorem monthDays_succ : ∀ {lengths : List Nat} {month length : Nat},
    lengths[month]? = some length →
      monthDays lengths (month + 1) = monthDays lengths month + length
  | [], _, _, h => by cases h
  | first :: lengths, 0, length, h => by
    rw [Option.some.inj h, monthDays, monthDays, monthDays]
    omega
  | first :: lengths, month + 1, length, h => by
    have hrest : lengths[month]? = some length := h
    rw [monthDays, monthDays, monthDays_succ hrest, Nat.add_assoc]

/-- Behind January and February lie the months from March on. -/
theorem daysOfMonths_add_two (year : Int) : ∀ {month : Nat}, month ≤ 10 →
    daysOfMonths year (month + 2) = 31 + monthLength year 2 + monthDays monthLengths month
  | 0, _ => by
    have hjanuary : monthLength year (0 + 1) = 31 := rfl
    rw [daysOfMonths, daysOfMonths, daysOfMonths, monthDays, hjanuary, Nat.zero_add]
    rfl
  | month + 1, h => by
    have hmonth : month ≤ 9 := by omega
    rw [daysOfMonths, daysOfMonths_add_two year (by omega),
      monthDays_succ (getElem?_monthLengths year hmonth), Nat.add_assoc]

/-- What a day of a year that begins in March can be: one of the months from March to December, or
one of the January or the February after them. -/
theorem ofMarch_cases (year : Int) (rest : Nat) :
    (∃ month day, month ≤ 9 ∧ ofMarch year rest = ⟨year, month + 3, day + 1⟩ ∧
      monthDays monthLengths month + day = rest ∧ day < monthLength year (month + 3)) ∨
    (∃ day, ofMarch year rest = ⟨year + 1, 1, day + 1⟩ ∧ 306 + day = rest ∧ day < 31) ∨
    ∃ day, ofMarch year rest = ⟨year + 1, 2, day + 1⟩ ∧ 337 + day = rest := by
  obtain ⟨⟨month, day⟩, hfound⟩ : ∃ parts, monthOf monthLengths rest = parts := ⟨_, rfl⟩
  obtain ⟨hmonth, hsum⟩ := monthOf_sum monthLengths rest
  have hday : ∀ length, monthLengths[month]? = some length → day < length := fun length h => by
    have hlt := @monthOf_snd_lt monthLengths rest length
    rw [hfound] at hlt
    exact hlt h
  rw [hfound] at hmonth hsum
  dsimp only at hmonth hsum
  have hlast : month ≤ 11 := hmonth
  rw [ofMarch, hfound]
  dsimp only
  by_cases hspring : month < 10
  · have hle : month ≤ 9 := by omega
    have hlength := hday _ (getElem?_monthLengths year hle)
    exact .inl ⟨month, day, hle, if_pos hspring, hsum, hlength⟩
  · rw [if_neg hspring]
    obtain rfl | rfl : month = 10 ∨ month = 11 := by omega
    · exact .inr (.inl ⟨day, rfl, hsum, hday 31 rfl⟩)
    · exact .inr (.inr ⟨day, rfl, hsum⟩)

/-! ### Dates of days -/

theorem isValid_ofMarch {year : Int} {rest : Nat} (hrest : rest ≤ 365)
    (hleap : rest = 365 → IsLeap (year + 1)) : (ofMarch year rest).IsValid := by
  rcases ofMarch_cases year rest with
    ⟨month, day, hmonth, hdate, -, hday⟩ | ⟨day, hdate, -, hday⟩ | ⟨day, hdate, hsum⟩
  · rw [hdate]
    have hpos : 1 ≤ month + 3 := by omega
    have hle : month + 3 ≤ 12 := by omega
    exact ⟨hpos, hle, Nat.le_add_left 1 day, hday⟩
  · rw [hdate]
    exact ⟨le_rfl, (by decide : 1 ≤ 12), Nat.le_add_left 1 day, hday⟩
  · rw [hdate]
    refine ⟨(by decide : 1 ≤ 2), (by decide : 2 ≤ 12), Nat.le_add_left 1 day, ?_⟩
    dsimp only
    rw [monthLength, if_pos rfl]
    split
    · omega
    · rename_i hcommon
      have hshort : rest ≠ 365 := fun hlast => hcommon (hleap hlast)
      omega

theorem number_ofMarch (year rest : Nat) :
    number (ofMarch year rest) = marchFirst year + rest + (epochDay + 61) := by
  have hyear : ((year : Int) + 1).toNat = year + 1 := by omega
  have hstart := daysOfYears_eq year
  have hnext := daysOfYears_eq (year + 1)
  have hmarch := marchFirst_eq year
  push_cast at hnext
  rw [add_sub_cancel_right] at hnext
  rcases ofMarch_cases year rest with
    ⟨month, day, hmonth, hdate, hsum, -⟩ | ⟨day, hdate, hsum, -⟩ | ⟨day, hdate, hsum⟩
  · have hmonths : daysOfMonths year (month + 2) = _ :=
      daysOfMonths_add_two year (Nat.le_succ_of_le hmonth)
    rw [hdate, number]
    dsimp only
    rw [Int.toNat_natCast, Nat.add_sub_assoc (by decide), hmonths]
    push_cast
    omega
  · rw [hdate, number]
    dsimp only
    rw [hyear]
    have hmonths : daysOfMonths ((year : Int) + 1) (1 - 1) = 0 := rfl
    rw [hmonths]
    omega
  · rw [hdate, number]
    dsimp only
    rw [hyear]
    have hmonths : daysOfMonths ((year : Int) + 1) (2 - 1) = 31 := rfl
    rw [hmonths]
    omega

theorem isValid_ofDay (day : Int) : (ofDay day).IsValid := by
  obtain ⟨year, rest, hfound, -, hrest, hleap⟩ := exists_ofMarch day
  rw [hfound]
  exact isValid_ofMarch hrest hleap

theorem number_epoch : epoch.number = 719529 := by
  have hyears := daysOfYears_eq 1970
  rw [marchFirst] at hyears
  change (daysOfYears 1970 : Int) + 0 + 1 = 719529
  omega

theorem number_first : first.number = 367 := rfl

theorem number_last : last.number = 3652425 := by
  have hyears := daysOfYears_eq 9999
  rw [marchFirst] at hyears
  have hmonths : daysOfMonths 9999 11 = 334 := by decide
  change (daysOfYears 9999 : Int) + daysOfMonths 9999 11 + 31 = 3652425
  omega

/-- The number of the date of a day is that of the epoch and the day together. -/
theorem number_ofDay {day : Int} (hfirst : first.number ≤ epoch.number + day) :
    (ofDay day).number = epoch.number + day ∧ 0 ≤ (ofDay day).year := by
  obtain ⟨year, rest, hfound, hday, hrest, -⟩ := exists_ofMarch day
  have hyear : 0 ≤ year := by
    rw [number_epoch, number_first] at hfirst
    rw [marchFirst, epochDay] at hday
    omega
  obtain ⟨year, rfl⟩ := Int.eq_ofNat_of_zero_le hyear
  rw [hfound, number_ofMarch, ← hday, number_epoch, epochDay]
  refine ⟨by omega, ?_⟩
  rcases ofMarch_cases year rest with ⟨month, _, -, hdate, -⟩ | ⟨_, hdate, -⟩ | ⟨_, hdate, -⟩
  all_goals
    rw [hdate]
    dsimp only
    omega

/-- The years from the first date to the last are those that can be written. -/
theorem year_ofDay {day : Int} (hfirst : first.number ≤ epoch.number + day)
    (hlast : epoch.number + day ≤ last.number) :
    1 ≤ (ofDay day).year ∧ (ofDay day).year ≤ 9999 := by
  obtain ⟨hnumber, hyear⟩ := number_ofDay hfirst
  have hvalid := isValid_ofDay day
  have hvalid' : first.IsValid ∧ last.IsValid := by decide
  rw [← hnumber] at hfirst hlast
  exact ⟨hvalid'.1.year_le hvalid hyear hfirst, hvalid.year_le hvalid'.2 (by decide) hlast⟩

/-- The days of the dates of these years lie between. -/
theorem IsValid.number_mem {date : Date} (h : date.IsValid) (hfirst : 1 ≤ date.year)
    (hlast : date.year ≤ 9999) : first.number ≤ date.number ∧ date.number ≤ last.number := by
  have hyear : 0 ≤ date.year := by omega
  have hstart := h.lt_number
  have hend := h.number_le hyear
  have hyears : daysOfYears 1 ≤ daysOfYears date.year.toNat := daysOfYears_mono (by omega)
  have hyears' : daysOfYears (date.year.toNat + 1) ≤ daysOfYears 10000 :=
    daysOfYears_mono (by omega)
  have hfirst : daysOfYears 1 = 366 := rfl
  have hlast := daysOfYears_eq 10000
  rw [marchFirst] at hlast
  rw [number_first, number_last]
  omega

/-- A date is found for its day. -/
theorem IsValid.ofDay_number {date : Date} (h : date.IsValid) (hyear : 1 ≤ date.year)
    (hlast : date.year ≤ 9999) : ofDay (date.number - epoch.number) = date := by
  have hday : first.number ≤ epoch.number + (date.number - epoch.number) := by
    rw [add_sub_cancel]
    exact (h.number_mem hyear hlast).1
  obtain ⟨hnumber, hfound⟩ := number_ofDay hday
  rw [add_sub_cancel] at hnumber
  exact (isValid_ofDay _).number_inj h hfound (by omega) hnumber

end SignedHttp.Date
