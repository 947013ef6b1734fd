import SignedHttp.Proofs.Calendar
import SignedHttp.Proofs.Json.RoundTrip
import SignedHttp.Proofs.Log.Line
import SignedHttp.Proofs.Signing

/-!
# The stamps of lines denote their instants

A line begins with a stamp (`Log.IsLineAt.isStamped`), which shows a date and a time of day in
fields of fixed width, and a fraction of six digits if there is one (`Moment.IsShown`). What a text
shows can be read from it in one way only (`Moment.IsShown.inj`). Counted back, it is the instant of
the line, and no other one has the same stamp (`Log.stamp_denotes`).

Key definitions: `Moment.IsValid`, `Moment.micros`, `Moment.IsShown`, `Log.IsLineAt`,
`Log.IsStamped`.
Key theorems: `Moment.isValid_ofMicros`, `Moment.micros_ofMicros`, `Moment.isShown_chars`,
`Moment.IsShown.inj`, `Log.stamp_denotes`.
-/

namespace SignedHttp

open Text

/-! ### Moments -/

namespace Moment

/-- Whether a moment has a date of the calendar and a time of the day. -/
structure IsValid (m : Moment) : Prop where
  date : m.date.IsValid
  hour : m.hour < 24
  minute : m.minute < 60
  second : m.second < 60
  micro : m.micro < 1000000

/-- The instant of a moment, in microseconds since the start of the epoch. -/
def micros (m : Moment) : Int :=
  ((((m.date.number - Date.epoch.number) * 24 + m.hour) * 60 + m.minute) * 60 + m.second) *
    1000000 + m.micro

def first : Moment := ⟨.first, 0, 0, 0, 0⟩

def last : Moment := ⟨.last, 23, 59, 59, 999999⟩

theorem micros_first : first.micros = firstInstant := by
  have hdate : first.date.number = 367 := Date.number_first
  rw [micros, hdate, Date.number_epoch]
  rfl

theorem micros_last : last.micros = lastInstant := by
  have hdate : last.date.number = 3652425 := Date.number_last
  rw [micros, hdate, Date.number_epoch]
  rfl

theorem isValid_ofMicros (instant : Int) : (ofMicros instant).IsValid := by
  refine ⟨Date.isValid_ofDay _, ?_, ?_, ?_, ?_⟩
  all_goals
    rw [ofMicros]
    dsimp only
    omega

theorem micro_ofMicros_eq_zero_iff {instant : Int} :
    (ofMicros instant).micro = 0 ↔ 1000000 ∣ instant := by
  rw [ofMicros]
  dsimp only
  omega

variable {instant : Int}

theorem day_mem (hfirst : first.micros ≤ instant) (hlast : instant ≤ last.micros) :
    Date.first.number ≤ Date.epoch.number + instant / 1000000 / 86400 ∧
      Date.epoch.number + instant / 1000000 / 86400 ≤ Date.last.number := by
  rw [micros_first, firstInstant] at hfirst
  rw [micros_last, lastInstant] at hlast
  rw [Date.number_first, Date.number_last, Date.number_epoch]
  omega

theorem year_ofMicros (hfirst : first.micros ≤ instant) (hlast : instant ≤ last.micros) :
    1 ≤ (ofMicros instant).date.year ∧ (ofMicros instant).date.year ≤ 9999 := by
  obtain ⟨hday, hday'⟩ := day_mem hfirst hlast
  exact Date.year_ofDay hday hday'

/-- The moment of an instant, counted back, is the instant. -/
theorem micros_ofMicros (hfirst : first.micros ≤ instant) (hlast : instant ≤ last.micros) :
    (ofMicros instant).micros = instant := by
  have hnumber := (Date.number_ofDay (day_mem hfirst hlast).1).1
  rw [micros, ofMicros]
  dsimp only
  rw [hnumber, add_sub_cancel_left]
  omega

theorem IsValid.ofMicros_micros {m : Moment} (h : m.IsValid) (hfirst : 1 ≤ m.date.year)
    (hlast : m.date.year ≤ 9999) : ofMicros m.micros = m := by
  have hdate := h.date.ofDay_number hfirst hlast
  have hhour := h.hour
  have hminute := h.minute
  have hsecond := h.second
  have hmicro := h.micro
  obtain ⟨date, hour, minute, second, micro⟩ := m
  dsimp only at *
  have hday : (micros ⟨date, hour, minute, second, micro⟩) / 1000000 / 86400 =
      date.number - Date.epoch.number := by
    rw [micros]
    dsimp only
    omega
  rw [ofMicros, hday, hdate, micros]
  dsimp only
  rw [mk.injEq]
  refine ⟨rfl, ?_, ?_, ?_, ?_⟩ <;> omega

end Moment

/-! ### Texts of moments -/

/-- Whether a text shows a date: its year, month and day, with a hyphen between them. -/
inductive Date.IsShown (date : Date) : List Char → Prop
  | fields {n : Nat} {year month day : List Char} (hn : date.year = n)
      (hyear : Decimal.Shows 4 n year) (hmonth : Decimal.Shows 2 date.month month)
      (hday : Decimal.Shows 2 date.day day) :
    IsShown date (year ++ '-' :: (month ++ '-' :: day))

namespace Moment

/-- Whether a text shows a time of day up to the second. -/
inductive IsTimeShown (m : Moment) : List Char → Prop
  | fields {hour minute second : List Char} (hhour : Decimal.Shows 2 m.hour hour)
      (hminute : Decimal.Shows 2 m.minute minute) (hsecond : Decimal.Shows 2 m.second second) :
    IsTimeShown m (hour ++ ':' :: (minute ++ ':' :: second))

/-- Whether a text shows the part of a second: nothing if there is none, or six digits. -/
inductive IsFraction (micro : Nat) : List Char → Prop
  | whole (h : micro = 0) : IsFraction micro []
  | part {digits : List Char} (h : micro ≠ 0) (hdigits : Decimal.Shows 6 micro digits) :
    IsFraction micro ('.' :: digits)

inductive IsShown (m : Moment) : List Char → Prop
  | parts {date time fraction : List Char} (hdate : m.date.IsShown date)
      (htime : m.IsTimeShown time) (hfraction : IsFraction m.micro fraction) :
    IsShown m (date ++ 'T' :: (time ++ (fraction ++ ['Z'])))

end Moment

/-- A number that is shown ends where a mark follows. -/
theorem Text.Decimal.Shows.append_mark_inj {width width' n m : Nat} {s t u v : List Char}
    {c d : Char} (hs : Decimal.Shows width n s) (ht : Decimal.Shows width' m t)
    (hc : c.isDigit = false) (hd : d.isDigit = false) (h : s ++ c :: u = t ++ d :: v) :
    n = m ∧ c = d ∧ u = v := by
  obtain ⟨hdigits, hmark, hrest⟩ := Moment.append_mark_inj hs.isDigit ht.isDigit hc hd h
  have hsame : n = m := by rw [← hs.value, hdigits, ht.value]
  exact ⟨hsame, hmark, hrest⟩

namespace Date

variable {date other : Date} {s t u v : List Char} {c d : Char}

theorem IsShown.append_mark_inj (hs : date.IsShown s) (ht : other.IsShown t)
    (hc : c.isDigit = false) (hd : d.isDigit = false) (h : s ++ c :: u = t ++ d :: v) :
    date = other ∧ u = v := by
  obtain ⟨hn, hyear, hmonth, hday⟩ := hs
  obtain ⟨hn', hyear', hmonth', hday'⟩ := ht
  simp only [List.append_assoc, List.cons_append] at h
  obtain ⟨hyears, -, h⟩ := hyear.append_mark_inj hyear' rfl rfl h
  obtain ⟨hmonths, -, h⟩ := hmonth.append_mark_inj hmonth' rfl rfl h
  obtain ⟨hdays, -, h⟩ := hday.append_mark_inj hday' hc hd h
  obtain ⟨year, month, day⟩ := date
  obtain ⟨year', month', day'⟩ := other
  dsimp only at hn hn' hmonths hdays
  rw [hn, hn', hyears, hmonths, hdays]
  exact ⟨rfl, h⟩

/-- A date with a year of at most four digits is shown by fields of fixed width. -/
theorem IsValid.isShown (h : date.IsValid) (hfirst : 0 ≤ date.year) (hlast : date.year ≤ 9999) :
    date.IsShown (Decimal.padded 4 date.year.toNat ++ '-' :: (Decimal.padded 2 date.month ++
      '-' :: Decimal.padded 2 date.day)) := by
  have hmonth := h.month_le
  have hday := h.day_le
  have hlength : monthLength date.year date.month ≤ 31 := by
    rw [monthLength]
    split_ifs <;> decide
  refine .fields (Int.toNat_of_nonneg hfirst).symm ?_ ?_ ?_
  all_goals
    refine Decimal.shows_padded (by decide) ?_
    omega

end Date

namespace Moment

variable {m other : Moment} {s t u v : List Char} {c d : Char}

/-- A fraction is followed by what is no digit. -/
theorem IsFraction.exists_mark {micro : Nat} (h : IsFraction micro s) :
    ∃ c u, c.isDigit = false ∧ s ++ ['Z'] = c :: u := by
  cases h with
  | whole => exact ⟨_, _, rfl, rfl⟩
  | part => exact ⟨_, _, rfl, rfl⟩

theorem IsFraction.inj {micro micro' : Nat} (hs : IsFraction micro s) (ht : IsFraction micro' t)
    (h : s ++ ['Z'] = t ++ ['Z']) : micro = micro' := by
  cases hs with
  | whole hmicro =>
    cases ht with
    | whole hmicro' => rw [hmicro, hmicro']
    | part => cases h
  | part _ hdigits =>
    cases ht with
    | whole => cases h
    | part _ hdigits' =>
      exact (hdigits.append_mark_inj hdigits' rfl rfl (List.cons.inj h).2).1

/-- **A text shows one moment at most.** -/
theorem IsShown.inj (hs : m.IsShown s) (ht : other.IsShown s) : m = other := by
  generalize hsame : s = t at ht
  obtain ⟨hdate, htime, hfraction⟩ := hs
  obtain ⟨hdate', htime', hfraction'⟩ := ht
  obtain ⟨hdates, h⟩ := hdate.append_mark_inj hdate' rfl rfl hsame
  obtain ⟨hhour, hminute, hsecond⟩ := htime
  obtain ⟨hhour', hminute', hsecond'⟩ := htime'
  simp only [List.append_assoc, List.cons_append] at h
  obtain ⟨hhours, -, h⟩ := hhour.append_mark_inj hhour' rfl rfl h
  obtain ⟨hminutes, -, h⟩ := hminute.append_mark_inj hminute' rfl rfl h
  -- the second is followed by a point or by the end
  obtain ⟨c, u, hc, hmark⟩ := hfraction.exists_mark
  obtain ⟨d, v, hd, hmark'⟩ := hfraction'.exists_mark
  rw [hmark, hmark'] at h
  obtain ⟨hseconds, hmarks, hends⟩ := hsecond.append_mark_inj hsecond' hc hd h
  have hmicros : m.micro = other.micro := by
    refine hfraction.inj hfraction' ?_
    rw [hmark, hmark', hmarks, hends]
  obtain ⟨date, hour, minute, second, micro⟩ := m
  obtain ⟨date', hour', minute', second', micro'⟩ := other
  dsimp only at hdates hhours hminutes hseconds hmicros
  rw [hdates, hhours, hminutes, hseconds, hmicros]

theorem isShown_chars (h : m.IsValid) (hfirst : 0 ≤ m.date.year) (hlast : m.date.year ≤ 9999) :
    m.IsShown m.chars := by
  have hhour := h.hour
  have hminute := h.minute
  have hsecond := h.second
  have htime : m.IsTimeShown (Decimal.padded 2 m.hour ++ ':' :: (Decimal.padded 2 m.minute ++
      ':' :: Decimal.padded 2 m.second)) := by
    refine .fields ?_ ?_ ?_
    all_goals
      refine Decimal.shows_padded (by decide) ?_
      omega
  have hfraction : IsFraction m.micro
      (if m.micro = 0 then [] else '.' :: Decimal.padded 6 m.micro) := by
    split
    · rename_i hwhole
      exact .whole hwhole
    · rename_i hpart
      exact .part hpart (Decimal.shows_padded (by decide) h.micro)
  have hchars : m.chars = (Decimal.padded 4 m.date.year.toNat ++ '-' :: (Decimal.padded 2
      m.date.month ++ '-' :: Decimal.padded 2 m.date.day)) ++ 'T' :: ((Decimal.padded 2 m.hour ++
        ':' :: (Decimal.padded 2 m.minute ++ ':' :: Decimal.padded 2 m.second)) ++
          ((if m.micro = 0 then [] else '.' :: Decimal.padded 6 m.micro) ++ ['Z'])) := by
    simp only [chars, List.append_assoc, List.cons_append]
  rw [hchars]
  exact .parts (h.date.isShown hfirst hlast) htime hfraction

/-- The text of the moment of an instant in the years that can be written shows this moment. -/
theorem isShown_ofMicros {instant : Int} (hfirst : first.micros ≤ instant)
    (hlast : instant ≤ last.micros) : (ofMicros instant).IsShown (ofMicros instant).chars := by
  obtain ⟨hyear, hyear'⟩ := year_ofMicros hfirst hlast
  exact isShown_chars (isValid_ofMicros instant) (by omega) hyear'

example : (ofMicros (-1)).text = "1969-12-31T23:59:59.999999Z" := by decide

def isStampChar (c : Char) : Bool :=
  c.isDigit || ['-', 'T', ':', '.', 'Z'].contains c

theorem isStampChar_chars (m : Moment) : m.chars.all isStampChar = true := by
  have hpadded : ∀ width n, (Decimal.padded width n).all isStampChar = true := fun width n => by
    refine List.all_eq_true.mpr fun c hc => ?_
    rw [isStampChar, Decimal.isDigit_of_mem_padded hc, Bool.true_or]
  have hmarks : isStampChar '-' = true ∧ isStampChar 'T' = true ∧ isStampChar ':' = true ∧
      isStampChar '.' = true ∧ isStampChar 'Z' = true := by decide
  rw [chars]
  split
  · simp only [List.all_append, List.all_cons, List.all_nil, hpadded, hmarks, Bool.and_self]
  · simp only [List.all_append, List.all_cons, List.all_nil, hpadded, hmarks, Bool.and_self]

end Moment

/-! ### Lines -/

/-- A printed character stands for itself between quotes, but for quotes and backslashes. -/
theorem Json.escapeChar_of_isPlain {c : Char} (h : Json.isPlain c = true) (hquote : c ≠ '"')
    (hslash : c ≠ '\\') : Json.escapeChar c = [c] := by
  rw [Json.escapeChar, if_neg hquote, if_neg hslash]
  iterate 5
    rw [if_neg (by rintro rfl; cases h)]
  exact if_pos h

theorem Json.escapeChar_of_isStampChar {c : Char} (h : Moment.isStampChar c = true) :
    Json.escapeChar c = [c] ∧ c ≠ '"' ∧ c ≠ '\\' := by
  have hquote : c ≠ '"' := by
    rintro rfl
    cases h
  have hslash : c ≠ '\\' := by
    rintro rfl
    cases h
  have hplain : Json.isPlain c = true := by
    rw [Moment.isStampChar, Bool.or_eq_true] at h
    rcases h with h | h
    · exact Json.isPlain_of_isDigit h
    · have hmarks : ['-', 'T', ':', '.', 'Z'].all Json.isPlain = true := by decide
      exact List.all_eq_true.mp hmarks c (List.elem_iff.mp h)
  exact ⟨Json.escapeChar_of_isPlain hplain hquote hslash, hquote, hslash⟩

namespace Log

/-- Whether a line is written at an instant, be it that of a record or of a draft. -/
inductive IsLineAt (instant : Int) (line : String) : Prop
  | record (record : Record) (h : record.line instant = .ok line)
  | draft (draft : Draft) (h : draft.line instant = .ok line)

/-- Whether a line has a stamp: the text of its first member, which needs no escapes. -/
structure IsStamped (line : String) (stamp : List Char) : Prop where
  unquoted : '"' ∉ stamp
  unescaped : '\\' ∉ stamp
  starts : ∃ rest, line.toList = "\x7b\"ts\": \"".toList ++ (stamp ++ '"' :: rest)

variable {instant : Int} {line : String} {stamp other : List Char}

/-- A text without quotes is what stands before the next one. -/
theorem takeWhile_quote {s rest : List Char} (hs : '"' ∉ s) :
    (s ++ '"' :: rest).takeWhile (· != '"') = s := by
  have hplain : ∀ c ∈ s, (c != '"') = true := fun c hc =>
    bne_iff_ne.mpr (ne_of_mem_of_not_mem hc hs)
  rw [List.takeWhile_append_of_pos hplain, List.takeWhile_cons_of_neg (by decide),
    List.append_nil]

theorem IsStamped.inj (h : IsStamped line stamp) (hother : IsStamped line other) :
    stamp = other := by
  obtain ⟨rest, hrest⟩ := h.starts
  obtain ⟨rest', hrest'⟩ := hother.starts
  have hsame := List.append_cancel_left (hrest.symm.trans hrest')
  rw [← takeWhile_quote h.unquoted, hsame, takeWhile_quote hother.unquoted]

/-- A line that is written has the text of its moment for a stamp. -/
theorem isStamped_of_lineOf {moment : Moment} {level logger : Json} {message : List Nat}
    {fields : List (String × Json)} (h : lineOf moment level logger message fields = .ok line) :
    IsStamped line moment.chars := by
  have hchars : ∀ c ∈ moment.chars, Json.escapeChar c = [c] ∧ c ≠ '"' ∧ c ≠ '\\' := fun c hc =>
    Json.escapeChar_of_isStampChar (List.all_eq_true.mp moment.isStampChar_chars c hc)
  have hself : moment.chars.flatMap Json.escapeChar = moment.chars := by
    rw [List.flatMap_congr fun c hc => (hchars c hc).1]
    exact List.flatMap_singleton' _
  have hquoted : Json.chars (.string moment.text) = '"' :: moment.chars ++ ['"'] := by
    rw [Json.chars, Json.quoted, Moment.text, String.toList_ofList, hself]
  refine ⟨fun hmem => (hchars _ hmem).2.1 rfl, fun hmem => (hchars _ hmem).2.2 rfl, ?_⟩
  rw [lineOf] at h
  split at h
  · cases h
  · rw [← Except.ok.inj h, Json.render, String.toList_ofList, List.cons_append, Json.chars, hquoted]
    exact ⟨_, by simp only [List.append_assoc, List.cons_append]; rfl⟩

theorem mem_of_reach {moment : Moment}
    (h : (Moment.reach instant).mapError Fault.unreachableInstant = .ok moment) :
    (Moment.first.micros ≤ instant ∧ instant ≤ Moment.last.micros) ∧
      moment = .ofMicros instant := by
  rw [Moment.reach] at h
  split at h
  · cases h
  · split at h
    · cases h
    · split at h
      · cases h
      · rename_i hmem
        rw [Bool.or_eq_true, decide_eq_true_iff, decide_eq_true_iff] at hmem
        rw [Moment.micros_first, Moment.micros_last]
        exact ⟨by omega, (Except.ok.inj h).symm⟩

theorem IsLineAt.mem (h : IsLineAt instant line) :
    (Moment.first.micros ≤ instant ∧ instant ≤ Moment.last.micros) ∧
      ∃ level logger message fields,
        lineOf (.ofMicros instant) level logger message fields = .ok line := by
  cases h with
  | record record h =>
    obtain ⟨level, -, h⟩ := exists_of_bind_eq_ok h
    obtain ⟨moment, hmoment, h⟩ := exists_of_bind_eq_ok h
    obtain ⟨hmem, rfl⟩ := mem_of_reach hmoment
    exact ⟨hmem, _, _, _, _, h⟩
  | draft draft h =>
    obtain ⟨label, -, h⟩ := exists_of_bind_eq_ok h
    obtain ⟨given, -, h⟩ := exists_of_bind_eq_ok h
    obtain ⟨moment, hmoment, h⟩ := exists_of_bind_eq_ok h
    obtain ⟨level, -, h⟩ := exists_of_bind_eq_ok h
    obtain ⟨logger, -, h⟩ := exists_of_bind_eq_ok h
    obtain ⟨message, -, h⟩ := exists_of_bind_eq_ok h
    obtain ⟨hmem, rfl⟩ := mem_of_reach hmoment
    exact ⟨hmem, _, _, _, _, h⟩

theorem IsLineAt.isStamped (h : IsLineAt instant line) :
    IsStamped line (Moment.ofMicros instant).chars := by
  obtain ⟨-, level, logger, message, fields, hline⟩ := h.mem
  exact isStamped_of_lineOf hline

/-- **The stamp of a line denotes its instant.** In the years 1 to 9999 it shows, in fields of fixed
width, a date of the calendar and a time of the day, and a fraction of six digits unless the instant
is one of whole seconds. These are all that the text can be read as, and counted back they are the
instant, which has no other date and time. Every line at the instant has this stamp, and no line at
another instant has it; and records are written if their numbers are not too long. -/
theorem stamp_denotes (hfirst : Moment.first.micros ≤ instant)
    (hlast : instant ≤ Moment.last.micros) :
    ∃ (moment : Moment) (stamp : List Char), moment.IsValid ∧
      (1 ≤ moment.date.year ∧ moment.date.year ≤ 9999) ∧ moment.micros = instant ∧
      (∀ other : Moment, other.IsValid → 1 ≤ other.date.year → other.date.year ≤ 9999 →
        other.micros = instant → other = moment) ∧
      moment.IsShown stamp ∧ (∀ other : Moment, other.IsShown stamp → other = moment) ∧
      (moment.micro ≠ 0 ↔ ¬ 1000000 ∣ instant) ∧
      (∀ line, IsLineAt instant line → IsStamped line stamp) ∧
      (∀ other line, other ≠ instant → IsLineAt other line → ¬ IsStamped line stamp) ∧
      ∀ record : Record, Decimal.isLong record.level = false →
        (∀ field ∈ record.fields, field.2.holdsLongNumeral = false) →
        ∃ line, record.line instant = .ok line := by
  have hyear := Moment.year_ofMicros hfirst hlast
  have hback := Moment.micros_ofMicros hfirst hlast
  have hshown := Moment.isShown_ofMicros hfirst hlast
  refine ⟨.ofMicros instant, (Moment.ofMicros instant).chars, Moment.isValid_ofMicros instant,
    hyear, hback, ?_, hshown, fun other hother => hother.inj hshown,
    not_congr Moment.micro_ofMicros_eq_zero_iff, fun line hline => hline.isStamped, ?_, ?_⟩
  · intro other hother hstart hend hmicros
    rw [← hmicros, hother.ofMicros_micros hstart hend]
  · intro other line hne hline hstamped
    obtain ⟨⟨hstart, hend⟩, -⟩ := hline.mem
    have hother := Moment.isShown_ofMicros hstart hend
    rw [hline.isStamped.inj hstamped] at hother
    have hsame : other = instant := calc
      other = (Moment.ofMicros other).micros := (Moment.micros_ofMicros hstart hend).symm
      _ = (Moment.ofMicros instant).micros := by rw [hother.inj hshown]
      _ = instant := hback
    exact hne hsame
  · intro record hlevel hfields
    obtain ⟨level, hlevel⟩ := exists_levelName? hlevel
    obtain ⟨line, hline⟩ := Telemetry.exists_lineOf (.ofMicros instant) level record.logger
      record.message hfields
    rw [Moment.micros_first] at hfirst
    rw [Moment.micros_last] at hlast
    exact ⟨line, (record.line_eq hlevel (Moment.reach_eq_ok hfirst hlast)).trans hline⟩

/-- A microsecond before the March of 1900, which had no leap day. -/
theorem stamp_denotes_century :
    let instant : Int := -2203891200000001
    let moment : Moment := ⟨⟨1900, 2, 28⟩, 23, 59, 59, 999999⟩
    let record : Record := ⟨"request_signer", 20, Text.points "signed".toList, []⟩
    (Moment.first.micros ≤ instant ∧ instant ≤ Moment.last.micros) ∧ moment.IsValid ∧
      moment.micros = instant ∧ ¬ 1000000 ∣ instant ∧ ∃ stamp, moment.IsShown stamp ∧
        ∃ line, record.line instant = .ok line ∧ IsStamped line stamp := by
  intro instant moment record
  have hfirst : Moment.first.micros ≤ instant := by
    rw [Moment.micros_first]
    decide
  have hlast : instant ≤ Moment.last.micros := by
    rw [Moment.micros_last]
    decide
  have hfound : Moment.ofMicros instant = moment := by decide
  have hvalid : moment.IsValid := hfound ▸ Moment.isValid_ofMicros instant
  have hmicros : moment.micros = instant := hfound ▸ Moment.micros_ofMicros hfirst hlast
  obtain ⟨denoted, stamp, -, -, -, hunique, hshown, -, hpart, hstamped, -, hwritten⟩ :=
    stamp_denotes hfirst hlast
  obtain rfl : moment = denoted := hunique moment hvalid (by decide) (by decide) hmicros
  obtain ⟨line, hline⟩ := hwritten record (by decide) (fun _ h => by cases h)
  exact ⟨⟨hfirst, hlast⟩, hvalid, hmicros, hpart.mp (by decide), stamp, hshown, line, hline,
    hstamped line (.record record hline)⟩

end Log

end SignedHttp
