import SignedHttp.Calendar.Inverse
import SignedHttp.Proofs.Text.Decimal

/-!
# Different instants have different texts

The text of a moment has numbers of digits only, with marks between them, so it can be cut into
these numbers again whatever their widths (`padded_append_inj`). They determine the instant: the
date its day, and the time of day what remains (`ofMicros_inj`).

Key theorems: `Moment.ofMicros_inj`, `Moment.text_inj`.
-/

namespace SignedHttp.Moment

/-- Digits end where a mark follows. -/
theorem append_mark_inj : ∀ {s t u v : List Char} {c d : Char}, (∀ e ∈ s, e.isDigit = true) →
    (∀ e ∈ t, e.isDigit = true) → c.isDigit = false → d.isDigit = false →
      s ++ c :: u = t ++ d :: v → s = t ∧ c = d ∧ u = v
  | [], [], _, _, _, _, _, _, _, _, h => ⟨rfl, List.cons.inj h⟩
  | [], e :: t, _, _, _, _, _, ht, hc, _, h => by
    rw [(List.cons.inj h).1, ht e List.mem_cons_self] at hc
    cases hc
  | e :: s, [], _, _, _, _, hs, _, _, hd, h => by
    rw [← (List.cons.inj h).1, hs e List.mem_cons_self] at hd
    cases hd
  | e :: s, f :: t, _, _, _, _, hs, ht, hc, hd, h => by
    obtain ⟨hhead, htail⟩ := List.cons.inj h
    obtain ⟨hdigits, hrest⟩ := append_mark_inj (List.forall_mem_cons.mp hs).2
      (List.forall_mem_cons.mp ht).2 hc hd htail
    exact ⟨by rw [hhead, hdigits], hrest⟩

theorem padded_append_inj {width n m : Nat} {u v : List Char} {c d : Char}
    (hc : c.isDigit = false) (hd : d.isDigit = false)
    (h : Text.Decimal.padded width n ++ c :: u = Text.Decimal.padded width m ++ d :: v) :
    n = m ∧ c = d ∧ u = v := by
  obtain ⟨hdigits, hrest⟩ := append_mark_inj (fun _ => Text.Decimal.isDigit_of_mem_padded)
    (fun _ => Text.Decimal.isDigit_of_mem_padded) hc hd h
  exact ⟨Text.Decimal.padded_inj hdigits, hrest⟩

def tail (micro : Nat) : List Char :=
  (if micro = 0 then [] else '.' :: Text.Decimal.padded 6 micro) ++ ['Z']

theorem tail_eq_cons (micro : Nat) : ∃ c s, c.isDigit = false ∧ tail micro = c :: s := by
  rw [tail]
  split
  · exact ⟨_, _, rfl, rfl⟩
  · exact ⟨_, _, rfl, rfl⟩

theorem tail_inj {n m : Nat} (h : tail n = tail m) : n = m := by
  rw [tail, tail] at h
  split at h
  · split at h
    · omega
    · cases h
  · split at h
    · cases h
    · exact (padded_append_inj (c := 'Z') (d := 'Z') rfl rfl (List.cons.inj h).2).1

/-- A text shows the date and the time of day. -/
theorem chars_inj {a b : Moment} (ha : 0 ≤ a.date.year) (hb : 0 ≤ b.date.year)
    (h : a.chars = b.chars) : a = b := by
  obtain ⟨⟨year, month, day⟩, hour, minute, second, micro⟩ := a
  obtain ⟨⟨year', month', day'⟩, hour', minute', second', micro'⟩ := b
  have hchars : ∀ m : Moment, m.chars = Text.Decimal.padded 4 m.date.year.toNat ++
      '-' :: (Text.Decimal.padded 2 m.date.month ++ '-' :: (Text.Decimal.padded 2 m.date.day ++
        'T' :: (Text.Decimal.padded 2 m.hour ++ ':' :: (Text.Decimal.padded 2 m.minute ++
          ':' :: (Text.Decimal.padded 2 m.second ++ tail m.micro))))) := fun m => by
    simp only [chars, tail, List.append_assoc, List.cons_append]
  rw [hchars, hchars] at h
  obtain ⟨hyear, -, h⟩ := padded_append_inj rfl rfl h
  obtain ⟨hmonth, -, h⟩ := padded_append_inj rfl rfl h
  obtain ⟨hday, -, h⟩ := padded_append_inj rfl rfl h
  obtain ⟨hhour, -, h⟩ := padded_append_inj rfl rfl h
  obtain ⟨hminute, -, h⟩ := padded_append_inj rfl rfl h
  obtain ⟨c, s, hc, htail⟩ := tail_eq_cons micro
  obtain ⟨d, t, hd, htail'⟩ := tail_eq_cons micro'
  dsimp only at h
  rw [htail, htail'] at h
  obtain ⟨hsecond, rfl, rfl⟩ := padded_append_inj hc hd h
  have hmicro := tail_inj (htail.trans htail'.symm)
  dsimp only at ha hb hyear hmonth hday hhour hminute hsecond
  have hyears : year = year' := by omega
  rw [hyears, hmonth, hday, hhour, hminute, hsecond, hmicro]

theorem ofMicros_inj {a b : Int} (h : ofMicros a = ofMicros b) : a = b := by
  simp only [ofMicros, mk.injEq] at h
  obtain ⟨hdate, hhour, hminute, hsecond, hmicro⟩ := h
  have hday := congrArg Date.toDay hdate
  rw [Date.toDay_ofDay, Date.toDay_ofDay] at hday
  omega

theorem year_nonneg {instant : Int} (h : firstInstant ≤ instant) :
    0 ≤ (ofMicros instant).date.year := by
  rw [firstInstant] at h
  have hperiod : 0 ≤ (instant / 1000000 / 86400 + Date.epochDay) / Date.periodDays := by
    rw [Date.epochDay, Date.periodDays]
    omega
  simp only [ofMicros, Date.ofDay]
  split
  · simp only [Int.ofNat_eq_natCast]
    omega
  · simp only [Int.ofNat_eq_natCast]
    omega

/-- Different instants of the years that are written have different texts. -/
theorem text_inj {a b : Int} (ha : firstInstant ≤ a) (hb : firstInstant ≤ b)
    (h : (ofMicros a).text = (ofMicros b).text) : a = b :=
  ofMicros_inj (chars_inj (year_nonneg ha) (year_nonneg hb) (String.ofList_injective h))

end SignedHttp.Moment
