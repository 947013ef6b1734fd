import SignedHttp.Request.Listed
import SignedHttp.Text.Case

/-!
# Texts that a header field can carry

A field of a listed request carries ASCII texts only (`isText`). Numerals are such texts.
For the names of fields ASCII makes letter case simple: the lower case of an ASCII text is
the one that listed fields are compared by (`lower_eq_asciiLower`), and taking it changes no
comparison of names (`lower_asciiLower`).

Key definitions: `isText`.
Key theorems: `check_eq_ok_iff_isText`, `isText_numeral`, `lower_eq_asciiLower`,
`lower_asciiLower`.
-/

namespace SignedHttp.Text.Ascii

def isText (s : String) : Bool :=
  s.toList.all isAscii

theorem isText_iff {s : String} : isText s = true ↔ ∀ c ∈ s.toList, isAscii c = true := by
  rw [isText, List.all_eq_true]

theorem check_eq_ok_iff_isText (s : String) :
    check (points s.toList) = .ok () ↔ isText s = true := by
  rw [check_eq_ok_iff, isText_iff]

theorem exists_refusal {s : String} (h : isText s = false) :
    ∃ refusal, check (points s.toList) = .error refusal := by
  cases hs : check (points s.toList) with
  | error refusal => exact ⟨refusal, rfl⟩
  | ok _ =>
    rw [(check_eq_ok_iff_isText s).mp hs] at h
    exact absurd h (by decide)

/-! ### Numerals -/

theorem isAscii_of_isDigit {c : Char} (h : c.isDigit = true) : isAscii c = true := by
  have hle : c ≤ '9' := by
    rw [Char.isDigit, Bool.and_eq_true] at h
    exact of_decide_eq_true h.2
  have : c.toNat ≤ 0x39 := hle
  rw [isAscii, decide_eq_true_iff]
  omega

/-- A numeral is written with digits and the sign of negative numbers. -/
theorem mem_numeral {n : Int} {c : Char} (h : c ∈ (Decimal.numeral n).toList) :
    c = '-' ∨ c.isDigit = true := by
  have hdigits : ∀ d ∈ Decimal.digits n.natAbs, d.isDigit = true := fun d hd =>
    Nat.isDigit_of_mem_toDigits (by decide) (by decide) hd
  rw [Decimal.numeral, String.toList_ofList] at h
  split at h
  · rcases List.mem_cons.mp h with rfl | h
    · exact .inl rfl
    · exact .inr (hdigits c h)
  · exact .inr (hdigits c h)

theorem isText_numeral (n : Int) : isText (Decimal.numeral n) = true := by
  rw [isText_iff]
  intro c hc
  rcases mem_numeral hc with rfl | hdigit
  · rfl
  · exact isAscii_of_isDigit hdigit

/-! ### Letter case -/

/-- A fact about the characters of the first 128 numbers holds of all ASCII characters. -/
theorem forall_isAscii {p : Char → Prop} (h : ∀ n < 0x80, p (.ofNat n)) {c : Char}
    (hc : isAscii c = true) : p c :=
  Char.ofNat_toNat c ▸ h c.toNat (toNat_lt_of_isAscii hc)

theorem isAscii_toLower {c : Char} (h : isAscii c = true) : isAscii c.toLower = true :=
  forall_isAscii (p := fun c => isAscii c.toLower = true) (by decide) h

theorem toLower_toLower {c : Char} (h : isAscii c = true) : c.toLower.toLower = c.toLower :=
  forall_isAscii (p := fun c => c.toLower.toLower = c.toLower) (by decide) h

theorem toLower_of_not_isAscii {c : Char} (h : isAscii c = false) : c.toLower = c := by
  rw [isAscii, decide_eq_false_iff_not] at h
  refine dif_neg fun hupper => ?_
  have : c.toNat ≤ 0x5A := hupper.2
  omega

theorem isAscii_toLower_eq (c : Char) : isAscii c.toLower = isAscii c := by
  cases h : isAscii c with
  | true => exact isAscii_toLower h
  | false => rw [toLower_of_not_isAscii h, h]

theorem isText_asciiLower (s : String) : isText (asciiLower s) = isText s := by
  rw [isText, asciiLower, String.toList_ofList, List.all_map, isText]
  exact congrArg _ (funext isAscii_toLower_eq)

theorem lowerAfter_of_isAscii : ∀ (seen s : List Char), (∀ c ∈ s, isAscii c = true) →
    lowerAfter seen s = s.map Char.toLower
  | _, [], _ => rfl
  | seen, c :: s, h => by
    obtain ⟨hc, hs⟩ := List.forall_mem_cons.mp h
    have hlt := toNat_lt_of_isAscii hc
    have hsigma : c ≠ 'Σ' := by
      rintro rfl
      exact absurd hc (by decide)
    rw [lowerAfter, if_neg hsigma, lowerAfter_of_isAscii _ s hs, lowerChar, if_pos hlt]
    rfl

/-- The lower case of an ASCII text is that of its single letters. -/
theorem lower_eq_asciiLower {s : String} (h : isText s = true) : lower s = asciiLower s := by
  rw [lower, asciiLower, lowerAfter_of_isAscii [] _ (isText_iff.mp h)]

theorem asciiLower_asciiLower {s : String} (h : isText s = true) :
    asciiLower (asciiLower s) = asciiLower s := by
  rw [asciiLower, asciiLower, String.toList_ofList, List.map_map]
  congr 1
  exact List.map_congr_left fun c hc => toLower_toLower (isText_iff.mp h c hc)

theorem lower_asciiLower {s : String} (h : isText s = true) : lower (asciiLower s) = lower s := by
  rw [lower_eq_asciiLower ((isText_asciiLower s).trans h), lower_eq_asciiLower h,
    asciiLower_asciiLower h]

end SignedHttp.Text.Ascii
