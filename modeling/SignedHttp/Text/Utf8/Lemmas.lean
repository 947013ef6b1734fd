import SignedHttp.Text.Utf8

/-!
# Reading what was written in UTF-8

The bytes of a character read as that character wherever they stand
(`decodeFrom_encodeChar`), so the bytes of a text read as that text (`decode_encode`).
The four widths are told apart by the lead byte; the bounds on the second byte hold
because a character is no surrogate, is not above the last code point, and is written
on the fewest bytes.

Key theorems: `decodeFrom_two`, `decodeFrom_three`, `decodeFrom_four`, `decodeFrom_encodeChar`,
`decodeFrom_append`, `decode_encode`.
-/

namespace SignedHttp.Text.Utf8

theorem toNat_tail (n : Nat) : (tail n).toNat = 0x80 + n % 0x40 := by
  simp only [tail, UInt8.toNat_ofNat']
  omega

/-! ### Bytes as numbers -/

theorem isTail_iff (b : UInt8) : isTail b = true ↔ 0x80 ≤ b.toNat ∧ b.toNat ≤ 0xBF := by
  simp [isTail, UInt8.le_iff_toNat_le]

theorem isTail_tail (n : Nat) : isTail (tail n) = true := by
  rw [isTail_iff, toNat_tail]
  omega

theorem isSecondOfThree_iff (a b : UInt8) : isSecondOfThree a b = true ↔
    isTail b = true ∧ (a.toNat = 0xE0 → 0xA0 ≤ b.toNat) ∧ (a.toNat = 0xED → b.toNat ≤ 0x9F) := by
  simp [isSecondOfThree, UInt8.le_iff_toNat_le, ← UInt8.toNat_inj, Decidable.imp_iff_not_or,
    and_assoc]

theorem isSecondOfFour_iff (a b : UInt8) : isSecondOfFour a b = true ↔
    isTail b = true ∧ (a.toNat = 0xF0 → 0x90 ≤ b.toNat) ∧ (a.toNat = 0xF4 → b.toNat ≤ 0x8F) := by
  simp [isSecondOfFour, UInt8.le_iff_toNat_le, ← UInt8.toNat_inj, Decidable.imp_iff_not_or,
    and_assoc]

/-! ### Characters as numbers -/

theorem toNat_lt (c : Char) : c.toNat < 0x110000 := by
  rcases c.valid with h | h
  · exact Nat.lt_trans h (by decide)
  · exact h.2

theorem not_surrogate (c : Char) : c.toNat < 0xD800 ∨ 0xDFFF < c.toNat := by
  rcases c.valid with h | h
  · exact .inl h
  · exact .inr h.1

/-! ### Lead bytes

The four widths lie one above the other: a byte below the first lead byte of a width belongs to a
smaller one. -/

theorem not_lt_of_le {a b : UInt8} (h : b.toNat ≤ a.toNat) : ¬ a < b := fun hlt =>
  Nat.not_lt.mpr h (UInt8.lt_iff_toNat_lt.mp hlt)

theorem decodeFrom_two {a b : UInt8} (i : Nat) (s : List UInt8) (hfirst : 0xC2 ≤ a.toNat)
    (hlast : a.toNat < 0xE0) (hb : isTail b = true) :
    decodeFrom i (a :: b :: s) =
      (Char.ofNat (payload (a.toNat - 0xC0) [b]) :: ·) <$> decodeFrom (i + 2) s := by
  have hone : ¬ a < 0x80 := not_lt_of_le (Nat.le_trans (by decide) hfirst)
  have hstart : ¬ a < 0xC2 := not_lt_of_le hfirst
  have htwo : a < 0xE0 := UInt8.lt_iff_toNat_lt.mpr hlast
  rw [decodeFrom, if_neg hone, if_neg hstart, if_pos htwo]
  exact if_pos hb

theorem decodeFrom_three {a b c : UInt8} (i : Nat) (s : List UInt8) (hfirst : 0xE0 ≤ a.toNat)
    (hlast : a.toNat < 0xF0) (hb : isSecondOfThree a b = true) (hc : isTail c = true) :
    decodeFrom i (a :: b :: c :: s) =
      (Char.ofNat (payload (a.toNat - 0xE0) [b, c]) :: ·) <$> decodeFrom (i + 3) s := by
  have hone : ¬ a < 0x80 := not_lt_of_le (Nat.le_trans (by decide) hfirst)
  have hstart : ¬ a < 0xC2 := not_lt_of_le (Nat.le_trans (by decide) hfirst)
  have htwo : ¬ a < 0xE0 := not_lt_of_le hfirst
  have hthree : a < 0xF0 := UInt8.lt_iff_toNat_lt.mpr hlast
  rw [decodeFrom, if_neg hone, if_neg hstart, if_neg htwo, if_pos hthree]
  simp only [hb, hc, Bool.not_true, Bool.false_eq_true, if_false]

theorem decodeFrom_four {a b c d : UInt8} (i : Nat) (s : List UInt8) (hfirst : 0xF0 ≤ a.toNat)
    (hlast : a.toNat < 0xF5) (hb : isSecondOfFour a b = true) (hc : isTail c = true)
    (hd : isTail d = true) :
    decodeFrom i (a :: b :: c :: d :: s) =
      (Char.ofNat (payload (a.toNat - 0xF0) [b, c, d]) :: ·) <$> decodeFrom (i + 4) s := by
  have hone : ¬ a < 0x80 := not_lt_of_le (Nat.le_trans (by decide) hfirst)
  have hstart : ¬ a < 0xC2 := not_lt_of_le (Nat.le_trans (by decide) hfirst)
  have htwo : ¬ a < 0xE0 := not_lt_of_le (Nat.le_trans (by decide) hfirst)
  have hthree : ¬ a < 0xF0 := not_lt_of_le hfirst
  have hfour : a < 0xF5 := UInt8.lt_iff_toNat_lt.mpr hlast
  rw [decodeFrom, if_neg hone, if_neg hstart, if_neg htwo, if_neg hthree, if_pos hfour]
  simp only [hb, hc, hd, Bool.not_true, Bool.false_eq_true, if_false]

/-! ### One character, and a text -/

/-- The bytes of a character read as that character. -/
theorem decodeFrom_encodeChar (i : Nat) (c : Char) (s : List UInt8) :
    decodeFrom i (encodeChar c ++ s) =
      (c :: ·) <$> decodeFrom (i + (encodeChar c).length) s := by
  have hlt := toNat_lt c
  have hsurrogate := not_surrogate c
  have hcharacter : ∀ n, n = c.toNat → Char.ofNat n = c := by
    rintro n rfl
    exact Char.ofNat_toNat c
  have hbyte : ∀ n, n < 0x100 → (UInt8.ofNat n).toNat = n := by
    intro n hn
    simp only [UInt8.toNat_ofNat']
    omega
  rw [encodeChar]
  by_cases hone : c.toNat < 0x80
  · have hlead := hbyte c.toNat (by omega)
    have hascii : UInt8.ofNat c.toNat < 0x80 := by
      rwa [UInt8.lt_iff_toNat_lt, hlead]
    rw [if_pos hone, List.cons_append, decodeFrom.eq_def]
    dsimp only
    rw [if_pos hascii, hlead, Char.ofNat_toNat]
    rfl
  rw [if_neg hone]
  by_cases htwo : c.toNat < 0x800
  · have hlead := hbyte (0xC0 + c.toNat / 0x40) (by omega)
    rw [if_pos htwo]
    refine (decodeFrom_two i s (by omega) (by omega) (isTail_tail _)).trans ?_
    rw [hcharacter]
    · rfl
    · simp only [payload, List.foldl, hlead, toNat_tail]
      omega
  rw [if_neg htwo]
  by_cases hthree : c.toNat < 0x10000
  · have hlead := hbyte (0xE0 + c.toNat / 0x1000) (by omega)
    have hsecond : isSecondOfThree (.ofNat (0xE0 + c.toNat / 0x1000))
        (tail (c.toNat / 0x40)) = true := by
      rw [isSecondOfThree_iff, hlead, toNat_tail]
      exact ⟨isTail_tail _, by omega, by omega⟩
    rw [if_pos hthree]
    refine (decodeFrom_three i s (by omega) (by omega) hsecond (isTail_tail _)).trans ?_
    rw [hcharacter]
    · rfl
    · simp only [payload, List.foldl, hlead, toNat_tail]
      omega
  · have hlead := hbyte (0xF0 + c.toNat / 0x40000) (by omega)
    have hsecond : isSecondOfFour (.ofNat (0xF0 + c.toNat / 0x40000))
        (tail (c.toNat / 0x1000)) = true := by
      rw [isSecondOfFour_iff, hlead, toNat_tail]
      exact ⟨isTail_tail _, by omega, by omega⟩
    rw [if_neg hthree]
    refine (decodeFrom_four i s (by omega) (by omega) hsecond (isTail_tail _)
      (isTail_tail _)).trans ?_
    rw [hcharacter]
    · rfl
    · simp only [payload, List.foldl, hlead, toNat_tail]
      omega

/-- A text in front of other bytes reads as that text, and reading goes on behind it. -/
theorem decodeFrom_append : ∀ (i : Nat) (s : List Char) (rest : List UInt8),
    decodeFrom i (s.flatMap encodeChar ++ rest) =
      (s ++ ·) <$> decodeFrom (i + (s.flatMap encodeChar).length) rest
  | i, [], rest => by
    cases h : decodeFrom i rest <;> simp [h, Functor.map, Except.map]
  | i, c :: s, rest => by
    rw [List.flatMap_cons, List.append_assoc, decodeFrom_encodeChar, decodeFrom_append,
      List.length_append, Nat.add_assoc]
    cases decodeFrom (i + ((encodeChar c).length + (s.flatMap encodeChar).length)) rest <;>
      rfl

theorem decode_encode (s : String) : decode (encode s) = .ok s := by
  have h := decodeFrom_append 0 s.toList []
  rw [List.append_nil] at h
  simp [decode, encode, h, decodeFrom, Functor.map, Except.map]

end SignedHttp.Text.Utf8
