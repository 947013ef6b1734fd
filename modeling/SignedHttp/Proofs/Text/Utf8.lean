import SignedHttp.Text.Utf8.Lemmas

/-!
# What reads as a text was written as it

Bytes that read as a text are the bytes of that text (`encode_of_decode`), so the readable
bytes are those of texts and no others (`decode_eq_ok_iff`). The argument is by the widths of
characters: what a lead byte and its continuation bytes carry is a code point that needs this
width, because overlong forms, surrogates and all above the last code point are refused.

Key theorems: `encode_of_decode`, `decode_eq_ok_iff`, `encode_inj`, `encode_append`.
-/

namespace SignedHttp.Text.Utf8

theorem encode_append (s t : String) : encode (s ++ t) = encode s ++ encode t := by
  rw [encode, String.toList_append, List.flatMap_append, encode, encode]

theorem tail_eq {n : Nat} {b : UInt8} (h : 0x80 + n % 0x40 = b.toNat) : tail n = b :=
  Hex.ofNat_eq h

/-! ### One character of each width -/

theorem encodeChar_one {a : UInt8} (ha : a < 0x80) : encodeChar (Char.ofNat a.toNat) = [a] := by
  have h : a.toNat < 0x80 := UInt8.lt_iff_toNat_lt.mp ha
  rw [encodeChar, toNat_ofNat (by omega), if_pos h, UInt8.ofNat_toNat]

theorem encodeChar_two {a b : UInt8} (ha : ¬ a < 0xC2) (ha' : a < 0xE0) (hb : isTail b = true) :
    encodeChar (Char.ofNat (payload (a.toNat - 0xC0) [b])) = [a, b] := by
  have h1 : 0xC2 ≤ a.toNat := Nat.le_of_not_lt fun h => ha (UInt8.lt_iff_toNat_lt.mpr h)
  have h2 : a.toNat < 0xE0 := UInt8.lt_iff_toNat_lt.mp ha'
  obtain ⟨h3, h4⟩ := (isTail_iff b).mp hb
  have hn : payload (a.toNat - 0xC0) [b] = (a.toNat - 0xC0) * 0x40 + (b.toNat - 0x80) := rfl
  rw [encodeChar, hn, toNat_ofNat (by omega), if_neg (by omega), if_pos (by omega),
    Hex.ofNat_eq (show _ = a.toNat by omega), tail_eq (show _ = b.toNat by omega)]

theorem encodeChar_three {a b c : UInt8} (ha : ¬ a < 0xE0) (ha' : a < 0xF0)
    (hb : isSecondOfThree a b = true) (hc : isTail c = true) :
    encodeChar (Char.ofNat (payload (a.toNat - 0xE0) [b, c])) = [a, b, c] := by
  have h1 : 0xE0 ≤ a.toNat := Nat.le_of_not_lt fun h => ha (UInt8.lt_iff_toNat_lt.mpr h)
  have h2 : a.toNat < 0xF0 := UInt8.lt_iff_toNat_lt.mp ha'
  obtain ⟨hb, h5, h6⟩ := (isSecondOfThree_iff a b).mp hb
  obtain ⟨h3, h4⟩ := (isTail_iff b).mp hb
  obtain ⟨h7, h8⟩ := (isTail_iff c).mp hc
  have hn : payload (a.toNat - 0xE0) [b, c] =
      ((a.toNat - 0xE0) * 0x40 + (b.toNat - 0x80)) * 0x40 + (c.toNat - 0x80) := rfl
  rw [encodeChar, hn, toNat_ofNat (by omega), if_neg (by omega), if_neg (by omega),
    if_pos (by omega), Hex.ofNat_eq (show _ = a.toNat by omega),
    tail_eq (show _ = b.toNat by omega), tail_eq (show _ = c.toNat by omega)]

theorem encodeChar_four {a b c d : UInt8} (ha : ¬ a < 0xF0) (ha' : a < 0xF5)
    (hb : isSecondOfFour a b = true) (hc : isTail c = true) (hd : isTail d = true) :
    encodeChar (Char.ofNat (payload (a.toNat - 0xF0) [b, c, d])) = [a, b, c, d] := by
  have h1 : 0xF0 ≤ a.toNat := Nat.le_of_not_lt fun h => ha (UInt8.lt_iff_toNat_lt.mpr h)
  have h2 : a.toNat < 0xF5 := UInt8.lt_iff_toNat_lt.mp ha'
  obtain ⟨hb, h5, h6⟩ := (isSecondOfFour_iff a b).mp hb
  obtain ⟨h3, h4⟩ := (isTail_iff b).mp hb
  obtain ⟨h7, h8⟩ := (isTail_iff c).mp hc
  obtain ⟨h9, h10⟩ := (isTail_iff d).mp hd
  have hn : payload (a.toNat - 0xF0) [b, c, d] =
      (((a.toNat - 0xF0) * 0x40 + (b.toNat - 0x80)) * 0x40 + (c.toNat - 0x80)) * 0x40 +
        (d.toNat - 0x80) := rfl
  rw [encodeChar, hn, toNat_ofNat (by omega), if_neg (by omega), if_neg (by omega),
    if_neg (by omega), Hex.ofNat_eq (show _ = a.toNat by omega),
    tail_eq (show _ = b.toNat by omega), tail_eq (show _ = c.toNat by omega),
    tail_eq (show _ = d.toNat by omega)]

/-! ### A text -/

/-- A character and what follows it, once the rest is read. -/
theorem flatMap_of_map_eq_ok {c : Char} {rest : Except Malformed (List Char)} {s : List Char}
    {first after : List UInt8} (h : (c :: ·) <$> rest = .ok s) (hc : encodeChar c = first)
    (ih : ∀ s, rest = .ok s → s.flatMap encodeChar = after) :
    s.flatMap encodeChar = first ++ after := by
  cases rest with
  | error e => exact absurd h (by simp [Functor.map, Except.map])
  | ok t =>
    obtain rfl : c :: t = s := Except.ok.inj h
    rw [List.flatMap_cons, hc, ih t rfl]

/-- Bytes that read as characters are the bytes of these. -/
theorem flatMap_of_decodeFrom (i : Nat) (bytes : List UInt8) : ∀ s : List Char,
    decodeFrom i bytes = .ok s → s.flatMap encodeChar = bytes := by
  -- reading goes on in four cases, one for each width; in all others it is refused
  fun_induction decodeFrom i bytes with
  | case1 i =>
    intro s h
    obtain rfl : [] = s := Except.ok.inj h
    rfl
  | case2 i a s ha ih =>
    exact fun t h => flatMap_of_map_eq_ok h (encodeChar_one ha) ih
  | case5 i a _ ha ha' b s hb ih =>
    exact fun t h => flatMap_of_map_eq_ok h (encodeChar_two ha ha' hb) ih
  | case12 i a _ _ ha ha' b c s hb hc ih =>
    rw [Bool.not_eq_true, Bool.not_eq_false'] at hb hc
    exact fun t h => flatMap_of_map_eq_ok h (encodeChar_three ha ha' hb hc) ih
  | case22 i a _ _ _ ha ha' b c d s hb hc hd ih =>
    rw [Bool.not_eq_true, Bool.not_eq_false'] at hb hc hd
    exact fun t h => flatMap_of_map_eq_ok h (encodeChar_four ha ha' hb hc hd) ih
  | _ =>
    intro s h
    cases h

theorem encode_of_decode {bytes : List UInt8} {s : String} (h : decode bytes = .ok s) :
    encode s = bytes := by
  rw [decode] at h
  cases hs : decodeFrom 0 bytes with
  | error e => rw [hs] at h; cases h
  | ok t =>
    rw [hs] at h
    obtain rfl : String.ofList t = s := Except.ok.inj h
    rw [encode, String.toList_ofList, flatMap_of_decodeFrom 0 bytes t hs]

theorem decode_eq_ok_iff (bytes : List UInt8) (s : String) :
    decode bytes = .ok s ↔ bytes = encode s :=
  ⟨fun h => (encode_of_decode h).symm, fun h => h ▸ decode_encode s⟩

theorem encode_inj {s t : String} : encode s = encode t ↔ s = t := by
  constructor
  · intro h
    have hs := decode_encode s
    rw [h, decode_encode] at hs
    exact (Except.ok.inj hs).symm
  · rintro rfl
    rfl

end SignedHttp.Text.Utf8
