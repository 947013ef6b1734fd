import SignedHttp.Proofs.Text.Utf8

/-!
# Well-formed bytes

Which bytes are well formed is said here without reading them: they are a row of characters, and a
character is a lead byte with the continuation bytes that it calls for. The number that these carry
must need as many bytes, must not be a surrogate and must not lie above the last code point.

The bytes of a character are those that the character is written as (`isCharacter_iff`), so that the
well-formed bytes are those of texts (`wellFormed_iff`), and those that read as texts
(`wellFormed_iff_decode`). Bytes that do not read are refused at the end of the longest well-formed
bytes that they begin with (`isLongest_of_decode`).

Key definitions: `Carries`, `IsCharacter`, `WellFormed`, `IsLongest`.
Key theorems: `isCharacter_iff`, `wellFormed_iff_decode`, `isLongest_of_decode`.
-/

namespace SignedHttp.Text.Utf8

/-! ### Characters and rows of them -/

/-- Whether a byte carries six more bits of a character. -/
def IsContinuation (b : UInt8) : Prop :=
  0x80 ≤ b.toNat ∧ b.toNat < 0xC0

/-- A lead byte and the continuation bytes that it calls for, with the number that they carry. -/
inductive Carries : List UInt8 → Nat → Prop
  | one {a : UInt8} (ha : a.toNat < 0x80) : Carries [a] a.toNat
  | two {a b : UInt8} (ha : 0xC0 ≤ a.toNat ∧ a.toNat < 0xE0) (hb : IsContinuation b) :
      Carries [a, b] ((a.toNat - 0xC0) * 0x40 + (b.toNat - 0x80))
  | three {a b c : UInt8} (ha : 0xE0 ≤ a.toNat ∧ a.toNat < 0xF0) (hb : IsContinuation b)
      (hc : IsContinuation c) :
      Carries [a, b, c]
        ((a.toNat - 0xE0) * 0x1000 + (b.toNat - 0x80) * 0x40 + (c.toNat - 0x80))
  | four {a b c d : UInt8} (ha : 0xF0 ≤ a.toNat ∧ a.toNat < 0xF8) (hb : IsContinuation b)
      (hc : IsContinuation c) (hd : IsContinuation d) :
      Carries [a, b, c, d]
        ((a.toNat - 0xF0) * 0x40000 + (b.toNat - 0x80) * 0x1000 + (c.toNat - 0x80) * 0x40 +
          (d.toNat - 0x80))

/-- The least number that needs so many bytes. -/
def least : Nat → Nat
  | 0 | 1 => 0
  | 2 => 0x80
  | 3 => 0x800
  | _ => 0x10000

/-- Whether bytes are those of a character: they are not overlong, and the number that they carry is
neither a surrogate nor above the last code point. -/
def IsCharacter (bytes : List UInt8) : Prop :=
  ∃ n, Carries bytes n ∧ least bytes.length ≤ n ∧ ¬ (0xD800 ≤ n ∧ n ≤ 0xDFFF) ∧ n ≤ 0x10FFFF

inductive WellFormed : List UInt8 → Prop
  | nil : WellFormed []
  | next {first rest : List UInt8} (h : IsCharacter first) (hrest : WellFormed rest) :
      WellFormed (first ++ rest)

/-- The length of the longest well-formed bytes that bytes begin with. -/
structure IsLongest (bytes : List UInt8) (n : Nat) : Prop where
  reached : ∃ front, front <+: bytes ∧ WellFormed front ∧ front.length = n
  most : ∀ front, front <+: bytes → WellFormed front → front.length ≤ n

/-! ### Well-formed bytes are those of texts -/

/-- The bytes of a character are those that it is written as. -/
theorem isCharacter_iff (bytes : List UInt8) :
    IsCharacter bytes ↔ ∃ c, encodeChar c = bytes := by
  constructor
  · rintro ⟨n, hcarries, hleast, hsurrogate, hmost⟩
    refine ⟨Char.ofNat n, ?_⟩
    unfold encodeChar
    rw [toNat_ofNat (by omega)]
    cases hcarries with
    | @one a ha =>
      simp only [ha, if_true, UInt8.ofNat_toNat]
    | @two a b ha hb =>
      unfold IsContinuation at hb
      simp only [least, List.length_cons, List.length_nil] at hleast
      rw [if_neg (by omega), if_pos (by omega), Hex.ofNat_eq (show _ = a.toNat by omega),
        tail_eq (show _ = b.toNat by omega)]
    | @three a b c ha hb hc =>
      unfold IsContinuation at hb hc
      simp only [least, List.length_cons, List.length_nil] at hleast
      rw [if_neg (by omega), if_neg (by omega), if_pos (by omega),
        Hex.ofNat_eq (show _ = a.toNat by omega), tail_eq (show _ = b.toNat by omega),
        tail_eq (show _ = c.toNat by omega)]
    | @four a b c d ha hb hc hd =>
      unfold IsContinuation at hb hc hd
      simp only [least, List.length_cons, List.length_nil] at hleast
      rw [if_neg (by omega), if_neg (by omega), if_neg (by omega),
        Hex.ofNat_eq (show _ = a.toNat by omega), tail_eq (show _ = b.toNat by omega),
        tail_eq (show _ = c.toNat by omega), tail_eq (show _ = d.toNat by omega)]
  · rintro ⟨c, rfl⟩
    have hlt := toNat_lt c
    have hsurrogate := not_surrogate c
    have hlead : ∀ m, m < 0x100 → (UInt8.ofNat m).toNat = m := fun m hm => by
      simp only [UInt8.toNat_ofNat']
      omega
    have htail : ∀ m, IsContinuation (tail m) := fun m => by
      unfold IsContinuation
      rw [toNat_tail]
      omega
    unfold encodeChar
    by_cases h1 : c.toNat < 0x80
    · have ha := hlead c.toNat (by omega)
      rw [if_pos h1]
      refine ⟨_, .one (by omega), ?_⟩
      simp only [ha, least, List.length_cons, List.length_nil]
      omega
    by_cases h2 : c.toNat < 0x800
    · have ha := hlead (0xC0 + c.toNat / 0x40) (by omega)
      rw [if_neg h1, if_pos h2]
      refine ⟨_, .two (by omega) (htail _), ?_⟩
      simp only [toNat_tail, ha, least, List.length_cons, List.length_nil]
      omega
    by_cases h3 : c.toNat < 0x10000
    · have ha := hlead (0xE0 + c.toNat / 0x1000) (by omega)
      rw [if_neg h1, if_neg h2, if_pos h3]
      refine ⟨_, .three (by omega) (htail _) (htail _), ?_⟩
      simp only [toNat_tail, ha, least, List.length_cons, List.length_nil]
      omega
    · have ha := hlead (0xF0 + c.toNat / 0x40000) (by omega)
      rw [if_neg h1, if_neg h2, if_neg h3]
      refine ⟨_, .four (by omega) (htail _) (htail _) (htail _), ?_⟩
      simp only [toNat_tail, ha, least, List.length_cons, List.length_nil]
      omega

theorem wellFormed_flatMap : ∀ s : List Char, WellFormed (s.flatMap encodeChar)
  | [] => .nil
  | c :: s => .next ((isCharacter_iff _).mpr ⟨c, rfl⟩) (wellFormed_flatMap s)

theorem wellFormed_iff (bytes : List UInt8) :
    WellFormed bytes ↔ ∃ s : List Char, s.flatMap encodeChar = bytes := by
  constructor
  · intro h
    induction h with
    | nil => exact ⟨[], rfl⟩
    | next h _ ih =>
      obtain ⟨c, rfl⟩ := (isCharacter_iff _).mp h
      obtain ⟨s, rfl⟩ := ih
      exact ⟨c :: s, rfl⟩
  · rintro ⟨s, rfl⟩
    exact wellFormed_flatMap s

theorem wellFormed_iff_decode (bytes : List UInt8) :
    WellFormed bytes ↔ ∃ s, decode bytes = .ok s := by
  simp only [decode_eq_ok_iff, wellFormed_iff]
  constructor
  · rintro ⟨s, rfl⟩
    exact ⟨.ofList s, by simp [encode]⟩
  · rintro ⟨s, rfl⟩
    exact ⟨s.toList, rfl⟩

/-! ### Where reading is refused -/

/-- What is refused behind a character is refused at the end of well-formed bytes, if it is so
without the character in front. -/
theorem exists_behind {i k : Nat} {c : Char} {first rest : List UInt8}
    {read : Except Malformed (List Char)} {e : Malformed} (h : (c :: ·) <$> read = .error e)
    (hc : encodeChar c = first) (hk : first.length = k)
    (ih : ∀ e, read = .error e →
      ∃ front, front <+: rest ∧ WellFormed front ∧ e.position = i + k + front.length) :
    ∃ front, front <+: first ++ rest ∧ WellFormed front ∧ e.position = i + front.length := by
  cases read with
  | ok s => cases h
  | error other =>
    cases h
    obtain ⟨front, hfront, hwell, hposition⟩ := ih e rfl
    refine ⟨first ++ front, ?_, .next ((isCharacter_iff _).mpr ⟨c, hc⟩) hwell, ?_⟩
    · simpa using hfront
    · simp only [List.length_append]
      omega

/-- What is refused lies behind well-formed bytes. -/
theorem exists_of_decodeFrom (i : Nat) (bytes : List UInt8) : ∀ e : Malformed,
    decodeFrom i bytes = .error e →
      ∃ front, front <+: bytes ∧ WellFormed front ∧ e.position = i + front.length := by
  -- a character that reads is put in front; every other case is refused where it stands
  fun_induction decodeFrom i bytes with
  | case1 =>
    intro e h
    cases h
  | case2 i a s ha ih =>
    exact fun e h => exists_behind h (encodeChar_one ha) rfl ih
  | case5 i a _ ha ha' b s hb ih =>
    exact fun e h => exists_behind h (encodeChar_two ha ha' hb) rfl ih
  | case12 i a _ _ ha ha' b c s hb hc ih =>
    rw [Bool.not_eq_true, Bool.not_eq_false'] at hb hc
    exact fun e h => exists_behind h (encodeChar_three ha ha' hb hc) rfl ih
  | case22 i a _ _ _ ha ha' b c d s hb hc hd ih =>
    rw [Bool.not_eq_true, Bool.not_eq_false'] at hb hc hd
    exact fun e h => exists_behind h (encodeChar_four ha ha' hb hc hd) rfl ih
  | _ =>
    rintro e h
    cases h
    exact ⟨[], List.nil_prefix, .nil, rfl⟩

/-- Bytes that do not read as a text are refused at the end of the longest well-formed bytes that
they begin with. -/
theorem isLongest_of_decode {bytes : List UInt8} {e : Malformed} (h : decode bytes = .error e) :
    IsLongest bytes e.position := by
  have hfrom : decodeFrom 0 bytes = .error e := by
    unfold decode at h
    cases hs : decodeFrom 0 bytes with
    | ok s =>
      rw [hs] at h
      cases h
    | error other =>
      rw [hs] at h
      cases h
      rfl
  refine ⟨?_, fun front hfront hwell => ?_⟩
  · obtain ⟨front, hfront, hwell, hposition⟩ := exists_of_decodeFrom 0 bytes e hfrom
    exact ⟨front, hfront, hwell, by omega⟩
  · -- well-formed bytes in front read, so that the refusal is one of what stands behind them
    obtain ⟨rest, rfl⟩ := hfront
    obtain ⟨s, rfl⟩ := (wellFormed_iff front).mp hwell
    rw [decodeFrom_append] at hfrom
    cases hrest : decodeFrom (0 + (s.flatMap encodeChar).length) rest with
    | ok t =>
      rw [hrest] at hfrom
      cases hfrom
    | error other =>
      rw [hrest] at hfrom
      cases hfrom
      obtain ⟨_, _, _, hposition⟩ := exists_of_decodeFrom _ rest e hrest
      omega

end SignedHttp.Text.Utf8
