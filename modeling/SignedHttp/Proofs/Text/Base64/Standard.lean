import Mathlib.Data.Nat.Digits.Defs
import Mathlib.Tactic.Ring
import SignedHttp.Proofs.Text.Base64

/-!
# Standard base64

Which text is the standard one of some bytes is said here through numbers. Letters are digits in
base sixty-four, bytes are digits in base two hundred and fifty-six, and the number of the letters
is that of the bytes with zero bits behind it, two for each sign of padding that makes whole groups
of four. There is just one such text (`IsStandard.unique`), and it is the one that is written
(`isStandard_iff`).

The induction takes three bytes at a time. It carries only that the letters behind them are right
for the bytes behind them, since how many letters these are says how far the numbers in front are
shifted (`pow_letters`).

Key definitions: `alphabet`, `paddingOf`, `numberOf`, `Letters`, `IsStandard`.
Key theorems: `IsStandard.unique`, `isStandard_iff`.
-/

namespace SignedHttp.Text.Base64

/-- The letters in the order of their values. -/
def alphabet : List Char :=
  "ABCDEFGHIJKLMNOPQRSTUVWXYZabcdefghijklmnopqrstuvwxyz0123456789+/".toList

def letter (value : Nat) : Char :=
  alphabet.getD value '='

/-- How many signs of padding stand behind the letters for so many bytes. -/
def paddingOf (count : Nat) : Nat :=
  (3 - count % 3) % 3

/-- The number that digits make, of which the first one counts most. -/
def numberOf (base : Nat) (digits : List Nat) : Nat :=
  Nat.ofDigits base digits.reverse

/-- Whether values are those of the letters for some bytes. -/
structure Letters (bytes : List UInt8) (values : List Nat) : Prop where
  lt : ∀ value ∈ values, value < 64
  length : values.length + paddingOf bytes.length = 4 * ((bytes.length + 2) / 3)
  /-- Each sign of padding stands for two zero bits behind the bits of the bytes. -/
  number : numberOf 64 values =
    numberOf 256 (bytes.map UInt8.toNat) * 4 ^ paddingOf bytes.length

/-- Whether a text is the standard one of some bytes, and reads as them. -/
structure IsStandard (bytes : List UInt8) (text : String) : Prop where
  spelled : ∃ values, Letters bytes values ∧
    text.toList = values.map letter ++ List.replicate (paddingOf bytes.length) '='
  length : text.length = 4 * ((bytes.length + 2) / 3)
  decodes : decode? text = some bytes

theorem letter_eq_digit : ∀ value < 64, letter value = digit value := by decide

theorem letter_mem_alphabet {value : Nat} (h : value < 64) : letter value ∈ alphabet := by
  have hlength : alphabet.length = 64 := by decide
  rw [letter, List.getD_eq_getElem?_getD, List.getElem?_eq_getElem (hlength ▸ h)]
  exact List.getElem_mem _

/-! ### Numbers -/

theorem numberOf_append (base : Nat) (front digits : List Nat) :
    numberOf base (front ++ digits) =
      numberOf base digits + base ^ digits.length * numberOf base front := by
  rw [numberOf, List.reverse_append, Nat.ofDigits_append, List.length_reverse]
  rfl

/-- Letters and padding have as many bits as the bytes and the zero bits behind them. -/
theorem pow_letters {count letters : Nat}
    (h : letters + paddingOf count = 4 * ((count + 2) / 3)) :
    64 ^ letters = 256 ^ count * 4 ^ paddingOf count := by
  have hbits : 3 * letters = 4 * count + paddingOf count := by
    unfold paddingOf at h ⊢
    omega
  calc 64 ^ letters = 4 ^ (3 * letters) := by rw [Nat.pow_mul]
    _ = 4 ^ (4 * count) * 4 ^ paddingOf count := by rw [hbits, Nat.pow_add]
    _ = 256 ^ count * 4 ^ paddingOf count := by rw [Nat.pow_mul 4 4]

/-- The values of the letters for three bytes in front of the rest. -/
theorem Letters.group {a b c : UInt8} {bytes : List UInt8} {values : List Nat}
    (h : Letters bytes values) :
    Letters (a :: b :: c :: bytes)
      (a.toNat / 4 :: (a.toNat % 4 * 16 + b.toNat / 16) ::
        (b.toNat % 16 * 4 + c.toNat / 64) :: c.toNat % 64 :: values) := by
  have ha := a.toNat_lt
  have hb := b.toNat_lt
  have hc := c.toNat_lt
  have hpadding : paddingOf (a :: b :: c :: bytes).length = paddingOf bytes.length := by
    unfold paddingOf
    simp only [List.length_cons]
    omega
  refine ⟨?_, ?_, ?_⟩
  · simp only [List.forall_mem_cons]
    exact ⟨by omega, by omega, by omega, by omega, h.lt⟩
  · have hlength := h.length
    rw [hpadding]
    simp only [List.length_cons]
    omega
  · have hfront : numberOf 64 [a.toNat / 4, a.toNat % 4 * 16 + b.toNat / 16,
        b.toNat % 16 * 4 + c.toNat / 64, c.toNat % 64] =
          numberOf 256 [a.toNat, b.toNat, c.toNat] := by
      simp only [numberOf, List.reverse_cons, List.reverse_nil, List.nil_append, List.cons_append,
        Nat.ofDigits_cons, Nat.ofDigits_nil]
      omega
    have hvalues := numberOf_append 64 [a.toNat / 4, a.toNat % 4 * 16 + b.toNat / 16,
      b.toNat % 16 * 4 + c.toNat / 64, c.toNat % 64] values
    have hbytes := numberOf_append 256 [a.toNat, b.toNat, c.toNat] (bytes.map UInt8.toNat)
    rw [List.length_map] at hbytes
    simp only [List.cons_append, List.nil_append] at hvalues hbytes
    simp only [hpadding, List.map_cons]
    rw [hvalues, hbytes, h.number, pow_letters h.length, hfront]
    ring

theorem exists_letters : ∀ bytes : List UInt8, ∃ values, Letters bytes values ∧
    encodeChars bytes = values.map letter ++ List.replicate (paddingOf bytes.length) '='
  | [] => ⟨[], ⟨fun _ h => absurd h List.not_mem_nil, rfl, rfl⟩, rfl⟩
  | [a] => by
    have ha := a.toNat_lt
    refine ⟨[a.toNat / 4, a.toNat % 4 * 16], ⟨?_, by simp [paddingOf], ?_⟩, ?_⟩
    · simp only [List.forall_mem_cons, List.not_mem_nil, false_implies, implies_true, and_true]
      exact ⟨by omega, by omega⟩
    · change numberOf 64 [a.toNat / 4, a.toNat % 4 * 16] = numberOf 256 [a.toNat] * 4 ^ 2
      simp only [numberOf, List.reverse_cons, List.reverse_nil, List.nil_append, List.cons_append,
        Nat.ofDigits_cons, Nat.ofDigits_nil]
      omega
    · rw [encodeChars, List.map_cons, List.map_singleton, letter_eq_digit _ (by omega),
        letter_eq_digit _ (by omega)]
      rfl
  | [a, b] => by
    have ha := a.toNat_lt
    have hb := b.toNat_lt
    refine ⟨[a.toNat / 4, a.toNat % 4 * 16 + b.toNat / 16, b.toNat % 16 * 4],
      ⟨?_, by simp [paddingOf], ?_⟩, ?_⟩
    · simp only [List.forall_mem_cons, List.not_mem_nil, false_implies, implies_true, and_true]
      exact ⟨by omega, by omega, by omega⟩
    · change numberOf 64 [a.toNat / 4, a.toNat % 4 * 16 + b.toNat / 16, b.toNat % 16 * 4] =
        numberOf 256 [a.toNat, b.toNat] * 4 ^ 1
      simp only [numberOf, List.reverse_cons, List.reverse_nil, List.nil_append, List.cons_append,
        Nat.ofDigits_cons, Nat.ofDigits_nil]
      omega
    · rw [encodeChars, List.map_cons, List.map_cons, List.map_singleton,
        letter_eq_digit _ (by omega), letter_eq_digit _ (by omega), letter_eq_digit _ (by omega)]
      rfl
  | a :: b :: c :: bytes => by
    have ha := a.toNat_lt
    have hb := b.toNat_lt
    have hc := c.toNat_lt
    obtain ⟨values, hvalues, hchars⟩ := exists_letters bytes
    refine ⟨_, hvalues.group, ?_⟩
    have hpadding : paddingOf (a :: b :: c :: bytes).length = paddingOf bytes.length := by
      unfold paddingOf
      simp only [List.length_cons]
      omega
    rw [encodeChars, hpadding, hchars]
    simp only [List.map_cons, List.cons_append]
    rw [letter_eq_digit _ (by omega), letter_eq_digit _ (by omega), letter_eq_digit _ (by omega),
      letter_eq_digit _ (by omega)]

/-! ### The standard text -/

theorem isStandard_encode (bytes : List UInt8) : IsStandard bytes (encode bytes) where
  spelled := by
    rw [encode, String.toList_ofList]
    exact exists_letters bytes
  length := by
    rw [encode, String.length_ofList, length_encodeChars]
  decodes := decode?_encode bytes

theorem Letters.unique {bytes : List UInt8} {values others : List Nat} (h : Letters bytes values)
    (h' : Letters bytes others) : values = others := by
  have hlength : values.reverse.length = others.reverse.length := by
    have := h.length
    have := h'.length
    simp only [List.length_reverse]
    omega
  refine List.reverse_inj.mp (Nat.ofDigits_inj_of_len_eq (b := 64) (by decide) hlength ?_ ?_
    (h.number.trans h'.number.symm))
  · simpa using h.lt
  · simpa using h'.lt

theorem IsStandard.unique {bytes : List UInt8} {text other : String} (h : IsStandard bytes text)
    (h' : IsStandard bytes other) : text = other := by
  obtain ⟨values, hvalues, htext⟩ := h.spelled
  obtain ⟨others, hothers, hother⟩ := h'.spelled
  rw [← String.toList_inj, htext, hother, hvalues.unique hothers]

theorem isStandard_iff (bytes : List UInt8) (text : String) :
    IsStandard bytes text ↔ text = encode bytes := by
  constructor
  · exact fun h => h.unique (isStandard_encode bytes)
  · rintro rfl
    exact isStandard_encode bytes

end SignedHttp.Text.Base64
