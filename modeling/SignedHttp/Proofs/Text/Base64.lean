import SignedHttp.Text.Ascii
import SignedHttp.Text.Base64
import SignedHttp.Text.Hex

/-!
# Reading what was written in base64

Reading the digits of some bytes gives the bytes back (`decode?_encode`): a group of four
digits carries all bits of its three bytes, and no digit is the sign of padding, so only the
last group is read as a shorter one. Nothing is written but digits and signs of padding
(`mem_encodeChars`), so all of it is ASCII (`isAscii_encode`).

Key theorems: `decode?_encode`, `encode_inj`, `mem_encodeChars`, `isAscii_encode`.
-/

namespace SignedHttp.Text.Base64

theorem digit_ne_padding : ∀ n < 64, digit n ≠ '=' := by decide

theorem isAscii_digit : ∀ n < 64, Ascii.isAscii (digit n) = true := by decide

theorem isAscii_padding : Ascii.isAscii '=' = true := rfl

theorem decodeChars_encodeChars : ∀ bytes : List UInt8,
    decodeChars (encodeChars bytes) = some bytes
  | [] => rfl
  | [a] => by
    have ha := a.toNat_lt
    have h1 := digit?_digit (a.toNat / 4) (by omega)
    have h2 := digit?_digit (a.toNat % 4 * 16) (by omega)
    have hfirst : UInt8.ofNat (4 * (a.toNat / 4) + a.toNat % 4 * 16 / 16) = a :=
      Hex.ofNat_eq (by omega)
    rw [encodeChars, decodeChars, h1, h2]
    simp only [Option.bind_eq_bind, Option.bind_some, hfirst]
    rfl
  | [a, b] => by
    have ha := a.toNat_lt
    have hb := b.toNat_lt
    have h1 := digit?_digit (a.toNat / 4) (by omega)
    have h2 := digit?_digit (a.toNat % 4 * 16 + b.toNat / 16) (by omega)
    have h3 := digit?_digit (b.toNat % 16 * 4) (by omega)
    have hp := digit_ne_padding (b.toNat % 16 * 4) (by omega)
    have hfirst : UInt8.ofNat (4 * (a.toNat / 4) + (a.toNat % 4 * 16 + b.toNat / 16) / 16) = a :=
      Hex.ofNat_eq (by omega)
    have hsecond : UInt8.ofNat ((a.toNat % 4 * 16 + b.toNat / 16) % 16 * 16 +
        b.toNat % 16 * 4 / 4) = b :=
      Hex.ofNat_eq (by omega)
    rw [encodeChars, decodeChars, h1, h2, h3]
    simp only [Option.bind_eq_bind, Option.bind_some, hfirst, hsecond, hp, decide_false,
      Bool.false_and, Bool.false_eq_true, if_false]
    rfl
  | a :: b :: c :: s => by
    have ha := a.toNat_lt
    have hb := b.toNat_lt
    have hc := c.toNat_lt
    have h1 := digit?_digit (a.toNat / 4) (by omega)
    have h2 := digit?_digit (a.toNat % 4 * 16 + b.toNat / 16) (by omega)
    have h3 := digit?_digit (b.toNat % 16 * 4 + c.toNat / 64) (by omega)
    have h4 := digit?_digit (c.toNat % 64) (by omega)
    have hp := digit_ne_padding (b.toNat % 16 * 4 + c.toNat / 64) (by omega)
    have hp' := digit_ne_padding (c.toNat % 64) (by omega)
    have hfirst : UInt8.ofNat (4 * (a.toNat / 4) + (a.toNat % 4 * 16 + b.toNat / 16) / 16) = a :=
      Hex.ofNat_eq (by omega)
    have hsecond : UInt8.ofNat ((a.toNat % 4 * 16 + b.toNat / 16) % 16 * 16 +
        (b.toNat % 16 * 4 + c.toNat / 64) / 4) = b :=
      Hex.ofNat_eq (by omega)
    have hthird : UInt8.ofNat ((b.toNat % 16 * 4 + c.toNat / 64) % 4 * 64 + c.toNat % 64) = c :=
      Hex.ofNat_eq (by omega)
    rw [encodeChars, decodeChars, h1, h2, h3, h4]
    simp only [Option.bind_eq_bind, Option.bind_some, hfirst, hsecond, hthird, hp, hp',
      decodeChars_encodeChars s, decide_false, Bool.false_and, Bool.false_eq_true, if_false]
    rfl

theorem decode?_encode (bytes : List UInt8) : decode? (encode bytes) = some bytes := by
  rw [decode?, encode, String.toList_ofList, decodeChars_encodeChars]

theorem encode_inj {bytes others : List UInt8} : encode bytes = encode others ↔ bytes = others := by
  constructor
  · intro h
    have hbytes := decode?_encode bytes
    rw [h, decode?_encode] at hbytes
    exact (Option.some.inj hbytes).symm
  · rintro rfl
    rfl

/-- The text of some bytes is written with digits and signs of padding. -/
theorem mem_encodeChars : ∀ {bytes : List UInt8} {c : Char}, c ∈ encodeChars bytes →
    c = '=' ∨ ∃ n < 64, c = digit n
  | [], c, h => by cases h
  | [a], c, h => by
    have ha := a.toNat_lt
    simp only [encodeChars, List.mem_cons, List.not_mem_nil, or_false] at h
    rcases h with rfl | rfl | rfl | rfl
    · exact .inr ⟨_, by omega, rfl⟩
    · exact .inr ⟨_, by omega, rfl⟩
    · exact .inl rfl
    · exact .inl rfl
  | [a, b], c, h => by
    have ha := a.toNat_lt
    have hb := b.toNat_lt
    simp only [encodeChars, List.mem_cons, List.not_mem_nil, or_false] at h
    rcases h with rfl | rfl | rfl | rfl
    · exact .inr ⟨_, by omega, rfl⟩
    · exact .inr ⟨_, by omega, rfl⟩
    · exact .inr ⟨_, by omega, rfl⟩
    · exact .inl rfl
  | a :: b :: d :: s, c, h => by
    have ha := a.toNat_lt
    have hb := b.toNat_lt
    have hd := d.toNat_lt
    simp only [encodeChars, List.mem_cons] at h
    rcases h with rfl | rfl | rfl | rfl | h
    · exact .inr ⟨_, by omega, rfl⟩
    · exact .inr ⟨_, by omega, rfl⟩
    · exact .inr ⟨_, by omega, rfl⟩
    · exact .inr ⟨_, by omega, rfl⟩
    · exact mem_encodeChars h

/-- Bytes that do not make whole groups of three are padded. -/
theorem padding_mem_encodeChars : ∀ {bytes : List UInt8}, bytes.length % 3 ≠ 0 →
    '=' ∈ encodeChars bytes
  | [], h => absurd rfl h
  | [_], _ => by simp [encodeChars]
  | [_, _], _ => by simp [encodeChars]
  | _ :: _ :: _ :: s, h => by
    rw [encodeChars]
    refine List.mem_cons_of_mem _ (List.mem_cons_of_mem _ (List.mem_cons_of_mem _
      (List.mem_cons_of_mem _ (padding_mem_encodeChars fun hs => h ?_))))
    simp only [List.length_cons]
    omega

theorem isAscii_encode (bytes : List UInt8) :
    ∀ c ∈ (encode bytes).toList, Ascii.isAscii c = true := by
  rw [encode, String.toList_ofList]
  intro c hc
  rcases mem_encodeChars hc with rfl | ⟨n, hn, rfl⟩
  · exact isAscii_padding
  · exact isAscii_digit n hn

end SignedHttp.Text.Base64
