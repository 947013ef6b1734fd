import SignedHttp.Proofs.Signing
import SignedHttp.Proofs.Text.Base64.Standard
import SignedHttp.Proofs.Text.Decimal
import SignedHttp.Text.Blank

/-!
# The shape of timestamps and signatures

A timestamp that was read from the clock is the numeral of its milliseconds, and a signature is
forty-three base64 letters with one sign of padding behind them (`Signer.readable_of_sign`). So
both are solid: no character of theirs is a comma or blank. Where such texts are joined, or written
into a line, a reader can tell where they end.

Key definitions: `Text.Decimal.IsNumeral`, `Signature.IsWritten`, `SignedHeaders.Readable`.
Key theorems: `Text.Decimal.isNumeral_numeral`, `Signature.isWritten_ofKey`,
`Signer.readable_of_sign`.
-/

namespace SignedHttp

/-- Whether a text is a numeral of an integer: digits that denote it, behind a sign if it is
negative. -/
inductive Text.Decimal.IsNumeral : List Char → Int → Prop
  | plain {digits : List Char} (hne : digits ≠ []) (hdigits : ∀ c ∈ digits, c.isDigit = true) :
      IsNumeral digits (value digits)
  | negative {digits : List Char} (hne : digits ≠ [])
      (hdigits : ∀ c ∈ digits, c.isDigit = true) : IsNumeral ('-' :: digits) (-value digits)

theorem Text.Decimal.isNumeral_numeral (n : Int) : IsNumeral (numeral n).toList n := by
  have hne := digits_ne_nil n.natAbs
  have hdigits : ∀ c ∈ digits n.natAbs, c.isDigit = true := fun c hc => isDigit_of_mem_digits hc
  have hvalue := value_digits n.natAbs
  rw [numeral, String.toList_ofList]
  split
  · have hn : -(value (digits n.natAbs) : Int) = n := by omega
    have hnumeral := IsNumeral.negative hne hdigits
    rwa [hn] at hnumeral
  · have hn : (value (digits n.natAbs) : Int) = n := by omega
    have hnumeral := IsNumeral.plain hne hdigits
    rwa [hn] at hnumeral

/-- Whether a text is written like a signature: forty-three letters and one sign of padding. -/
def Signature.IsWritten (sign : List Char) : Prop :=
  sign.length = 44 ∧
    ∃ letters, (∀ c ∈ letters, c ∈ Text.Base64.alphabet) ∧ sign = letters ++ ['=']

theorem Signature.isWritten_ofKey (key message : List UInt8) :
    IsWritten (ofKey key message).toList := by
  have hlength : (Crypto.hmacSha256 key message).length = 32 := Crypto.length_hmacSha256 key message
  have hstandard := Text.Base64.isStandard_encode (Crypto.hmacSha256 key message)
  obtain ⟨values, hvalues, htext⟩ := hstandard.spelled
  refine ⟨length_ofKey key message, values.map Text.Base64.letter, fun c hc => ?_, ?_⟩
  · obtain ⟨value, hvalue, rfl⟩ := List.mem_map.mp hc
    exact Text.Base64.letter_mem_alphabet (hvalues.lt value hvalue)
  · rw [hlength] at htext
    exact htext

/-- Whether a character neither separates values nor is blank. -/
def Text.isSolid (c : Char) : Bool :=
  c ≠ ',' && !isBlank c

/-- What a reader can rely on in a signing that read the clock: the shape of the signature and of
the timestamp, which denotes the milliseconds that were read. -/
structure SignedHeaders.Readable (clock : Clock) (signed : SignedHeaders) : Prop where
  sign : Signature.IsWritten signed.sign.toList
  timestamp : ∃ n, clock.read.1.milliseconds = .ok n ∧
    Text.Decimal.IsNumeral signed.timestamp.toList n
  /-- Neither brings a separator or a line break into a field. -/
  solid : ∀ c ∈ signed.sign.toList ++ signed.timestamp.toList, Text.isSolid c = true

theorem Text.Decimal.IsNumeral.isSolid {s : List Char} {n : Int} (h : IsNumeral s n) :
    ∀ c ∈ s, Text.isSolid c = true := by
  have hdigit : ∀ c : Char, c.isDigit = true → Text.isSolid c = true := fun c hc =>
    Ascii.forall_isAscii (p := fun c => c.isDigit = true → Text.isSolid c = true) (by decide)
      (Ascii.isAscii_of_isDigit hc) hc
  cases h with
  | plain _ hdigits => exact fun c hc => hdigit c (hdigits c hc)
  | negative _ hdigits =>
    exact List.forall_mem_cons.mpr ⟨by decide, fun c hc => hdigit c (hdigits c hc)⟩

theorem Signature.IsWritten.isSolid {sign : List Char} (h : IsWritten sign) :
    ∀ c ∈ sign, Text.isSolid c = true := by
  obtain ⟨-, letters, hletters, rfl⟩ := h
  have hletter : Text.Base64.alphabet.all Text.isSolid = true := by decide
  intro c hc
  rcases List.mem_append.mp hc with hc | hc
  · exact List.all_eq_true.mp hletter c (hletters c hc)
  · rw [List.mem_singleton.mp hc]
    decide

namespace Signer

variable {secret base : Payload} {timestampName signName : String} {clock : Clock} {url : Json}
  {body : Payload} {signed : SignedHeaders}

theorem readable_of_sign
    (h : ((named secret base timestampName signName).sign clock url body .null).result =
      .ok signed) : signed.Readable clock := by
  obtain ⟨⟨stages, rfl⟩, -, -⟩ := sign_ok rfl h
  obtain ⟨key, message, hsign⟩ := stages.exists_sign
  have hwritten : Signature.IsWritten stages.signed.sign.toList := by
    change Signature.IsWritten stages.sign.toList
    rw [hsign]
    exact Signature.isWritten_ofKey key message
  obtain ⟨time, htime, htext⟩ := exists_of_bind_eq_ok stages.codes_eq
  obtain ⟨n, hn, rfl⟩ := exists_of_map_eq_ok htime
  rw [Json.shown_number] at htext
  obtain ⟨s, hs, hcodes⟩ := exists_of_map_eq_ok htext
  have hnumeral : Text.Decimal.IsNumeral stages.signed.timestamp.toList n := by
    change Text.Decimal.IsNumeral stages.timestamp.toList n
    rw [Stages.timestamp, ← hcodes, Text.ofPoints_points, numeral_of_log hs]
    exact Text.Decimal.isNumeral_numeral n
  exact ⟨hwritten, ⟨n, hn, hnumeral⟩, List.forall_mem_append.mpr
    ⟨hwritten.isSolid, hnumeral.isSolid⟩⟩

end Signer

end SignedHttp
