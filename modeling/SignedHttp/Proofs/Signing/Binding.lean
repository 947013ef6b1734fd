import SignedHttp.Proofs.Moments
import SignedHttp.Proofs.Text.Base64
import SignedHttp.Proofs.Text.Utf8
import SignedHttp.Signature

/-!
# What a signature binds

The bytes that are signed are those of timestamp, path and body, one directly after the other, so
they fix the text that the three make in a row and nothing else (`Signature.message_eq_iff_append`).
The numeral in front ends where the path begins, since no path begins with a digit; so the time can
be told from the rest, and only where the path ends and the body begins cannot
(`Signature.message_numeral_eq_iff`). From digest to signature nothing is lost: the hexadecimal
digits of a digest read as the digest (`Text.Hex.decode_encode`), and base64 keeps bytes apart.

Key definitions: `Signature.EndsNumeral`.
Key theorems: `Signature.message_eq_iff_append`, `Signature.message_numeral_eq_iff`,
`Signature.compute_eq_ofHex`, `Signature.binds`.
-/

namespace SignedHttp

open Text

/-! ### Digests and their digits -/

theorem Text.Hex.toNat_digit_lt : ∀ n < 16, (digit n).toNat < 0x80 := by decide

theorem Text.Hex.decode_encode (bytes : List UInt8) :
    decode (.ofList (encode bytes)) = .ok bytes := by
  have hascii : (encode bytes).findIdx? (0x80 ≤ ·.toNat) = none := by
    rw [List.findIdx?_eq_none_iff]
    intro c hc
    obtain ⟨b, -, hdigit⟩ := List.mem_flatMap.mp hc
    have hb := b.toNat_lt
    have hhigh := toNat_digit_lt (b.toNat / 16) (by omega)
    have hlow := toNat_digit_lt (b.toNat % 16) (by omega)
    simp only [List.mem_cons, List.not_mem_nil, or_false] at hdigit
    rcases hdigit with rfl | rfl
    · simpa using hhigh
    · simpa using hlow
  unfold decode
  rw [String.toList_ofList, hascii]
  exact decodeFrom_encode 0 bytes

namespace Signature

/-- A signature is the base64 text of the bytes that the digits of the digest denote. -/
theorem compute_eq_ofHex {secret : Payload} {key : List UInt8} (h : secret.keyBytes = .ok key)
    (timestamp path body : String) :
    compute secret timestamp path body =
      ofHex (.ofList (Hex.encode (Crypto.hmacSha256 key (message timestamp path body)))) := by
  rw [compute_eq, h, ofHex, Hex.decode_encode]
  rfl

/-- Signatures are equal only if the digests are. -/
theorem compute_eq_iff {secret other : Payload} {key otherKey : List UInt8}
    (h : secret.keyBytes = .ok key) (hother : other.keyBytes = .ok otherKey)
    (timestamp path body otherTimestamp otherPath otherBody : String) :
    compute secret timestamp path body = compute other otherTimestamp otherPath otherBody ↔
      Crypto.hmacSha256 key (message timestamp path body) =
        Crypto.hmacSha256 otherKey (message otherTimestamp otherPath otherBody) := by
  rw [compute_eq, compute_eq, h, hother]
  constructor
  · intro hsame
    exact Base64.encode_inj.mp (Except.ok.inj hsame)
  · intro hsame
    exact congrArg Except.ok (Base64.encode_inj.mpr hsame)

/-! ### What is signed -/

theorem message_eq_iff_append (timestamp path body otherTimestamp otherPath otherBody : String) :
    message timestamp path body = message otherTimestamp otherPath otherBody ↔
      timestamp ++ path ++ body = otherTimestamp ++ otherPath ++ otherBody :=
  Utf8.encode_inj

/-- Whether a numeral in front of a path ends there: the path begins, and not with a digit. -/
def EndsNumeral (path : String) : Prop :=
  ∃ c, path.toList.head? = some c ∧ c.isDigit = false

/-- A numeral in front of a text that begins with no digit is told from the text. -/
theorem numeral_append_inj {n m : Int} {s t : List Char} {c d : Char} (hc : c.isDigit = false)
    (hd : d.isDigit = false)
    (h : (Decimal.numeral n).toList ++ c :: s = (Decimal.numeral m).toList ++ d :: t) :
    n = m ∧ c :: s = d :: t := by
  have hdigits : ∀ {k : Int} {e : Char}, e ∈ Decimal.digits k.natAbs → e.isDigit = true :=
    Decimal.isDigit_of_mem_digits
  -- a sign is not the first digit of a numeral without one
  have hsign : ∀ (k : Int) (u v : List Char), Decimal.digits k.natAbs ++ u ≠ '-' :: v := by
    intro k u v hsame
    obtain ⟨e, others, hcons⟩ := List.exists_cons_of_ne_nil (Decimal.digits_ne_nil k.natAbs)
    rw [hcons] at hsame
    obtain rfl : e = '-' := (List.cons.inj hsame).1
    exact Decimal.sign_not_mem_digits k.natAbs (hcons ▸ List.mem_cons_self)
  unfold Decimal.numeral at h
  rw [String.toList_ofList, String.toList_ofList] at h
  by_cases hn : n < 0
  · by_cases hm : m < 0
    · rw [if_pos hn, if_pos hm] at h
      obtain ⟨hsame, hrest⟩ := Moment.append_mark_inj (fun _ => hdigits) (fun _ => hdigits) hc hd
        (List.cons.inj h).2
      have hnat := Decimal.digits_inj hsame
      exact ⟨by omega, List.cons_eq_cons.mpr hrest⟩
    · rw [if_pos hn, if_neg hm] at h
      exact absurd h.symm (hsign m _ _)
  · by_cases hm : m < 0
    · rw [if_neg hn, if_pos hm] at h
      exact absurd h (hsign n _ _)
    · rw [if_neg hn, if_neg hm] at h
      obtain ⟨hsame, hrest⟩ := Moment.append_mark_inj (fun _ => hdigits) (fun _ => hdigits) hc hd h
      have hnat := Decimal.digits_inj hsame
      exact ⟨by omega, List.cons_eq_cons.mpr hrest⟩

/-- If no path begins with a digit, what is signed tells the time from the rest, but not the path
from the body. -/
theorem message_numeral_eq_iff {path other : String} (hpath : EndsNumeral path)
    (hother : EndsNumeral other) (n m : Int) (body otherBody : String) :
    message (Decimal.numeral n) path body = message (Decimal.numeral m) other otherBody ↔
      n = m ∧ path ++ body = other ++ otherBody := by
  rw [message_eq_iff_append, String.append_assoc, String.append_assoc]
  constructor
  · intro h
    obtain ⟨c, hc, hcdigit⟩ := hpath
    obtain ⟨d, hd, hddigit⟩ := hother
    obtain ⟨s, hs⟩ := List.head?_eq_some_iff.mp hc
    obtain ⟨t, ht⟩ := List.head?_eq_some_iff.mp hd
    have hlists := congrArg String.toList h
    simp only [String.toList_append, hs, ht, List.cons_append] at hlists
    obtain ⟨hn, hrest⟩ := numeral_append_inj hcdigit hddigit hlists
    refine ⟨hn, ?_⟩
    rw [← String.toList_inj]
    simp only [String.toList_append, hs, ht, List.cons_append, hrest]
  · rintro ⟨rfl, h⟩
    rw [h]

/-- What is signed binds the time, and path and body but for the place between them, if no path
begins with a digit. Of any timestamp, path and body none can be changed alone without a change of
what is signed. Signatures are the texts of the digests and equal only if these are. -/
theorem binds :
    (∀ (n m : Int) (path other body otherBody : String), EndsNumeral path → EndsNumeral other →
      (message (Decimal.numeral n) path body = message (Decimal.numeral m) other otherBody ↔
        n = m ∧ path ++ body = other ++ otherBody)) ∧
    (∀ timestamp path body changed : String,
      (message changed path body = message timestamp path body ↔ changed = timestamp) ∧
      (message timestamp changed body = message timestamp path body ↔ changed = path) ∧
      (message timestamp path changed = message timestamp path body ↔ changed = body)) ∧
    ∀ (secret other : Payload) (key otherKey : List UInt8)
      (timestamp path body otherTimestamp otherPath otherBody : String),
      secret.keyBytes = .ok key → other.keyBytes = .ok otherKey →
        compute secret timestamp path body =
          ofHex (.ofList (Hex.encode (Crypto.hmacSha256 key (message timestamp path body)))) ∧
        (compute secret timestamp path body = compute other otherTimestamp otherPath otherBody ↔
          Crypto.hmacSha256 key (message timestamp path body) =
            Crypto.hmacSha256 otherKey (message otherTimestamp otherPath otherBody)) := by
  refine ⟨fun n m _ _ body otherBody hpath hother =>
    message_numeral_eq_iff hpath hother n m body otherBody, fun timestamp path body changed => ?_,
    fun _ _ _ _ _ _ _ _ _ _ h hother => ⟨compute_eq_ofHex h _ _ _, compute_eq_iff h hother ..⟩⟩
  simp only [message_eq_iff_append, ← String.toList_inj, String.toList_append,
    List.append_cancel_right_eq, List.append_assoc, List.append_cancel_left_eq, and_self]

/-- The last character of a path can as well be the first of the body, but a digit of the time
cannot go anywhere. -/
theorem binds_ping :
    message (Decimal.numeral 1000) "/ping" "a" = message (Decimal.numeral 1000) "/pin" "ga" ∧
      message (Decimal.numeral (-100)) "-0/" "" ≠ message (Decimal.numeral (-10)) "-00/" "" ∧
      message "1" "/b" "" ≠ message "1" "/a" "" ∧
      (compute (.text "k") "1000" "/ping" "a" = compute (.bytes [0x6B]) "1000" "/pin" "ga" ↔
        Crypto.hmacSha256 [0x6B] (message "1000" "/ping" "a") =
          Crypto.hmacSha256 [0x6B] (message "1000" "/pin" "ga")) := by
  obtain ⟨htime, hchange, hdigest⟩ := binds
  refine ⟨?_, ?_, ?_, ?_⟩
  · exact (htime 1000 1000 "/ping" "/pin" "a" "ga" ⟨'/', rfl, rfl⟩ ⟨'/', rfl, rfl⟩).mpr
      ⟨rfl, by decide⟩
  · intro h
    have hsame := (htime (-100) (-10) "-0/" "-00/" "" "" ⟨'-', rfl, rfl⟩ ⟨'-', rfl, rfl⟩).mp h
    exact absurd hsame.1 (by decide)
  · intro h
    exact absurd ((hchange "1" "/a" "" "/b").2.1.mp h) (by decide)
  · have hkey : (Payload.text "k").keyBytes = .ok [0x6B] := by decide +kernel
    exact (hdigest (.text "k") (.bytes [0x6B]) [0x6B] [0x6B] _ _ _ _ _ _ hkey rfl).2

end Signature

end SignedHttp
