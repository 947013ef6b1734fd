import SignedHttp.Proofs.Hooks.Agreement
import SignedHttp.Proofs.Secrets.Signing
import SignedHttp.Proofs.Text.WellFormed

/-!
# Bodies and secrets as texts and as bytes

A body of bytes is signed exactly if the bytes are well formed, and then nothing of them is lost in
the text that is signed: it is written as just these bytes (`Payload.ReadAs`). So a text can be
signed as it is or as its bytes, and a secret can be a text or its bytes, without any difference in
what signing gives, reads or logs (`Payload.bodyText_faithful`). All that a signing looks at is the
text of the body (`Signer.sign_congr`) and the bytes of the secret (`Signer.sign_withSecret_congr`).

Key definitions: `Payload.ReadAs`.
Key theorems: `Payload.readAs_decode`, `Signer.sign_withSecret_congr`, `Payload.bodyText_faithful`.
-/

namespace SignedHttp

open Text

/-- What becomes of bytes as a body: they are the bytes of the text that is signed, or they are not
well formed and refused where the longest well-formed bytes in front of them end. -/
inductive Payload.ReadAs (b : List UInt8) : Except Fault Json → Prop
  | text {s : String} (h : Utf8.WellFormed b) (hs : Utf8.encode s = b) : ReadAs b (.ok (.string s))
  | refused {e : Utf8.Malformed} (h : ¬ Utf8.WellFormed b)
      (he : Utf8.IsLongest b e.position) : ReadAs b (.error (.malformedText e))

theorem Payload.readAs_decode (b : List UInt8) :
    ReadAs b (Json.string <$> (Utf8.decode b).mapError .malformedText) := by
  cases h : Utf8.decode b with
  | ok s =>
    exact .text ((Utf8.wellFormed_iff_decode b).mpr ⟨s, h⟩) (Utf8.encode_of_decode h)
  | error e =>
    refine .refused (fun hwell => ?_) (Utf8.isLongest_of_decode h)
    obtain ⟨s, hs⟩ := (Utf8.wellFormed_iff_decode b).mp hwell
    rw [hs] at h
    cases h

namespace Signer

variable {secret other : Payload}

/-- Of a secret nothing but its bytes is looked at. -/
theorem sign_withSecret_congr (h : secret.keyBytes = other.keyBytes) (signer : Signer)
    (clock : Clock) (url : Json) (body : Payload) (time : Json) :
    (signer.withSecret secret).sign clock url body time =
      (signer.withSecret other).sign clock url body time := by
  have hsignature : (signer.withSecret secret).signature = (signer.withSecret other).signature := by
    funext timestamp path text
    unfold signature Signature.ofPoints
    simp only [withSecret, h]
    rfl
  unfold sign
  simp only [check_withSecret, time_withSecret, path_withSecret, matchesBase_withSecret,
    outcome_withSecret, warning_withSecret, requireNames_withSecret, hsignature]
  rfl

/-- A text and its bytes make the same signer, but for the secret. -/
theorem make_encoded (s : String) (base timestampHeader signHeader : Payload) :
    make (.bytes (Utf8.encode s)) base timestampHeader signHeader =
      (·.withSecret (.bytes (Utf8.encode s))) <$>
        make (.text s) base timestampHeader signHeader := by
  have hempty : (Payload.bytes (Utf8.encode s)).isEmpty = (Payload.text s).isEmpty := by
    have hnil : Utf8.encode s = [] ↔ s = "" := @Utf8.encode_inj s ""
    rw [Bool.eq_iff_iff]
    simp [Payload.isEmpty, Json.isEmpty, hnil]
  unfold make
  rw [hempty]
  split
  · rfl
  · rfl

end Signer

/-- Bytes are read as a body exactly if they are well formed, and then they are those of the text
that is signed; otherwise they are refused at the end of the longest well-formed bytes in front of
them. The bytes of a text read as that text. So a body can be a text, its bytes or a buffer of them,
an empty body can be missing, and a secret can be a text or its bytes, and signing is the same. -/
theorem Payload.bodyText_faithful :
    (∀ b, ReadAs b (Payload.bytes b).bodyText ∧ ReadAs b (Payload.buffer b).bodyText) ∧
    (∀ s, (Payload.bytes (Utf8.encode s)).bodyText = .ok (.string s) ∧
      (Payload.buffer (Utf8.encode s)).bodyText = .ok (.string s)) ∧
    ∀ (signer : Signer) (clock : Clock) (url time : Json),
      (∀ s, signer.sign clock url (.bytes (Utf8.encode s)) time =
          signer.sign clock url (.text s) time ∧
        signer.sign clock url (.buffer (Utf8.encode s)) time =
          signer.sign clock url (.text s) time) ∧
      (signer.sign clock url (.text "") time = signer.sign clock url .absent time ∧
        signer.sign clock url (.bytes []) time = signer.sign clock url .absent time) ∧
      ∀ s, (∀ body, (signer.withSecret (.bytes (Utf8.encode s))).sign clock url body time =
          (signer.withSecret (.text s)).sign clock url body time) ∧
        ∀ base timestampHeader signHeader,
          Signer.make (.bytes (Utf8.encode s)) base timestampHeader signHeader =
            (·.withSecret (.bytes (Utf8.encode s))) <$>
              Signer.make (.text s) base timestampHeader signHeader := by
  have hencoded : ∀ s, (Payload.bytes (Utf8.encode s)).bodyText = .ok (.string s) ∧
      (Payload.buffer (Utf8.encode s)).bodyText = .ok (.string s) := fun s => by
    simp [bodyText, Utf8.decode_encode, Except.mapError]
  refine ⟨fun b => ⟨readAs_decode b, readAs_decode b⟩, hencoded, fun signer clock url time => ?_⟩
  refine ⟨fun s => ⟨?_, ?_⟩, ⟨?_, ?_⟩, fun s => ⟨fun body => ?_, ?_⟩⟩
  · exact signer.sign_congr clock url time (hencoded s).1
  · exact signer.sign_congr clock url time (hencoded s).2
  · exact signer.sign_congr clock url time rfl
  · exact signer.sign_congr clock url time rfl
  · have hkey : (Payload.bytes (Utf8.encode s)).keyBytes = (Payload.text s).keyBytes := rfl
    exact Signer.sign_withSecret_congr hkey signer clock url body time
  · exact Signer.make_encoded s

end SignedHttp
