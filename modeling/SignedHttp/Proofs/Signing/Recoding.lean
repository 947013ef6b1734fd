import SignedHttp.Proofs.Signing.Binding
import SignedHttp.Proofs.Text.Base64.Standard
import SignedHttp.Proofs.Text.Hex

/-!
# From digits to letters

A hexadecimal text is written anew in base64. What comes out is the standard text of the bytes that
the digits denote, and a text that denotes none is refused where it stops being hexadecimal
(`Signature.ofHex_recodes`). The digits may be of either case and may stand apart, so many texts
come out as one; the one that a digest is written as is among them.

Key theorems: `Signature.ofHex_recodes`.
-/

namespace SignedHttp.Signature

open Text

/-- Exactly the hexadecimal texts are recoded, each as the standard text of the bytes that it
denotes. Any other is refused at the first character that is not ASCII, or else behind the longest
text in front that could go on to a hexadecimal one. The digits of some bytes come out as their
text. -/
theorem ofHex_recodes :
    (∀ s text : String, ofHex s = .ok text ↔
      ∃ bytes, Hex.Denotes s.toList bytes ∧ Base64.IsStandard bytes text) ∧
    (∀ (s : String) (fault : Fault), ofHex s = .error fault ↔
      ∃ position, Hex.Refuses s.toList position ∧ fault = .notHex position) ∧
    ∀ bytes, ofHex (.ofList (Hex.encode bytes)) = .ok (Base64.encode bytes) := by
  refine ⟨fun s text => ?_, fun s fault => ?_, fun bytes => ?_⟩
  · simp only [← Hex.decode_eq_ok_iff, Base64.isStandard_iff]
    rw [ofHex]
    cases Hex.decode s with
    | ok bytes => simp [eq_comm]
    | error position => simp
  · simp only [← Hex.decode_eq_error_iff]
    rw [ofHex]
    cases Hex.decode s with
    | ok bytes => simp
    | error position => simp [eq_comm]
  · rw [ofHex, Hex.decode_encode]

/-- The position counts the characters in front: the first digit of a pair that is not finished can
go on, and what is not ASCII is refused before all else. -/
example : Hex.decode "aB \t0" = .error 5 ∧ Hex.decode "ag 1" = .error 1 ∧
    Hex.decode "a b\u00e9" = .error 3 ∧ Hex.decode " aB\n01 " = .ok [0xAB, 1] := by
  decide +kernel

end SignedHttp.Signature
