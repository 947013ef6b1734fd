import SignedHttp.Proofs.Text.Ascii
import SignedHttp.Proofs.Text.Base64
import SignedHttp.Signature

/-!
# Values that are joined to one

Values of one name are joined with a comma and a blank between them, and a reader takes them apart
there again (`elements`). Taking apart undoes joining, wherever the comma stands in what was joined
(`elements_join`): a separator cannot begin inside another one. A text without a comma is one
element (`elements_of_not_mem`). Numerals and signatures are such texts (`comma_not_mem_numeral`,
`comma_not_mem_ofKey`), so they are found again in whatever they were joined to. Neither can be
taken for the other, since only signatures are padded (`numeral_ne_ofKey`).

Key definitions: `elements`.
Key theorems: `elements_join`, `elements_intercalate`, `elements_of_not_mem`, `numeral_ne_ofKey`.
-/

namespace SignedHttp.Text

/-- The pieces of a text between its separators, which are a comma and a blank each. -/
def cutElements : List Char → List (List Char)
  | [] => [[]]
  | ',' :: ' ' :: s => [] :: cutElements s
  | c :: s => (cutElements s).modifyHead (c :: ·)

def elements (s : String) : List String :=
  (cutElements s.toList).map .ofList

theorem cutElements_ne_nil (s : List Char) : cutElements s ≠ [] := by
  fun_induction cutElements s with
  | case1 => exact List.cons_ne_nil _ _
  | case2 => exact List.cons_ne_nil _ _
  | case3 c s _ ih =>
    obtain ⟨piece, rest, h⟩ := List.exists_cons_of_ne_nil ih
    rw [h]
    exact List.cons_ne_nil _ _

/-- A text is taken apart where two texts were joined, and nothing else changes. -/
theorem cutElements_join (t : List Char) : ∀ s : List Char,
    cutElements (s ++ ',' :: ' ' :: t) = cutElements s ++ cutElements t := by
  intro s
  fun_induction cutElements s with
  | case1 => rfl
  | case2 s ih =>
    rw [List.cons_append, List.cons_append, cutElements, ih]
    rfl
  | case3 c s hc ih =>
    -- no separator begins with `c`: behind it stands what stood there before, or a comma
    have hcut : cutElements (c :: (s ++ ',' :: ' ' :: t)) =
        (cutElements (s ++ ',' :: ' ' :: t)).modifyHead (c :: ·) := by
      refine cutElements.eq_3 c _ fun rest h hrest => ?_
      cases s with
      | nil => cases hrest
      | cons d s =>
        obtain ⟨hd, -⟩ := List.cons.inj hrest
        exact hc s h (by rw [hd])
    obtain ⟨piece, rest, h⟩ := List.exists_cons_of_ne_nil (cutElements_ne_nil s)
    rw [List.cons_append, hcut, ih, h]
    rfl

theorem elements_join (a b : String) : elements (a ++ ", " ++ b) = elements a ++ elements b := by
  rw [elements, String.toList_append, String.toList_append, List.append_assoc]
  change (cutElements (a.toList ++ ',' :: ' ' :: b.toList)).map String.ofList = _
  rw [cutElements_join, List.map_append]
  rfl

theorem elements_intercalate : ∀ {values : List String}, values ≠ [] →
    elements (", ".intercalate values) = values.flatMap elements
  | [], h => absurd rfl h
  | [value], _ => by rw [String.intercalate_singleton, List.flatMap_singleton]
  | first :: second :: rest, _ => by
    rw [String.intercalate_cons_cons, elements_join, List.flatMap_cons,
      elements_intercalate (List.cons_ne_nil second rest)]

theorem cutElements_of_not_mem : ∀ {s : List Char}, ',' ∉ s → cutElements s = [s]
  | [], _ => rfl
  | c :: s, h => by
    rw [List.mem_cons, not_or] at h
    obtain ⟨hc, hs⟩ := h
    rw [cutElements.eq_3 c s fun rest hcomma _ => hc hcomma.symm, cutElements_of_not_mem hs]
    rfl

theorem elements_of_not_mem {s : String} (h : ',' ∉ s.toList) : elements s = [s] := by
  rw [elements, cutElements_of_not_mem h, List.map_singleton, String.ofList_toList]

/-! ### Numerals and signatures -/

theorem comma_not_mem_numeral (n : Int) : ',' ∉ (Decimal.numeral n).toList := fun h => by
  rcases Ascii.mem_numeral h with h | h
  · cases h
  · cases h

theorem Base64.digit_ne_comma : ∀ n < 64, digit n ≠ ',' := by decide

theorem comma_not_mem_ofKey (key message : List UInt8) :
    ',' ∉ (Signature.ofKey key message).toList := fun h => by
  rw [Signature.ofKey, Base64.encode, String.toList_ofList] at h
  rcases Base64.mem_encodeChars h with h | ⟨n, hn, h⟩
  · cases h
  · exact Base64.digit_ne_comma n hn h.symm

/-- A numeral is no signature. -/
theorem numeral_ne_ofKey (n : Int) (key message : List UInt8) :
    Decimal.numeral n ≠ Signature.ofKey key message := fun h => by
  have hpadding : '=' ∈ (Signature.ofKey key message).toList := by
    rw [Signature.ofKey, Base64.encode, String.toList_ofList]
    refine Base64.padding_mem_encodeChars ?_
    rw [Crypto.length_hmacSha256]
    decide
  rw [← h] at hpadding
  rcases Ascii.mem_numeral hpadding with h | h
  · cases h
  · cases h

end SignedHttp.Text
