import SignedHttp.Proofs.Fields.History
import SignedHttp.Proofs.Hooks.Attach
import SignedHttp.Proofs.Text.Element

/-!
# What becomes of a signature in a mapping

A reader looks for the first field of a name and takes its value apart; the value that it is after
must be one of the elements (`Lists`). Folding fields in adds the elements of their values to those
of the first field (`Headers.lists_foldAll_iff`), and so nothing that was folded in is ever lost.
A signature is always found. The timestamp is found too as long as the two names are not spelled
alike, whatever else they have in common; if they are, only the signature goes into the mapping,
and the timestamp is found only if it was there by chance (`Hook.attached_iff`).

Key definitions: `Headers.Lists`, `Signer.Attached`.
Key theorems: `Headers.lists_foldAll_iff`, `Hook.attached_iff`, `Signer.apply_not_lists_timestamp`.
-/

namespace SignedHttp

namespace Headers

/-- Whether the first field of a name has a value among its elements. -/
def Lists (name value : String) (fields : List Field) : Prop :=
  ∃ field, fields.find? (fun field => Text.sameName field.1 name) = some field ∧
    value ∈ Text.elements field.2

theorem exists_find?_iff {p : String → Prop} {name : String} {fields : List Field} :
    (∃ field, fields.find? (fun field => Text.sameName field.1 name) = some field ∧ p field.2) ↔
      ∃ first rest, valuesOf name fields = first :: rest ∧ p first := by
  have hhead : (valuesOf name fields).head? =
      (fields.find? fun field => Text.sameName field.1 name).map Prod.snd := by
    rw [valuesOf, List.head?_map, List.head?_filter]
  constructor
  · rintro ⟨field, hfound, hvalue⟩
    rw [hfound] at hhead
    obtain ⟨rest, hrest⟩ := List.head?_eq_some_iff.mp hhead
    exact ⟨field.2, rest, hrest, hvalue⟩
  · rintro ⟨first, rest, hvalues, hvalue⟩
    rw [hvalues, List.head?_cons] at hhead
    obtain ⟨field, hfound, rfl⟩ := Option.map_eq_some_iff.mp hhead.symm
    exact ⟨field, hfound, hvalue⟩

theorem lists_iff {name value : String} {fields : List Field} :
    Lists name value fields ↔
      ∃ first rest, valuesOf name fields = first :: rest ∧ value ∈ Text.elements first :=
  exists_find?_iff (p := fun first => value ∈ Text.elements first)

theorem lists_of_valuesOf_eq_nil {name : String} {fields : List Field}
    (h : valuesOf name fields = []) (value : String) : ¬ Lists name value fields := fun hlists => by
  obtain ⟨first, rest, hvalues, -⟩ := lists_iff.mp hlists
  rw [h] at hvalues
  cases hvalues

/-- What is found after fields were folded in was found before or is in a value of theirs. -/
theorem lists_foldAll_iff {name value : String} {added before : List Field} :
    Lists name value (foldAll added before) ↔
      Lists name value before ∨ ∃ new ∈ valuesOf name added, value ∈ Text.elements new := by
  rw [lists_iff, lists_iff, (foldAll_keepsHistory added before).values name]
  cases hbefore : valuesOf name before with
  | nil =>
    cases hadded : valuesOf name added with
    | nil => simp [joined]
    | cons new news =>
      rw [joined, if_neg (by simp), ← List.mem_flatMap,
        ← Text.elements_intercalate (List.cons_ne_nil new news)]
      simp
  | cons old rest =>
    have helements := Text.elements_intercalate (List.cons_ne_nil old (valuesOf name added))
    simp [helements]

end Headers

namespace Signer

variable {secret base : Payload} {timestampName signName : String} {clock : Clock} {url : Json}
  {body : Payload} {signed : SignedHeaders}

/-- The timestamp of a signing that reads the clock and its signature are one element each, and
they differ. -/
theorem elements_of_sign
    (h : ((named secret base timestampName signName).sign clock url body .null).result =
      .ok signed) :
    Text.elements signed.timestamp = [signed.timestamp] ∧
      Text.elements signed.sign = [signed.sign] ∧ signed.timestamp ≠ signed.sign := by
  obtain ⟨⟨stages, rfl⟩, -, -⟩ := sign_ok rfl h
  obtain ⟨n, hn⟩ := stages.exists_numeral
  obtain ⟨key, message, hsign⟩ := stages.exists_sign
  refine ⟨?_, ?_, ?_⟩
  · change Text.elements stages.timestamp = [stages.timestamp]
    rw [hn]
    exact Text.elements_of_not_mem (Text.comma_not_mem_numeral n)
  · change Text.elements stages.sign = [stages.sign]
    rw [hsign]
    exact Text.elements_of_not_mem (Text.comma_not_mem_ofKey key message)
  · change stages.timestamp ≠ stages.sign
    rw [hsign, hn]
    exact Text.numeral_ne_ofKey n key message

end Signer

/-- What is found of a signing in fields that were made of others: its signature, and its
timestamp if the names are not spelled alike or it was there before. -/
structure Attached (timestampName signName : String) (signed : SignedHeaders)
    (before after : List Field) : Prop where
  sign : Headers.Lists signName signed.sign after
  timestamp : Headers.Lists timestampName signed.timestamp after ↔
    timestampName ≠ signName ∨ Headers.Lists timestampName signed.timestamp before

namespace Attached

variable {signed : SignedHeaders}

theorem lists_of_mem {name value : String} {added : List Field} (h : (name, value) ∈ added)
    (helements : Text.elements value = [value]) (before : List Field) :
    Headers.Lists name value (Headers.foldAll added before) := by
  refine Headers.lists_foldAll_iff.mpr (.inr ⟨value, ?_, by rw [helements]; simp⟩)
  exact List.mem_map.mpr ⟨_, List.mem_filter.mpr ⟨h, Text.sameName_refl name⟩, rfl⟩

/-- What comes behind the fields of a signing may bring its timestamp, but takes nothing away. -/
theorem foldAll (timestampName signName : String)
    (htimestamp : Text.elements signed.timestamp = [signed.timestamp])
    (hsign : Text.elements signed.sign = [signed.sign])
    (hne : signed.timestamp ≠ signed.sign) (others before : List Field) :
    Attached timestampName signName signed (Headers.foldAll others before)
      (Headers.foldAll (signed.textFields timestampName signName ++ others) before) where
  sign := by
    refine lists_of_mem (List.mem_append_left _ ?_) hsign before
    rw [SignedHeaders.textFields]
    split
    · rename_i hnames
      exact List.mem_singleton.mpr (by rw [hnames])
    · exact List.mem_cons_of_mem _ List.mem_cons_self
  timestamp := by
    by_cases hnames : timestampName = signName
    · -- only the signature goes into the mapping
      subst hnames
      have hvalues : Headers.valuesOf timestampName
          (signed.textFields timestampName timestampName ++ others) =
            signed.sign :: Headers.valuesOf timestampName others := by
        rw [SignedHeaders.textFields, if_pos rfl, List.singleton_append,
          Headers.valuesOf_cons_of_same (Text.sameName_refl timestampName)]
      have hnot : signed.timestamp ∉ Text.elements signed.sign := by
        rw [hsign, List.mem_singleton]
        exact hne
      rw [Headers.lists_foldAll_iff, Headers.lists_foldAll_iff, hvalues]
      simp [hnot]
    · have hmem : (timestampName, signed.timestamp) ∈
          signed.textFields timestampName signName ++ others := by
        rw [SignedHeaders.textFields, if_neg hnames]
        exact List.mem_cons_self
      exact iff_of_true (lists_of_mem hmem htimestamp before) (.inl hnames)

end Attached

namespace Hook

variable {secret base : Payload} {timestampName signName : String} {clock : Clock} {url : Json}
  {body : Payload} {signed : SignedHeaders}

/-- A signer that adds its fields to a mapping, and a hook that adds the key behind them, always
leave the signature there; and they leave the timestamp there unless both have the same name and
nothing else put it there. -/
theorem attached_iff
    (h : ((Signer.named secret base timestampName signName).sign clock url body .null).result =
      .ok signed) :
    (∀ (rule : NameRule) (before : List Field), ∃ after,
      (Signer.named secret base timestampName signName).apply clock (some (.named rule before))
          url body =
        ((Signer.named secret base timestampName signName).sign clock url body .null,
          some (.named rule after)) ∧
      Attached timestampName signName signed before after) ∧
    ∀ (key : Option String) (method : Json) (rule : NameRule) (before : List Field), ∃ after,
      ((named secret base timestampName signName key).attachMapped clock
          ⟨method, url, some (.named rule before), body⟩).1.result =
        .ok ⟨method, url, some (.named rule after), body⟩ ∧
      Attached timestampName signName signed (Headers.foldAll (keyTextFields key) before)
        after := by
  obtain ⟨htimestamp, hsign, hne⟩ := Signer.elements_of_sign h
  have hattached := Attached.foldAll timestampName signName htimestamp hsign hne
  refine ⟨fun rule before => ⟨_, Signer.apply_of_ok rule before h, ?_⟩,
    fun key method rule before => ⟨_, ?_, hattached (keyTextFields key) before⟩⟩
  · have hsigned := hattached [] before
    rw [List.append_nil] at hsigned
    exact hsigned
  · exact congrArg (·.1.result) (attachMapped_of_ok key method rule before h)

/-- Names that differ in letter case only, and a field of this name that is there already: its
value gets both. -/
theorem attached_iff_folded :
    let signer := Signer.named (.text "secret") (.text "") "Sig" "sig"
    let clock := Clock.always (.seconds 1)
    ∃ signed after,
      (signer.sign clock (.string "http://host/") .absent .null).result = .ok signed ∧
      (signer.apply clock (some (.named .exact [("SIG", "old")])) (.string "http://host/")
          .absent).2 = some (.named .exact after) ∧
      Headers.Lists "sig" signed.sign after ∧ Headers.Lists "Sig" signed.timestamp after := by
  intro signer clock
  have hkey : (Payload.text "secret").keyBytes = .ok (Text.Utf8.encode "secret") := rfl
  have htime : clock.read.1.milliseconds = .ok 1000 := rfl
  have hbody : Payload.absent.bodyText = .ok (.string "") := rfl
  obtain ⟨signed, hsigned, -⟩ := Signer.exists_signed "" "http://host/" "Sig" "sig" hkey htime
    (by decide) hbody
  obtain ⟨after, happly, hattached⟩ := (attached_iff hsigned).1 .exact [("SIG", "old")]
  exact ⟨signed, after, hsigned, congrArg Prod.snd happly, hattached.sign,
    hattached.timestamp.mpr (.inl (by decide))⟩

end Hook

/-- One name for both: the timestamp is not found in what was an empty mapping. -/
theorem Signer.apply_not_lists_timestamp :
    let signer := named (.text "secret") (.text "") "x" "x"
    let clock := Clock.always (.seconds 1)
    ∃ signed after,
      (signer.sign clock (.string "http://host/") .absent .null).result = .ok signed ∧
      (signer.apply clock (some (.empty .exact)) (.string "http://host/") .absent).2 =
        some (.named .exact after) ∧
      ¬ Headers.Lists "x" signed.timestamp after := by
  intro signer clock
  have hkey : (Payload.text "secret").keyBytes = .ok (Text.Utf8.encode "secret") := rfl
  have htime : clock.read.1.milliseconds = .ok 1000 := rfl
  have hbody : Payload.absent.bodyText = .ok (.string "") := rfl
  obtain ⟨signed, hsigned, -⟩ := exists_signed "" "http://host/" "x" "x" hkey htime (by decide)
    hbody
  obtain ⟨htimestamp, hsign, hne⟩ := elements_of_sign hsigned
  refine ⟨signed, _, hsigned, congrArg Prod.snd (apply_of_ok .exact [] hsigned), ?_⟩
  have hattached := Attached.foldAll "x" "x" htimestamp hsign hne [] []
  rw [List.append_nil] at hattached
  rw [hattached.timestamp, not_or]
  exact ⟨not_not_intro rfl, Headers.lists_of_valuesOf_eq_nil rfl _⟩

end SignedHttp
