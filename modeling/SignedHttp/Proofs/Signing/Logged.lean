import SignedHttp.Proofs.Signing

/-!
# What a signing logs

A signer that has a key fails before it logs anything, or it logs and counts all that a signing
does, or it warns and then fails for surrogates, which can be neither signed nor a key
(`Signer.sign_logged`): what can fail behind the warning is only the signature. Each record of a
signing can be written as a line: address and path are strings, or the path is the address itself
and has a text, so that no number in them is too long.

Key definitions: `Log.Record.Fits`, `Signer.HasKey`, `Signer.HoldsSurrogates`.
Key theorems: `Log.Record.Fits.exists_line`, `Signer.sign_logged`, `Signer.fits_mismatchRecord`,
`Signer.Stages.fits_signedRecord`.
-/

namespace SignedHttp

theorem Json.holdsLongNumeral_of_shown {value : Json} {text : List Nat}
    (h : value.shown = .ok text) : value.holdsLongNumeral = false := by
  have hliteral : ∀ value : Json, (∃ chars, value.literal = .ok chars) →
      value.holdsLongNumeral = false := by
    rintro value ⟨chars, hchars⟩
    rw [literal] at hchars
    split at hchars
    · cases hchars
    · exact Bool.eq_false_iff.mpr ‹_›
  cases value with
  | string | points => exact holdsLongNumeral_of_codes? rfl
  | _ =>
    obtain ⟨chars, hchars, -⟩ := exists_of_map_eq_ok h
    exact hliteral _ ⟨chars, hchars⟩

/-- Whether a record can be written as a line: its level has a name, and no number in its fields is
too long. -/
structure Log.Record.Fits (record : Log.Record) : Prop where
  level : ∃ name, Log.levelName? record.level = some name
  fields : ∀ field ∈ record.fields, field.2.holdsLongNumeral = false

theorem Log.Record.Fits.exists_line {record : Log.Record} (h : record.Fits) {instant : Int}
    (hfirst : Moment.firstInstant ≤ instant) (hlast : instant ≤ Moment.lastInstant) :
    ∃ text, record.line instant = .ok text := by
  obtain ⟨level, hlevel⟩ := h.level
  obtain ⟨moment, hmoment⟩ := Moment.exists_reach hfirst hlast
  obtain ⟨text, htext⟩ :=
    Telemetry.exists_lineOf moment level record.logger record.message h.fields
  refine ⟨text, ?_⟩
  rw [line, levelLabel, hlevel, hmoment]
  exact htext

theorem Payload.holdsLongNumeral_string (payload : Payload) :
    payload.string.holdsLongNumeral = false := by
  rw [string.eq_def]
  split <;> simp [Json.holdsLongNumeral]

def Payload.isKey : Payload → Bool
  | .json value => value.codes?.isSome
  | .bytes _ => true
  | _ => false

theorem Payload.keyBytes_cases {secret : Payload} (h : secret.isKey = true) :
    (∃ key, secret.keyBytes = .ok key) ∨
      ∃ s, secret = .json (.points s) ∧ secret.keyBytes = .error (.surrogates s.refusal) := by
  rw [isKey.eq_def] at h
  split at h
  · rename_i value
    cases value with
    | string => exact .inl ⟨_, rfl⟩
    | points s => exact .inr ⟨s, rfl, rfl⟩
    | _ => cases h
  · exact .inl ⟨_, rfl⟩
  · cases h

/-- A value that is no irregular string has a text of characters. -/
theorem Json.all_shown {value : Json} {s : List Nat} (h : ∀ t, value ≠ .points t)
    (hs : value.shown = .ok s) : s.all Text.isCharacter = true := by
  have hliteral : ∀ {literal : Except Fault (List Char)}, Text.points <$> literal = .ok s →
      s.all Text.isCharacter = true := fun hmap => by
    obtain ⟨chars, -, rfl⟩ := exists_of_map_eq_ok hmap
    exact Text.all_points chars
  cases value with
  | string t =>
    rw [← Except.ok.inj hs]
    exact Text.all_points t.toList
  | points t => exact absurd rfl (h t)
  | _ => exact hliteral hs

/-- An irregular text of a body is the body itself. -/
theorem Payload.eq_points_of_bodyText {body : Payload} {s : Text.Irregular}
    (h : body.bodyText = .ok (.points s)) : body = .json (.points s) := by
  have hdecode : ∀ b : List UInt8,
      Json.string <$> (Text.Utf8.decode b).mapError Fault.malformedText ≠ .ok (.points s) :=
    fun b hb => by
      obtain ⟨t, -, h⟩ := exists_of_map_eq_ok hb
      cases h
  rw [bodyText.eq_def] at h
  split at h
  · cases h
  · cases h
  · rw [Json.points.inj (Except.ok.inj h)]
  · exact absurd h (hdecode _)
  · exact absurd h (hdecode _)
  · cases h

namespace Signer

structure HasKey (signer : Signer) : Prop where
  kept : Part.secret ∉ signer.lost
  isKey : signer.secret.isKey = true

instance (signer : Signer) : Decidable signer.HasKey :=
  decidable_of_iff (Part.secret ∉ signer.lost ∧ signer.secret.isKey = true)
    ⟨fun h => ⟨h.1, h.2⟩, fun h => ⟨h.kept, h.isKey⟩⟩

variable {signer : Signer} {clock : Clock} {url : Json} {body : Payload} {time : Json}

theorem path_cases {path : Json} (h : signer.path url = .ok path) :
    signer.base.isEmpty = true ∧ path = url ∨
      ∃ address start, url.codes? = some address ∧ signer.base.codes? = some start ∧
        path = .ofPoints (Text.eraseFirst start address) :=
  cases_of_stripBase? (exists_of_bind_eq_ok h).choose_spec.2

theorem holdsLongNumeral_of_path {path : Json} {shown : List Nat} (h : signer.path url = .ok path)
    (hshown : path.shown = .ok shown) : url.holdsLongNumeral = false := by
  rcases path_cases h with ⟨-, rfl⟩ | ⟨_, _, haddress, -, -⟩
  · exact Json.holdsLongNumeral_of_shown hshown
  · exact Json.holdsLongNumeral_of_codes? haddress

/-- With a key, the signature of a string is made unless there are surrogates in what is signed or
in the secret. -/
theorem signature_cases (hkey : signer.HasKey) (timestamp : List Nat) {path text : Json}
    {shown codes : List Nat} (hpath : path.shown = .ok shown) (htext : text.codes? = some codes) :
    (∃ sign, signer.signature timestamp path text = .ok sign) ∨
      (∃ refusal, signer.signature timestamp path text = .error (.surrogates refusal)) ∧
        ((timestamp ++ shown ++ codes).all Text.isCharacter = false ∨
          ∃ s, signer.secret = .json (.points s)) := by
  have hrequired : signer.require .secret = .ok () :=
    if_neg fun h => hkey.kept (List.contains_iff_mem.mp h)
  have hsignature : signer.signature timestamp path text =
      Signature.ofPoints signer.secret timestamp shown codes := by
    rw [signature, hrequired, hpath, Json.shown_of_codes? htext]
    rfl
  rw [hsignature]
  cases hall : (timestamp ++ shown ++ codes).all Text.isCharacter with
  | false =>
    have hrefused := Text.Utf8.encodePoints_codes ⟨_, hall⟩
    exact .inr ⟨⟨_, Signature.ofPoints_of_error hrefused _⟩, .inl rfl⟩
  | true =>
    rw [Signature.ofPoints_of_ok (Text.Utf8.encodePoints_of_all hall)]
    rcases Payload.keyBytes_cases hkey.isKey with ⟨key, hbytes⟩ | ⟨s, hsecret, hbytes⟩
    · rw [hbytes]
      exact .inl ⟨_, rfl⟩
    · rw [hbytes]
      exact .inr ⟨⟨_, rfl⟩, .inr ⟨s, hsecret⟩⟩

theorem fits_mismatchRecord (signer : Signer) (h : url.holdsLongNumeral = false) :
    (signer.mismatchRecord url).Fits where
  level := ⟨"WARNING", rfl⟩
  fields := by
    simp only [mismatchRecord, List.forall_mem_cons, List.not_mem_nil, false_implies, implies_true,
      and_true]
    exact ⟨h, signer.base.holdsLongNumeral_string, Json.holdsLongNumeral_string _⟩

/-- Whether surrogates stand in what a signing is given or in its secret. -/
def HoldsSurrogates (signer : Signer) (url : Json) (body : Payload) (time : Json) : Prop :=
  ∃ s, url = .points s ∨ body = .json (.points s) ∨ time = .points s ∨
    signer.secret = .json (.points s)

/-- A string that is signed holds a surrogate only if one of those given does. -/
theorem holdsSurrogates_of_all {text path : Json} {codes timestamp shown : List Nat}
    (hbody : body.bodyText = .ok text) (htext : text.codes? = some codes)
    (htime : (signer.time clock time).1 >>= Json.shown = .ok timestamp)
    (hpath : signer.path url = .ok path) (hshown : path.shown = .ok shown)
    (hall : (timestamp ++ shown ++ codes).all Text.isCharacter = false) :
    signer.HoldsSurrogates url body time := by
  refine Classical.byContradiction fun hnone => ?_
  have hregular : ∀ {value : Json} {s : List Nat}, (∀ t, value ≠ .points t) →
      value.shown = .ok s → s.all Text.isCharacter = true := Json.all_shown
  have htimestamp : timestamp.all Text.isCharacter = true := by
    obtain ⟨value, hvalue, htimestamp⟩ := exists_of_bind_eq_ok htime
    refine hregular (fun s hs => ?_) htimestamp
    subst hs
    cases time with
    | null =>
      obtain ⟨_, -, h⟩ := exists_of_map_eq_ok hvalue
      cases h
    | _ => exact hnone ⟨s, .inr (.inr (.inl (Except.ok.inj hvalue)))⟩
  have hpathAll : shown.all Text.isCharacter = true := by
    rcases path_cases hpath with ⟨-, rfl⟩ | ⟨address, start, haddress, -, rfl⟩
    · exact hregular (fun s hs => hnone ⟨s, .inl hs⟩) hshown
    · rw [Json.shown_of_codes? (Json.codes?_ofPoints _)] at hshown
      rw [← Except.ok.inj hshown]
      exact Text.all_eraseFirst start
        (hregular (fun s hs => hnone ⟨s, .inl hs⟩) (Json.shown_of_codes? haddress))
  have hcodes : codes.all Text.isCharacter = true := by
    refine hregular (fun s hs => ?_) (Json.shown_of_codes? htext)
    exact hnone ⟨s, .inr (.inl (Payload.eq_points_of_bodyText (hs ▸ hbody)))⟩
  rw [List.all_append, List.all_append, htimestamp, hpathAll, hcodes] at hall
  cases hall

/-- A path without a text is the whole address, of which nothing warns, and it is not signed. -/
theorem unsigned_of_shown {path text : Json} {fault : Fault} (hpath : signer.path url = .ok path)
    (hshown : path.shown = .error fault) (timestamp : List Nat) :
    signer.warning url = [] ∧ ∃ fault, signer.signature timestamp path text = .error fault := by
  have hempty : signer.base.isEmpty = true := by
    rcases path_cases hpath with ⟨hempty, -⟩ | ⟨_, _, -, -, rfl⟩
    · exact hempty
    · rw [Json.shown_of_codes? (Json.codes?_ofPoints _)] at hshown
      cases hshown
  constructor
  · rw [warning, outcome, reaches, hempty]
    rfl
  · rw [signature, hshown]
    cases signer.require .secret with
    | error fault => exact ⟨fault, rfl⟩
    | ok _ => exact ⟨fault, rfl⟩

/-- A signer with a key fails before it logs and counts anything, or behind its warning and for
surrogates, or it logs and counts what a whole signing does, also if it has lost the names of the
fields. -/
theorem sign_logged (hkey : signer.HasKey) (clock : Clock) (url : Json) (body : Payload)
    (time : Json) :
    ((∃ fault, (signer.sign clock url body time).result = .error fault) ∧
      (signer.sign clock url body time).events = []) ∨
    ((∃ refusal, (signer.sign clock url body time).result = .error (.surrogates refusal)) ∧
      (signer.sign clock url body time).events = signer.warning url ∧
      url.holdsLongNumeral = false ∧ signer.HoldsSurrogates url body time) ∨
    ∃ stages : Stages signer clock url body time,
      (signer.sign clock url body time).result =
        (fun () => stages.signed) <$> signer.requireNames ∧
      (signer.sign clock url body time).events = stages.events := by
  rw [sign]
  cases hbody : signer.check .sign >>= fun () => body.bodyText with
  | error fault => exact .inl ⟨⟨fault, rfl⟩, rfl⟩
  | ok text =>
    obtain ⟨_, -, htext⟩ := exists_of_bind_eq_ok hbody
    obtain ⟨codes, hcodes⟩ := Payload.codes?_of_bodyText htext
    dsimp only
    cases htime : (signer.time clock time).1 >>= Json.shown with
    | error fault => exact .inl ⟨⟨fault, rfl⟩, rfl⟩
    | ok timestamp =>
      dsimp only
      cases hpath : signer.path url with
      | error fault => exact .inl ⟨⟨fault, rfl⟩, rfl⟩
      | ok path =>
        cases hsearch : signer.matchesBase url with
        | error fault => exact .inl ⟨⟨fault, rfl⟩, rfl⟩
        | ok isThere =>
          dsimp only
          cases hshown : path.shown with
          | ok shown =>
            rcases signature_cases hkey timestamp hshown hcodes with
              ⟨sign, hsign⟩ | ⟨⟨refusal, hsign⟩, hwhy⟩
            · rw [hsign]
              exact .inr (.inr ⟨⟨text, timestamp, path, sign, htext, htime, hpath,
                ⟨isThere, hsearch⟩, hsign⟩, rfl, rfl⟩)
            · rw [hsign]
              refine .inr (.inl ⟨⟨refusal, rfl⟩, rfl, ?_, ?_⟩)
              · exact holdsLongNumeral_of_path hpath hshown
              · rcases hwhy with hall | ⟨s, hs⟩
                · exact holdsSurrogates_of_all htext hcodes htime hpath hshown hall
                · exact ⟨s, .inr (.inr (.inr hs))⟩
          | error fault =>
            obtain ⟨hwarning, fault, hsign⟩ := unsigned_of_shown hpath hshown timestamp
            rw [hsign]
            exact .inl ⟨⟨fault, rfl⟩, hwarning⟩

namespace Stages

theorem holdsLongNumeral_path (stages : Stages signer clock url body time) :
    stages.path.holdsLongNumeral = false := by
  obtain ⟨_, _, _, _, -, hshown, -⟩ := stages.exists_ofKey
  exact Json.holdsLongNumeral_of_shown hshown

theorem holdsLongNumeral_url (stages : Stages signer clock url body time) :
    url.holdsLongNumeral = false := by
  obtain ⟨_, _, _, _, -, hshown, -⟩ := stages.exists_ofKey
  exact holdsLongNumeral_of_path stages.path_eq hshown

theorem fits_signedRecord (stages : Stages signer clock url body time) (outcome : Outcome) :
    (signedRecord url stages.path stages.timestamp outcome).Fits where
  level := ⟨"DEBUG", rfl⟩
  fields := by
    simp only [signedRecord, List.forall_mem_cons, List.not_mem_nil, false_implies, implies_true,
      and_true]
    refine ⟨stages.holdsLongNumeral_url, stages.holdsLongNumeral_path, ?_, ?_⟩
    · exact Json.holdsLongNumeral_string _
    · exact Json.holdsLongNumeral_string _

end Stages

theorem holdsLongNumeral_path (hkey : signer.HasKey) {signed : SignedHeaders}
    (h : (signer.sign clock url body time).result = .ok signed) :
    signed.path.holdsLongNumeral = false := by
  rcases sign_logged hkey clock url body time with
    ⟨⟨fault, hfault⟩, -⟩ | ⟨⟨refusal, hfault⟩, -⟩ | ⟨stages, hresult, -⟩
  · rw [h] at hfault
    cases hfault
  · rw [h] at hfault
    cases hfault
  · rw [h] at hresult
    obtain ⟨_, -, rfl⟩ := exists_of_map_eq_ok hresult.symm
    exact stages.holdsLongNumeral_path

/-- What applying a signer gives is what it signed. -/
theorem sign_of_apply {headers : Option Headers} {signed : SignedHeaders}
    (h : (signer.apply clock headers url body).1.result = .ok signed) :
    (signer.sign clock url body .null).result = .ok signed := by
  rw [apply] at h
  split at h
  · cases h
  · dsimp only at h
    split at h
    · cases h
    · split at h
      · exact h
      · cases h

end Signer

end SignedHttp
