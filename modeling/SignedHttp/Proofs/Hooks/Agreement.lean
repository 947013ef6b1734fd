import SignedHttp.Proofs.Hooks.Failure
import SignedHttp.Proofs.Text.Utf8

/-!
# The two hooks agree

For requests with the same address, body and ASCII fields of distinct names, both hooks fail
with the same fault or add the same fields (`Hook.attach_agree`). One folds them into a mapping
and the other repeats them in a list, and what the mapping then holds of a name is the join of
what the list holds of it (`Headers.valuesOf_foldAll_of_distinct`). Both sign the same text,
since reading an encoded body gives its text back (`Payload.bodyText_of_bytes?`).

Key definitions: `Payload.bytes?`, `Hook.listedValues`, `Hook.AddedAlike`.
Key theorems: `Payload.bodyText_of_bytes?`, `Hook.addedAlike`, `Hook.attach_agree`.
-/

namespace SignedHttp

def Payload.bytes? : Payload → Option (List UInt8)
  | .absent => some []
  | .text s => some (Text.Utf8.encode s)
  | .bytes b => some b
  | .buffer b => some b
  | _ => none

theorem Payload.bodyText_of_bytes? {body : Payload} {b : List UInt8} (h : body.bytes? = some b) :
    body.bodyText = (Payload.bytes b).bodyText := by
  rw [bytes?.eq_def] at h
  split at h
  · rw [← Option.some.inj h]
    rfl
  · rename_i s
    rw [← Option.some.inj h, bodyText, bodyText, Text.Utf8.decode_encode]
    rfl
  · rw [Option.some.inj h]
  · rw [← Option.some.inj h, bodyText, bodyText]
  · cases h

theorem Signer.sign_congr (signer : Signer) (clock : Clock) (url time : Json) {body other : Payload}
    (h : body.bodyText = other.bodyText) :
    signer.sign clock url body time = signer.sign clock url other time := by
  rw [sign, sign, h]

theorem Headers.valuesOf_foldAll_of_distinct {fields : List Field} (h : Distinct fields)
    (added : List Field) (name : String) :
    valuesOf name (foldAll added fields) = joined (valuesOf name (fields ++ added)) := by
  rw [valuesOf_append]
  exact valuesOf_foldAll name added fields _ (valuesOf_of_distinct name h)

namespace Hook

/-- The values of a name in lower case that a list of fields has. -/
def listedValues (name : String) (fields : List Field) : List String :=
  ((lowerNames fields).filter fun field => field.1 = name).map Prod.snd

/-- A mapping and a list after the same fields were added to both: the mapping has them folded
in, the list repeats them, and the mapping holds the join of the list's values of any name. -/
structure AddedAlike (before added mapped listed : List Field) : Prop where
  folded : (Headers.named .caseless before).appendAll (added.map Headers.entryOf) =
    (.named .caseless mapped, none)
  repeated : lowerNames listed = lowerNames before ++ lowerNames added
  joined : ∀ name ∈ (lowerNames (before ++ added)).map Prod.fst,
    Headers.valuesOf name mapped = [", ".intercalate (listedValues name listed)]

theorem lowerNames_append (first second : List Field) :
    lowerNames (first ++ second) = lowerNames first ++ lowerNames second :=
  List.map_append

theorem lowerNames_lowerNames {fields : List Field}
    (h : ∀ field ∈ fields, isSendable field = true) :
    lowerNames (lowerNames fields) = lowerNames fields := by
  rw [lowerNames, lowerNames, List.map_map]
  refine List.map_congr_left fun field hfield => ?_
  obtain ⟨hname, -⟩ := Bool.and_eq_true_iff.mp (h field hfield)
  exact Prod.ext (Text.Ascii.asciiLower_asciiLower hname) rfl

/-- ASCII names in lower case are found as names are found up to letter case. -/
theorem listedValues_eq_valuesOf {key : String} (hkey : Text.Ascii.isText key = true)
    {fields : List Field} (h : ∀ field ∈ fields, isSendable field = true) :
    listedValues (asciiLower key) fields = Headers.valuesOf (asciiLower key) fields := by
  rw [listedValues, lowerNames, List.filter_map, List.map_map, Headers.valuesOf]
  have hfilter : fields.filter ((fun field : Field => decide (field.1 = asciiLower key)) ∘
      fun field => (asciiLower field.1, field.2)) =
      fields.filter fun field => Text.sameName field.1 (asciiLower key) := by
    refine List.filter_congr fun field hfield => ?_
    obtain ⟨hname, -⟩ := Bool.and_eq_true_iff.mp (h field hfield)
    rw [Text.sameName, Text.Ascii.lower_asciiLower hkey, Text.Ascii.lower_eq_asciiLower hkey,
      Text.Ascii.lower_eq_asciiLower hname]
    rfl
  exact congrArg (List.map Prod.snd) hfilter

theorem addedAlike {before added : List Field} (hdistinct : Headers.Distinct before)
    (hfields : ∀ field ∈ lowerNames before ++ added, isSendable field = true)
    (hbefore : ∀ field ∈ before, isSendable field = true) :
    AddedAlike before added (Headers.foldAll added before) (lowerNames before ++ added) where
  folded := Headers.appendAll_named .caseless added before
  repeated := by rw [lowerNames_append, lowerNames_lowerNames hbefore]
  joined := by
    have hall : ∀ field ∈ before ++ added, isSendable field = true :=
      List.forall_mem_append.mpr ⟨hbefore, (List.forall_mem_append.mp hfields).2⟩
    have hlowered : lowerNames (lowerNames before ++ added) = lowerNames (before ++ added) := by
      rw [lowerNames_append, lowerNames_append, lowerNames_lowerNames hbefore]
    intro name hname
    obtain ⟨_, hlower, rfl⟩ := List.mem_map.mp hname
    obtain ⟨⟨key, value⟩, hfield, rfl⟩ := List.mem_map.mp hlower
    obtain ⟨hkey, -⟩ := Bool.and_eq_true_iff.mp (hall _ hfield)
    have hlisted : listedValues (asciiLower key) (lowerNames before ++ added) =
        Headers.valuesOf (asciiLower key) (before ++ added) := by
      rw [listedValues, hlowered, ← listedValues, listedValues_eq_valuesOf hkey hall]
    -- the name is there, so the join is a value and not nothing at all
    have hne : Headers.valuesOf (asciiLower key) (before ++ added) ≠ [] := fun hnil => by
      have := (Headers.valuesOf_eq_nil_iff _ _).mp hnil _ hfield
      rw [Text.sameName, Text.Ascii.lower_asciiLower hkey] at this
      exact absurd this (by simp)
    rw [Headers.valuesOf_foldAll_of_distinct hdistinct, Headers.joined, hlisted,
      if_neg (by simpa using hne)]

/-- Given the same address and body, the clock, and ASCII fields of distinct names, the hooks fail
with the same fault or succeed, and then they add the same fields: the pairs of the signed headers
and the key unless it is empty. The request with listed headers that is passed on is the one that
was given, with the fields in it. -/
theorem attach_agree {body : Payload} {b : List UInt8} {timestampName signName : String}
    {key : Option String} {request : ListedRequest} {isRead : Bool} (secret base : Payload)
    (clock : Clock) (method : Json) (hbody : body.bytes? = some b)
    (hcontent : contentBody request.content isRead = .ok (.bytes b))
    (hascii : CanSend timestampName signName key request.fields)
    (hdistinct : Headers.Distinct request.fields) :
    let hook := named secret base timestampName signName key
    let mapped := hook.attachMapped clock
      ⟨method, .string request.url.text, some (.ofPairs .caseless request.fields), body⟩
    let listed := hook.attachListed clock request isRead
    (∃ fault, mapped.1.result = .error fault ∧ listed.1.result = .error fault) ∨
      ∃ signed pairs fields sent,
        (hook.signer.sign clock (.string request.url.text) body .null).result = .ok signed ∧
        signed.entries = .ok (pairs.map Headers.entryOf) ∧
        mapped.1.result =
          .ok ⟨method, .string request.url.text, some (.named .caseless fields), body⟩ ∧
        listed.1.result = .ok { request with fields := sent } ∧
        listed.2 = { request with fields := sent } ∧
        AddedAlike request.fields (pairs ++ keyTextFields key) fields sent := by
  intro hook mapped listed
  have hsame : hook.signListed clock request isRead =
      hook.signer.sign clock (.string request.url.text) body .null := by
    rw [signListed_of_contentBody clock hcontent,
      Signer.sign_congr hook.signer clock _ _ (Payload.bodyText_of_bytes? hbody)]
  cases hresult : (hook.signer.sign clock (.string request.url.text) body .null).result with
  | error fault =>
    have hmapped : mapped = _ := attachMapped_of_error _ hresult
    have hlisted : listed = _ := attachListed_of_error (hsame ▸ hresult)
    exact .inl ⟨fault, by rw [hmapped], by rw [hlisted]⟩
  | ok signed =>
    have hsigned : (hook.signListed clock request isRead).result = .ok signed := hsame ▸ hresult
    obtain ⟨⟨htimestamp, hsign⟩, -⟩ := signListed_ok (Signer.requireNames_named _ _ _ _) hsigned
    have hfields := (canSend_iff timestampName signName key request.fields htimestamp hsign).mpr
      hascii
    -- assigning fields of distinct names makes the mapping of just these fields
    have hmapped := attachMapped_of_ok key method .caseless request.fields hresult
    rw [← Headers.ofPairs_of_distinct hdistinct] at hmapped
    have hlisted : listed = _ := attachListed_of_ok hsigned hfields
    refine .inr ⟨signed, signed.textFields timestampName signName,
      Headers.foldAll (addedFields timestampName signName key signed) request.fields,
      lowerNames request.fields ++ addedFields timestampName signName key signed, rfl,
      Signer.entries_of_sign hresult, ?_, ?_, ?_, addedAlike hdistinct hfields hascii.fields⟩
    · exact congrArg (·.1.result) hmapped
    · rw [hlisted]
    · rw [hlisted]

/-- A request that carries a signature already: both hooks succeed. -/
theorem attach_agree_resigned :
    let url : Url := ⟨"http", "", "host", none, "/ping", none, none⟩
    let request : ListedRequest :=
      ⟨"POST", url, [("Sign", "old"), ("Accept", "*/*")], .whole [0x78]⟩
    let hook := named (.text "secret") (.text "http://host") "timestamp" "sign" (some "key")
    let clock := Clock.always (.seconds 1)
    ∃ signed pairs fields sent,
      (hook.signer.sign clock (.string url.text) (.text "x") .null).result = .ok signed ∧
      signed.entries = .ok (pairs.map Headers.entryOf) ∧
      (hook.attachMapped clock ⟨.string "POST", .string url.text,
          some (.ofPairs .caseless request.fields), .text "x"⟩).1.result =
        .ok ⟨.string "POST", .string url.text, some (.named .caseless fields), .text "x"⟩ ∧
      (hook.attachListed clock request false).1.result = .ok { request with fields := sent } ∧
      (hook.attachListed clock request false).2 = { request with fields := sent } ∧
      AddedAlike request.fields (pairs ++ [("api-key", "key")]) fields sent := by
  intro url request hook clock
  have hnames : Text.sameName "Sign" "Accept" = false := by
    rw [Text.sameName, Text.Ascii.lower_eq_asciiLower rfl, Text.Ascii.lower_eq_asciiLower rfl]
    decide
  have hdistinct : Headers.Distinct request.fields := by
    simp [Headers.Distinct, request, hnames]
  have hascii : CanSend "timestamp" "sign" (some "key") request.fields :=
    ⟨by decide, by decide, by decide, fun text h => by cases h; decide⟩
  have hbody : (Payload.text "x").bytes? = some [0x78] := by decide
  have hcontent : contentBody request.content false = .ok (.bytes [0x78]) := rfl
  have hkey : (Payload.text "secret").keyBytes = .ok (Text.Utf8.encode "secret") := rfl
  have htime : clock.read.1.milliseconds = .ok 1000 := rfl
  have htext : (Payload.text "x").bodyText = .ok (.string "x") := rfl
  obtain ⟨signed, hsigned, -⟩ := Signer.exists_signed "http://host" url.text "timestamp" "sign"
    hkey htime (by decide) htext
  rcases attach_agree (.text "secret") (.text "http://host") clock (.string "POST") hbody hcontent
    hascii hdistinct with ⟨fault, herror, -⟩ | h
  · have hok := attachMapped_of_ok (some "key") (.string "POST") .caseless request.fields hsigned
    rw [← Headers.ofPairs_of_distinct hdistinct] at hok
    cases herror.symm.trans (congrArg (·.1.result) hok)
  · exact h

end Hook

end SignedHttp
