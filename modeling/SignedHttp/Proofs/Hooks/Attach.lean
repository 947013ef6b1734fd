import SignedHttp.Hook
import SignedHttp.Proofs.Fields
import SignedHttp.Proofs.Signing

/-!
# What a call of a hook does

A hook whose names and key are texts adds the fields `addedFields`: the timestamp and the
signature, and the key behind them unless it is missing or empty. A call has two ends for mapped
headers, by the end of its signing (`attachMapped_of_error`, `attachMapped_of_ok`), and three
for listed headers: when the signing succeeds, all fields that are to be sent are ASCII
(`attachListed_of_ok`) or one is not (`attachListed_of_not_isSendable`).

Key definitions: `Hook.named`, `Hook.addedFields`, `Hook.isSendable`.
Key theorems: `Signer.apply_of_error`, `Signer.apply_of_ok`, `Hook.attachMapped_of_error`,
`Hook.attachMapped_of_ok`, `Hook.attachListed_of_error`, `Hook.attachListed_of_ok`,
`Hook.attachListed_of_not_isSendable`.
-/

namespace SignedHttp

/-- The fields of signed headers whose names are texts. -/
def SignedHeaders.textFields (signed : SignedHeaders) (timestampName signName : String) :
    List Field :=
  if timestampName = signName then [(timestampName, signed.sign)]
  else [(timestampName, signed.timestamp), (signName, signed.sign)]

theorem SignedHeaders.fields_eq {signed : SignedHeaders} {timestampName signName : String}
    (ht : signed.timestampHeader = .text timestampName) (hs : signed.signHeader = .text signName) :
    signed.fields = .ok signed.pairs ∧ signed.pairs =
      (signed.textFields timestampName signName).map fun field => (.text field.1, field.2) := by
  obtain ⟨timestamp, sign, path, _, _⟩ := signed
  subst ht hs
  refine ⟨fields_text .., ?_⟩
  rw [pairs, textFields, Payload.isSame, Json.isSame_string]
  by_cases h : timestampName = signName
  · rw [if_pos (decide_eq_true h), if_pos h]
    rfl
  · rw [decide_eq_false h, if_neg Bool.false_ne_true, if_neg h]
    rfl

theorem SignedHeaders.entries_eq {signed : SignedHeaders} {timestampName signName : String}
    (ht : signed.timestampHeader = .text timestampName) (hs : signed.signHeader = .text signName) :
    signed.entries = .ok ((signed.textFields timestampName signName).map Headers.entryOf) := by
  obtain ⟨hfields, hpairs⟩ := fields_eq ht hs
  rw [entries, hfields, hpairs]
  change Except.ok (List.map _ (List.map _ _)) = _
  rw [List.map_map]
  rfl

theorem SignedHeaders.valuesOf_textFields {timestampName signName : String}
    (hnames : Text.sameName timestampName signName = false) (signed : SignedHeaders) :
    Headers.valuesOf timestampName (signed.textFields timestampName signName) =
        [signed.timestamp] ∧
      Headers.valuesOf signName (signed.textFields timestampName signName) = [signed.sign] := by
  have hne : timestampName ≠ signName := by
    rintro rfl
    rw [Text.sameName_refl] at hnames
    cases hnames
  have hnames' : Text.sameName signName timestampName = false := by
    rw [Headers.sameName_comm, hnames]
  rw [textFields, if_neg hne, Headers.valuesOf_cons_of_same (Text.sameName_refl _),
    Headers.valuesOf_cons_of_ne hnames', Headers.valuesOf_cons_of_ne hnames,
    Headers.valuesOf_cons_of_same (Text.sameName_refl _)]
  exact ⟨rfl, rfl⟩

/-! ### Adding the fields of a signing to a mapping -/

namespace Signer

variable {secret base : Payload} {timestampName signName : String} {clock : Clock} {url : Json}
  {body : Payload}

theorem check_named (operation : Operation) :
    (named secret base timestampName signName).check operation = .ok () :=
  rfl

theorem entries_of_sign {time : Json} {signed : SignedHeaders}
    (h : ((named secret base timestampName signName).sign clock url body time).result =
      .ok signed) :
    signed.entries = .ok ((signed.textFields timestampName signName).map Headers.entryOf) := by
  obtain ⟨⟨stages, rfl⟩, -, -⟩ := sign_ok rfl h
  exact SignedHeaders.entries_eq rfl rfl

theorem apply_of_error {fault : Fault} (headers : Option Headers)
    (h : ((named secret base timestampName signName).sign clock url body .null).result =
      .error fault) :
    (named secret base timestampName signName).apply clock headers url body =
      (⟨.error fault, ((named secret base timestampName signName).sign clock url body .null).events,
        ((named secret base timestampName signName).sign clock url body .null).clock⟩,
        headers) := by
  rw [apply, check_named]
  dsimp only
  rw [h]
  rfl

theorem apply_of_ok {signed : SignedHeaders} (rule : NameRule) (fields : List Field)
    (h : ((named secret base timestampName signName).sign clock url body .null).result =
      .ok signed) :
    (named secret base timestampName signName).apply clock (some (.named rule fields)) url body =
      ((named secret base timestampName signName).sign clock url body .null,
        some (.named rule
          (Headers.foldAll (signed.textFields timestampName signName) fields))) := by
  have hentries := entries_of_sign h
  rw [apply, check_named]
  dsimp only
  rw [h, show (Except.ok signed >>= SignedHeaders.entries) = signed.entries from rfl, hentries]
  dsimp only [Headers.addAll]
  rw [Headers.appendAll_named]

end Signer

namespace Hook

/-- A hook whose names are texts, and whose key is one or is missing. -/
def named (secret base : Payload) (timestampName signName : String) (key : Option String) : Hook :=
  ⟨.named secret base timestampName signName, .ofOption key⟩

/-- The field of a key, unless it is missing or empty. -/
def keyTextFields : Option String → List Field
  | none => []
  | some key => if key = "" then [] else [("api-key", key)]

/-- The fields that a hook adds whose names and key are texts. -/
def addedFields (timestampName signName : String) (key : Option String) (signed : SignedHeaders) :
    List Field :=
  signed.textFields timestampName signName ++ keyTextFields key

theorem holdsLongNumeral_of_mem_failureRecord (logger : String) {method url : Json}
    (hmethod : method.holdsLongNumeral = false) (hurl : url.holdsLongNumeral = false)
    (fault : Fault) :
    ∀ field ∈ (failureRecord logger method url fault).fields,
      field.2.holdsLongNumeral = false := by
  intro field hfield
  simp only [failureRecord, List.mem_cons, List.not_mem_nil, or_false] at hfield
  rcases hfield with rfl | rfl | rfl | rfl
  · exact hmethod
  · exact hurl
  · obtain ⟨s, hs⟩ := fault.exists_codes?_message
    exact Json.holdsLongNumeral_of_codes? hs
  · exact Json.holdsLongNumeral_string _

variable {secret base : Payload} {timestampName signName : String} {key : Option String}
  {clock : Clock}

theorem signer_named : (named secret base timestampName signName key).signer =
    .named secret base timestampName signName :=
  rfl

theorem keyFields_named :
    (named secret base timestampName signName key).keyFields =
      (keyTextFields key).map Headers.entryOf := by
  cases key with
  | none => rfl
  | some text =>
    by_cases h : text = ""
    · subst h
      rfl
    · have hempty : (Json.ofOption (some text)).isEmpty = false := by
        simpa [Json.ofOption, Json.isEmpty] using h
      rw [keyFields, named, hempty, if_neg Bool.false_ne_true, keyTextFields, if_neg h]
      rfl

theorem newFields_named {signed : SignedHeaders}
    (h : signed.entries = .ok ((signed.textFields timestampName signName).map Headers.entryOf)) :
    (named secret base timestampName signName key).newFields signed =
      .ok ((addedFields timestampName signName key signed).map Headers.entryOf) := by
  rw [newFields, h, keyFields_named, addedFields, List.map_append]
  rfl

/-! ### Mapped headers -/

variable {url : Json} {body : Payload}

theorem attachMapped_of_error {fault : Fault} (request : MappedRequest)
    (h : ((Signer.named secret base timestampName signName).sign clock request.url request.body
      .null).result = .error fault) :
    (named secret base timestampName signName key).attachMapped clock request =
      (⟨.error fault, ((Signer.named secret base timestampName signName).sign clock request.url
          request.body .null).events ++ failureEvents mappedLogger request.method request.url fault,
        ((Signer.named secret base timestampName signName).sign clock request.url request.body
          .null).clock⟩, request) := by
  rw [attachMapped, signer_named, Signer.apply_of_error request.headers h]

theorem attachMapped_of_ok {signed : SignedHeaders} (key : Option String) (method : Json)
    (rule : NameRule) (fields : List Field)
    (h : ((Signer.named secret base timestampName signName).sign clock url body .null).result =
      .ok signed) :
    let after : MappedRequest := ⟨method, url, some (.named rule
      (Headers.foldAll (addedFields timestampName signName key signed) fields)), body⟩
    (named secret base timestampName signName key).attachMapped clock
        ⟨method, url, some (.named rule fields), body⟩ =
      (⟨.ok after, ((Signer.named secret base timestampName signName).sign clock url body
          .null).events ++ [successEvent mappedLogger method signed],
        ((Signer.named secret base timestampName signName).sign clock url body .null).clock⟩,
        after) := by
  rw [attachMapped, signer_named, Signer.apply_of_ok rule fields h]
  dsimp only
  rw [h]
  dsimp only [Headers.addAll]
  rw [keyFields_named, Headers.appendAll_named, addedFields, Headers.foldAll_append]

/-! ### Listed headers -/

def isSendable (field : Field) : Bool :=
  Text.Ascii.isText field.1 && Text.Ascii.isText field.2

theorem sendablePoints_of_isText {s : String} (h : Text.Ascii.isText s = true) :
    sendablePoints (Text.points s.toList) = .ok s := by
  rw [sendablePoints, (Text.Ascii.check_eq_ok_iff_isText s).mpr h]
  exact congrArg Except.ok (Text.ofPoints_points s)

theorem sendablePoints_of_not_isText {s : String} (h : Text.Ascii.isText s = false) :
    ∃ refusal, sendablePoints (Text.points s.toList) = .error (.notAscii refusal) := by
  obtain ⟨refusal, hrefusal⟩ := Text.Ascii.exists_refusal h
  exact ⟨refusal, by rw [sendablePoints, hrefusal]; rfl⟩

theorem sendable_cons (name value : String) (entries : List Entry) :
    sendable (Headers.entryOf (name, value) :: entries) = (do
      let name ← sendablePoints (Text.points name.toList)
      let value ← sendablePoints (Text.points value.toList)
      return (name, value) :: (← sendable entries)) :=
  rfl

theorem sendable_of_isSendable : ∀ {fields : List Field}, (∀ field ∈ fields, isSendable field) →
    sendable (fields.map Headers.entryOf) = .ok fields
  | [], _ => rfl
  | (name, value) :: fields, h => by
    obtain ⟨hfield, hfields⟩ := List.forall_mem_cons.mp h
    obtain ⟨hname, hvalue⟩ := Bool.and_eq_true_iff.mp hfield
    rw [List.map_cons, sendable_cons, sendable_of_isSendable hfields,
      sendablePoints_of_isText hname, sendablePoints_of_isText hvalue]
    rfl

/-- The first name or value that is not ASCII is refused. -/
theorem sendable_of_not_isSendable : ∀ {fields : List Field},
    ¬ (∀ field ∈ fields, isSendable field) →
      ∃ refusal, sendable (fields.map Headers.entryOf) = .error (.notAscii refusal)
  | [], h => absurd (fun _ hmem => by cases hmem) h
  | (name, value) :: fields, h => by
    rw [List.map_cons, sendable_cons]
    cases hname : Text.Ascii.isText name with
    | false =>
      obtain ⟨refusal, hrefusal⟩ := sendablePoints_of_not_isText hname
      rw [hrefusal]
      exact ⟨refusal, rfl⟩
    | true =>
      rw [sendablePoints_of_isText hname]
      cases hvalue : Text.Ascii.isText value with
      | false =>
        obtain ⟨refusal, hrefusal⟩ := sendablePoints_of_not_isText hvalue
        rw [hrefusal]
        exact ⟨refusal, rfl⟩
      | true =>
        have hfields : ¬ ∀ field ∈ fields, isSendable field := fun hall =>
          h (List.forall_mem_cons.mpr ⟨by rw [isSendable, hname, hvalue]; rfl, hall⟩)
        obtain ⟨refusal, hrefusal⟩ := sendable_of_not_isSendable hfields
        rw [sendablePoints_of_isText hvalue, hrefusal]
        exact ⟨refusal, rfl⟩

theorem signListed_of_contentBody {hook : Hook} {request : ListedRequest} {isRead : Bool}
    {body : Payload} (clock : Clock) (h : contentBody request.content isRead = .ok body) :
    hook.signListed clock request isRead =
      hook.signer.sign clock (.string request.url.text) body .null := by
  rw [signListed, h]

/-- A content that cannot be read is not signed at all, any other as its bytes. -/
theorem signListed_cases (hook : Hook) (clock : Clock) (request : ListedRequest) (isRead : Bool) :
    (∃ fault, hook.signListed clock request isRead = ⟨.error fault, [], clock⟩) ∨
      ∃ body, hook.signListed clock request isRead =
        hook.signer.sign clock (.string request.url.text) body .null := by
  cases h : contentBody request.content isRead with
  | error fault => exact .inl ⟨fault, by rw [signListed, h]⟩
  | ok body => exact .inr ⟨body, signListed_of_contentBody clock h⟩

variable {request : ListedRequest} {isRead : Bool}

theorem entries_of_signListed {signed : SignedHeaders}
    (h : ((named secret base timestampName signName key).signListed clock request isRead).result =
      .ok signed) :
    signed.entries = .ok ((signed.textFields timestampName signName).map Headers.entryOf) := by
  rcases signListed_cases (named secret base timestampName signName key) clock request isRead with
    ⟨_, hrun⟩ | ⟨_, hrun⟩
  · rw [hrun] at h
    cases h
  · rw [hrun] at h
    exact Signer.entries_of_sign h

theorem attachListed_of_error {hook : Hook} {fault : Fault}
    (h : (hook.signListed clock request isRead).result = .error fault) :
    hook.attachListed clock request isRead =
      (⟨.error fault, (hook.signListed clock request isRead).events ++
          failureEvents listedLogger (.string request.method) (.string request.url.text) fault,
        (hook.signListed clock request isRead).clock⟩, request) := by
  rw [attachListed]
  dsimp only
  rw [h]

theorem sentFields_named {signed : SignedHeaders} (fields : List Field)
    (h : signed.entries = .ok ((signed.textFields timestampName signName).map Headers.entryOf)) :
    (named secret base timestampName signName key).sentFields fields signed =
      sendable ((lowerNames fields ++
        addedFields timestampName signName key signed).map Headers.entryOf) := by
  rw [sentFields, newFields_named h, List.map_append]
  rfl

/-- Listed headers take the new fields when the signing succeeds and all fields are ASCII. -/
theorem attachListed_of_ok {signed : SignedHeaders}
    (h : ((named secret base timestampName signName key).signListed clock request isRead).result =
      .ok signed)
    (hfields : ∀ field ∈ lowerNames request.fields ++
      addedFields timestampName signName key signed, isSendable field) :
    let fields := lowerNames request.fields ++ addedFields timestampName signName key signed
    let after : ListedRequest := { request with fields := fields }
    (named secret base timestampName signName key).attachListed clock request isRead =
      (⟨.ok after, ((named secret base timestampName signName key).signListed clock request
          isRead).events ++ [successEvent listedLogger (.string request.method) signed],
        ((named secret base timestampName signName key).signListed clock request isRead).clock⟩,
        after) := by
  rw [attachListed]
  dsimp only
  rw [h]
  dsimp only
  rw [sentFields_named request.fields (entries_of_signListed h), sendable_of_isSendable hfields]

/-- A request with listed headers stays as it is when the signing succeeds but a field is not
ASCII; this is neither logged nor counted. -/
theorem attachListed_of_not_isSendable {signed : SignedHeaders}
    (h : ((named secret base timestampName signName key).signListed clock request isRead).result =
      .ok signed)
    (hfields : ¬ ∀ field ∈ lowerNames request.fields ++
      addedFields timestampName signName key signed, isSendable field) :
    ∃ refusal, (named secret base timestampName signName key).attachListed clock request isRead =
      (⟨.error (.notAscii refusal),
        ((named secret base timestampName signName key).signListed clock request isRead).events,
        ((named secret base timestampName signName key).signListed clock request isRead).clock⟩,
        request) := by
  obtain ⟨refusal, hrefusal⟩ := sendable_of_not_isSendable hfields
  refine ⟨refusal, ?_⟩
  rw [attachListed]
  dsimp only
  rw [h]
  dsimp only
  rw [sentFields_named request.fields (entries_of_signListed h), hrefusal]

end Hook

end SignedHttp
