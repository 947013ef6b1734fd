import SignedHttp.Proofs.Hooks.Attach

/-!
# Calls of hooks that fail

A call of a hook keeps its contract (`Keeps`) if it either leaves the request as it was and
reports the failure (`Reported`), or hands on the request that it changed and counts one
outcome that is not an error (`Accepted`). For mapped headers this always holds, and what
fails is the signing (`Hook.attachMapped_keeps`). For listed headers it holds exactly if the
signing fails or all names and values are ASCII (`Hook.attachListed_keeps_iff`): the fields are
put together after the signing has counted its outcome, and nothing reports that they cannot be
sent.

Key definitions: `Reported`, `Quiet`, `Accepted`, `Unreported`, `Keeps`, `AddsAllOrNone`,
`Hook.CanSend`.
Key theorems: `Signer.apply_addsAllOrNone`, `Hook.attachMapped_keeps`, `Hook.mapped_keeps`,
`Hook.attachListed_of_not_canSend`, `Hook.attachListed_keeps_iff`.
-/

namespace SignedHttp

/-- What a failure leaves in the telemetry: one record at its level, and one more error. The
record is written as one line if the levels are at most its own and the log's clock stands in the
years 1 to 9999. -/
structure Reported (telemetry : Telemetry) (record : Log.Record) (events : List Event) : Prop where
  logged : recordsAt Log.errorLevel events = [record]
  written : .ofNat telemetry.levels.logger ≤ Log.errorLevel →
    .ofNat telemetry.levels.handler ≤ Log.errorLevel →
    Moment.firstInstant ≤ telemetry.instant → telemetry.instant ≤ Moment.lastInstant →
      ∃ text, record.line telemetry.instant = .ok text ∧
        linesAt Log.errorLevel (telemetry.absorb events).2 = [⟨record, text⟩]
  counted : ∀ outcome, (telemetry.absorb events).1.tally.count outcome =
    telemetry.tally.count outcome + if outcome = .error then 1 else 0

/-- Nothing at the level of failures is logged, and so nothing of it is written. -/
structure Quiet (telemetry : Telemetry) (events : List Event) : Prop where
  logged : recordsAt Log.errorLevel events = []
  written : linesAt Log.errorLevel (telemetry.absorb events).2 = []

/-- What a success leaves in the telemetry: no failure, and one more of either outcome that is not
an error. -/
structure Accepted (telemetry : Telemetry) (events : List Event) : Prop
    extends Quiet telemetry events where
  counted : ∃ counted, (counted = .signed ∨ counted = .prefixMismatch) ∧
    ∀ outcome, (telemetry.absorb events).1.tally.count outcome =
      telemetry.tally.count outcome + if outcome = counted then 1 else 0

/-- What a failure leaves in the telemetry that is not reported: nothing that is a failure, and all
counts as they were. -/
structure Unreported (telemetry : Telemetry) (events : List Event) : Prop
    extends Quiet telemetry events where
  counted : ∀ outcome,
    (telemetry.absorb events).1.tally.count outcome = telemetry.tally.count outcome

/-- The contract of a call: it fails, leaves the request as it was and reports the failure, or
it passes on the request, which is changed, and counts it. -/
def Keeps {Request : Type} (telemetry : Telemetry) (record : Fault → Log.Record)
    (before : Request) (call : Run Request × Request) : Prop :=
  match call.1.result with
  | .error fault => call.2 = before ∧ Reported telemetry (record fault) call.1.events
  | .ok sent => sent = call.2 ∧ Accepted telemetry call.1.events

/-- The contract of adding the fields of a signing to a mapping of texts: it ends as the signing
does, and either adds all fields and counts one outcome or leaves the mapping as it was and counts
nothing. -/
def AddsAllOrNone (telemetry : Telemetry) (signing : Run SignedHeaders)
    (added : SignedHeaders → List Field) (rule : NameRule) (before : List Field)
    (call : Run SignedHeaders × Option Headers) : Prop :=
  call.1.result = signing.result ∧
    match signing.result with
    | .error _ => call.2 = some (.named rule before) ∧ Unreported telemetry call.1.events
    | .ok signed => call.2 = some (.named rule (Headers.foldAll (added signed) before)) ∧
        Accepted telemetry call.1.events

theorem Quiet.of_events {events : List Event} (h : recordsAt Log.errorLevel events = [])
    (telemetry : Telemetry) : Quiet telemetry events where
  logged := h
  written := by
    rw [Telemetry.linesAt_absorb, h]
    rfl

theorem count_singleton (counted outcome : Outcome) :
    [counted].count outcome = if outcome = counted then 1 else 0 := by
  rw [List.count_singleton]
  by_cases h : outcome = counted
  · rw [if_pos h, if_pos (beq_iff_eq.mpr h.symm)]
  · rw [if_neg h, if_neg fun e => h (beq_iff_eq.mp e).symm]

theorem Accepted.of_events {events : List Event} {counted : Outcome} (hcounted : counted ≠ .error)
    (houtcomes : outcomesOf events = [counted]) (hrecords : recordsAt Log.errorLevel events = [])
    (telemetry : Telemetry) : Accepted telemetry events where
  toQuiet := .of_events hrecords telemetry
  counted := by
    refine ⟨counted, ?_, fun outcome => ?_⟩
    · cases counted with
      | signed => exact .inl rfl
      | prefixMismatch => exact .inr rfl
      | error => exact absurd rfl hcounted
    · rw [Telemetry.count_absorb, houtcomes, count_singleton]

theorem Unreported.of_events {events : List Event} (houtcomes : outcomesOf events = [])
    (hrecords : recordsAt Log.errorLevel events = []) (telemetry : Telemetry) :
    Unreported telemetry events where
  toQuiet := .of_events hrecords telemetry
  counted outcome := by
    rw [Telemetry.count_absorb, houtcomes, List.count_nil, Nat.add_zero]

theorem Reported.of_events {events : List Event} {record : Log.Record}
    (houtcomes : outcomesOf events = [.error])
    (hrecords : recordsAt Log.errorLevel events = [record])
    (hlevel : record.level = Log.errorLevel)
    (hfields : ∀ field ∈ record.fields, field.2.holdsLongNumeral = false) (telemetry : Telemetry) :
    Reported telemetry record events where
  logged := hrecords
  written hlogger hhandler hfirst hlast := by
    obtain ⟨moment, hmoment⟩ := Moment.exists_reach hfirst hlast
    obtain ⟨text, htext, hwrite⟩ := Telemetry.write_eq_line hlevel
      (Telemetry.admits_errorLevel hlogger hhandler) hmoment hfields
    refine ⟨text, htext, ?_⟩
    rw [Telemetry.linesAt_absorb, hrecords, List.flatMap_cons, hwrite]
    rfl
  counted outcome := by
    rw [Telemetry.count_absorb, houtcomes, count_singleton]

theorem Accepted.not_reported {telemetry : Telemetry} {events : List Event}
    (h : Accepted telemetry events) (record : Log.Record) :
    ¬ Reported telemetry record events := fun hreported => by
  have hlogged := hreported.logged
  rw [h.logged] at hlogged
  cases hlogged

/-! ### Adding the fields of a signing to a mapping -/

/-- A signer adds both its fields to a mapping of texts or none, and it fails exactly as its
signing does. -/
theorem Signer.apply_addsAllOrNone (telemetry : Telemetry) (secret base : Payload)
    (timestampName signName : String) (clock : Clock) (rule : NameRule) (fields : List Field)
    (url : Json) (body : Payload) :
    let signer := Signer.named secret base timestampName signName
    AddsAllOrNone telemetry (signer.sign clock url body .null)
      (·.textFields timestampName signName) rule fields
      (signer.apply clock (some (.named rule fields)) url body) := by
  intro signer
  have hnames : signer.requireNames = .ok () := requireNames_named _ _ _ _
  rw [AddsAllOrNone]
  cases hresult : (signer.sign clock url body .null).result with
  | error fault =>
    obtain ⟨houtcomes, hrecords⟩ := sign_error hnames hresult
    rw [apply_of_error (some (.named rule fields)) hresult]
    exact ⟨rfl, rfl, .of_events houtcomes hrecords telemetry⟩
  | ok signed =>
    obtain ⟨-, houtcomes, hrecords⟩ := sign_ok hnames hresult
    rw [apply_of_ok rule fields hresult]
    exact ⟨hresult, rfl, .of_events (outcome_ne_error signer url) houtcomes hrecords telemetry⟩

namespace Hook

theorem reported_failureEvents {events : List Event} (houtcomes : outcomesOf events = [])
    (hrecords : recordsAt Log.errorLevel events = []) (logger : String) {method url : Json}
    (hmethod : method.holdsLongNumeral = false) (hurl : url.holdsLongNumeral = false)
    (fault : Fault) (telemetry : Telemetry) :
    Reported telemetry (failureRecord logger method url fault)
      (events ++ failureEvents logger method url fault) := by
  refine .of_events ?_ ?_ rfl ?_ telemetry
  · rw [outcomesOf_append, houtcomes]
    rfl
  · rw [recordsAt_append, hrecords]
    rfl
  · exact holdsLongNumeral_of_mem_failureRecord logger hmethod hurl fault

theorem accepted_successEvent {events : List Event} {counted : Outcome}
    (hcounted : counted ≠ .error) (houtcomes : outcomesOf events = [counted])
    (hrecords : recordsAt Log.errorLevel events = []) (logger : String) (method : Json)
    (signed : SignedHeaders) (telemetry : Telemetry) :
    Accepted telemetry (events ++ [successEvent logger method signed]) := by
  refine .of_events hcounted ?_ ?_ telemetry
  · rw [outcomesOf_append, houtcomes]
    rfl
  · rw [recordsAt_append, hrecords]
    rfl

/-! ### Mapped headers -/

/-- A hook for mapped headers keeps its contract, whatever it signs with and whatever the body is;
a failure is that of the signing, and a success adds all new fields and changes nothing else. -/
theorem attachMapped_keeps (telemetry : Telemetry) (secret base : Payload)
    (timestampName signName : String) (key : Option String) (clock : Clock)
    (method url : Option String) (fields : List Field) (body : Payload) :
    let signer := Signer.named secret base timestampName signName
    let request : MappedRequest :=
      ⟨.ofOption method, .ofOption url, some (.named .caseless fields), body⟩
    let call := (named secret base timestampName signName key).attachMapped clock request
    Keeps telemetry (failureRecord mappedLogger request.method request.url) request call ∧
      (∀ fault, call.1.result = .error fault →
        (signer.sign clock request.url body .null).result = .error fault) ∧
      ∀ sent, call.1.result = .ok sent → ∃ signed,
        (signer.sign clock request.url body .null).result = .ok signed ∧
        sent = { request with headers := some (.named .caseless
          (Headers.foldAll (addedFields timestampName signName key signed) fields)) } := by
  intro signer request call
  have hnames : signer.requireNames = .ok () := Signer.requireNames_named _ _ _ _
  cases hresult : (signer.sign clock request.url body .null).result with
  | error fault =>
    have hcall : call = _ := attachMapped_of_error request hresult
    obtain ⟨houtcomes, hrecords⟩ := Signer.sign_error hnames hresult
    rw [hcall]
    refine ⟨⟨rfl, ?_⟩, fun _ h => ?_, fun _ h => (by cases h)⟩
    · exact reported_failureEvents houtcomes hrecords mappedLogger
        (Json.holdsLongNumeral_ofOption method) (Json.holdsLongNumeral_ofOption url) fault telemetry
    · rw [Except.error.inj h]
  | ok signed =>
    have hcall : call = _ := attachMapped_of_ok key request.method .caseless fields hresult
    obtain ⟨-, houtcomes, hrecords⟩ := Signer.sign_ok hnames hresult
    rw [hcall]
    refine ⟨⟨rfl, ?_⟩, fun _ h => (by cases h), fun _ h => ?_⟩
    · exact accepted_successEvent (Signer.outcome_ne_error signer request.url) houtcomes hrecords
        mappedLogger request.method signed telemetry
    · exact ⟨signed, rfl, (Except.ok.inj h).symm⟩

/-- Mapped headers are never left half signed, nor is a failure counted twice: this holds of a
hook, and of a signer that adds its fields to a mapping by itself. -/
theorem mapped_keeps (telemetry : Telemetry) (secret base : Payload)
    (timestampName signName : String) (clock : Clock) (body : Payload) :
    let signer := Signer.named secret base timestampName signName
    (∀ (key method url : Option String) (fields : List Field),
      let request : MappedRequest :=
        ⟨.ofOption method, .ofOption url, some (.named .caseless fields), body⟩
      let call := (named secret base timestampName signName key).attachMapped clock request
      Keeps telemetry (failureRecord mappedLogger request.method request.url) request call ∧
        (∀ fault, call.1.result = .error fault →
          (signer.sign clock request.url body .null).result = .error fault) ∧
        ∀ sent, call.1.result = .ok sent → ∃ signed,
          (signer.sign clock request.url body .null).result = .ok signed ∧
          sent = { request with headers := some (.named .caseless
            (Headers.foldAll (addedFields timestampName signName key signed) fields)) }) ∧
    ∀ (rule : NameRule) (fields : List Field) (url : Json),
      AddsAllOrNone telemetry (signer.sign clock url body .null)
        (·.textFields timestampName signName) rule fields
        (signer.apply clock (some (.named rule fields)) url body) := by
  intro signer
  refine ⟨fun key method url fields => ?_, fun rule fields url => ?_⟩
  · exact attachMapped_keeps telemetry secret base timestampName signName key clock method url
      fields body
  · exact Signer.apply_addsAllOrNone telemetry secret base timestampName signName clock rule fields
      url body

/-! ### Listed headers -/

/-- Whether everything is ASCII that a hook for listed headers puts into a request: the fields
that the request has, and its own names and key. -/
structure CanSend (timestampName signName : String) (key : Option String) (fields : List Field) :
    Prop where
  fields : ∀ field ∈ fields, isSendable field = true
  timestampName : Text.Ascii.isText timestampName = true
  signName : Text.Ascii.isText signName = true
  key : ∀ text, key = some text → Text.Ascii.isText text = true

theorem canSend_iff {signed : SignedHeaders} (timestampName signName : String)
    (key : Option String) (fields : List Field)
    (htimestamp : Text.Ascii.isText signed.timestamp = true)
    (hsign : Text.Ascii.isText signed.sign = true) :
    (∀ field ∈ lowerNames fields ++ addedFields timestampName signName key signed,
      isSendable field = true) ↔ CanSend timestampName signName key fields := by
  have hfields : (∀ field ∈ lowerNames fields, isSendable field = true) ↔
      ∀ field ∈ fields, isSendable field = true := by
    simp only [lowerNames, List.forall_mem_map, isSendable, Text.Ascii.isText_asciiLower]
  have hpair : (∀ field ∈ signed.textFields timestampName signName, isSendable field = true) ↔
      Text.Ascii.isText timestampName = true ∧ Text.Ascii.isText signName = true := by
    rw [SignedHeaders.textFields]
    by_cases h : timestampName = signName
    · simp [h, isSendable, hsign]
    · simp [h, isSendable, hsign, htimestamp]
  have hkey : (∀ field ∈ keyTextFields key, isSendable field = true) ↔
      ∀ text, key = some text → Text.Ascii.isText text = true := by
    cases key with
    | none => simp [keyTextFields]
    | some text =>
      by_cases h : text = ""
      · subst h
        simp [keyTextFields, show Text.Ascii.isText "" = true from rfl]
      · simp [keyTextFields, h, isSendable, show Text.Ascii.isText "api-key" = true from rfl]
  rw [addedFields, List.forall_mem_append, List.forall_mem_append, hfields, hpair, hkey]
  constructor
  · rintro ⟨hbefore, ⟨htimestampName, hsignName⟩, htext⟩
    exact ⟨hbefore, htimestampName, hsignName, htext⟩
  · rintro ⟨hbefore, htimestampName, hsignName, htext⟩
    exact ⟨hbefore, ⟨htimestampName, hsignName⟩, htext⟩

theorem signListed_error {hook : Hook} {clock : Clock} {request : ListedRequest} {isRead : Bool}
    {fault : Fault} (hnames : hook.signer.requireNames = .ok ())
    (h : (hook.signListed clock request isRead).result = .error fault) :
    outcomesOf (hook.signListed clock request isRead).events = [] ∧
      recordsAt Log.errorLevel (hook.signListed clock request isRead).events = [] := by
  rcases signListed_cases hook clock request isRead with ⟨_, hrun⟩ | ⟨body, hrun⟩
  · rw [hrun]
    exact ⟨rfl, rfl⟩
  · rw [hrun] at h ⊢
    exact Signer.sign_error hnames h

/-- A content that is signed is counted once and not logged as a failure, and what is made of it
is ASCII. -/
theorem signListed_ok {hook : Hook} {clock : Clock} {request : ListedRequest} {isRead : Bool}
    {signed : SignedHeaders} (hnames : hook.signer.requireNames = .ok ())
    (h : (hook.signListed clock request isRead).result = .ok signed) :
    (Text.Ascii.isText signed.timestamp = true ∧ Text.Ascii.isText signed.sign = true) ∧
      outcomesOf (hook.signListed clock request isRead).events =
        [hook.signer.outcome (.string request.url.text)] ∧
      recordsAt Log.errorLevel (hook.signListed clock request isRead).events = [] := by
  rcases signListed_cases hook clock request isRead with ⟨_, hrun⟩ | ⟨body, hrun⟩
  · rw [hrun] at h
    cases h
  · rw [hrun] at h ⊢
    obtain ⟨⟨stages, rfl⟩, houtcomes, hrecords⟩ := Signer.sign_ok hnames h
    exact ⟨⟨stages.isText_timestamp, stages.isText_sign⟩, houtcomes, hrecords⟩

/-- A request that is signed but cannot be sent stays as it was. The call fails, which is counted
as a success and not logged as a failure. -/
theorem attachListed_of_not_canSend {secret base : Payload} {timestampName signName : String}
    {key : Option String} {clock : Clock} {request : ListedRequest} {isRead : Bool}
    {signed : SignedHeaders} (telemetry : Telemetry)
    (h : ((named secret base timestampName signName key).signListed clock request isRead).result =
      .ok signed)
    (hascii : ¬ CanSend timestampName signName key request.fields) :
    let call := (named secret base timestampName signName key).attachListed clock request isRead
    (∃ refusal, call.1.result = .error (.notAscii refusal)) ∧ call.2 = request ∧
      Accepted telemetry call.1.events := by
  intro call
  obtain ⟨⟨htimestamp, hsign⟩, houtcomes, hrecords⟩ :=
    signListed_ok (Signer.requireNames_named _ _ _ _) h
  obtain ⟨refusal, hcall⟩ : ∃ refusal, call = _ := attachListed_of_not_isSendable h fun hsend =>
    hascii ((canSend_iff timestampName signName key request.fields htimestamp hsign).mp hsend)
  rw [hcall]
  exact ⟨⟨refusal, rfl⟩, rfl,
    .of_events (Signer.outcome_ne_error _ _) houtcomes hrecords telemetry⟩

theorem not_keeps {Request : Type} {telemetry : Telemetry} {record : Fault → Log.Record}
    {before : Request} {call : Run Request × Request} {fault : Fault}
    (hresult : call.1.result = .error fault) (h : Accepted telemetry call.1.events) :
    ¬ Keeps telemetry record before call := fun hkeeps => by
  rw [Keeps, hresult] at hkeeps
  exact h.not_reported _ hkeeps.2

/-- A hook for listed headers keeps its contract exactly if the content is not signed at all or
everything that is put into the request is ASCII. If it is not, the call fails and the request
stays as it was, but this is counted as a success and not logged as a failure. -/
theorem attachListed_keeps_iff (telemetry : Telemetry) (secret base : Payload)
    (timestampName signName : String) (key : Option String) (clock : Clock)
    (request : ListedRequest) (isRead : Bool) :
    let hook := named secret base timestampName signName key
    let call := hook.attachListed clock request isRead
    let record := failureRecord listedLogger (.string request.method) (.string request.url.text)
    (Keeps telemetry record request call ↔
        (∃ fault, (hook.signListed clock request isRead).result = .error fault) ∨
          CanSend timestampName signName key request.fields) ∧
      (¬ Keeps telemetry record request call →
        (∃ refusal, call.1.result = .error (.notAscii refusal)) ∧ call.2 = request ∧
          Accepted telemetry call.1.events) := by
  intro hook call record
  have hnames : hook.signer.requireNames = .ok () := Signer.requireNames_named _ _ _ _
  cases hresult : (hook.signListed clock request isRead).result with
  | error fault =>
    have hcall : call = _ := attachListed_of_error hresult
    obtain ⟨houtcomes, hrecords⟩ := signListed_error hnames hresult
    have hkeeps : Keeps telemetry record request call := by
      rw [hcall]
      refine ⟨rfl, reported_failureEvents houtcomes hrecords listedLogger ?_ ?_ fault telemetry⟩
      · exact Json.holdsLongNumeral_ofOption (some request.method)
      · exact Json.holdsLongNumeral_ofOption (some request.url.text)
    exact ⟨iff_of_true hkeeps (.inl ⟨fault, rfl⟩), fun h => absurd hkeeps h⟩
  | ok signed =>
    obtain ⟨⟨htimestamp, hsign⟩, houtcomes, hrecords⟩ := signListed_ok hnames hresult
    have hsend := canSend_iff timestampName signName key request.fields htimestamp hsign
    by_cases hascii : CanSend timestampName signName key request.fields
    · have hcall : call = _ := attachListed_of_ok hresult (hsend.mpr hascii)
      have hkeeps : Keeps telemetry record request call := by
        rw [hcall]
        exact ⟨rfl, accepted_successEvent (Signer.outcome_ne_error _ _) houtcomes hrecords
          listedLogger (.string request.method) signed telemetry⟩
      exact ⟨iff_of_true hkeeps (.inr hascii), fun h => absurd hkeeps h⟩
    · -- the signing has counted its outcome before the fields are put together
      have hfails := attachListed_of_not_canSend telemetry hresult hascii
      have ⟨⟨_, herror⟩, _, haccepted⟩ := hfails
      refine ⟨iff_of_false (not_keeps herror haccepted) ?_, fun _ => hfails⟩
      rintro (⟨_, hsigning⟩ | hsent)
      · cases hsigning
      · exact hascii hsent

/-- A key with a letter that is not ASCII: the call fails, and this is not reported. -/
theorem attachListed_not_keeps_accented :
    let hook := named (.text "secret") (.text "") "timestamp" "sign" (some "é")
    let request : ListedRequest :=
      ⟨"GET", ⟨"http", "", "host", none, "/", none, none⟩, [("Host", "host")], .none⟩
    ¬ Keeps Telemetry.initial
      (failureRecord listedLogger (.string request.method) (.string request.url.text)) request
      (hook.attachListed (.always (.seconds 1)) request false) := by
  intro hook request
  have hkey : (Payload.text "secret").keyBytes = .ok (Text.Utf8.encode "secret") := rfl
  have htime : (Clock.always (.seconds 1)).read.1.milliseconds = .ok 1000 := rfl
  have hbody : (Payload.bytes []).bodyText = .ok (.string "") := rfl
  obtain ⟨signed, hresult, -⟩ := Signer.exists_signed "" request.url.text "timestamp" "sign" hkey
    htime (by decide) hbody
  have hcontent : contentBody request.content false = .ok (.bytes []) := rfl
  have hsigned : (hook.signListed (.always (.seconds 1)) request false).result = .ok signed := by
    rw [signListed_of_contentBody _ hcontent]
    exact hresult
  have hascii : ¬ CanSend "timestamp" "sign" (some "é") request.fields := fun h =>
    absurd (h.key "é" rfl) (by decide)
  obtain ⟨⟨_, herror⟩, -, haccepted⟩ :=
    attachListed_of_not_canSend Telemetry.initial hsigned hascii
  change ¬ Keeps _ _ _
    ((named (.text "secret") (.text "") "timestamp" "sign" (some "é")).attachListed
      (.always (.seconds 1)) request false)
  exact not_keeps herror haccepted

end Hook

end SignedHttp
