import SignedHttp.Proofs.Events
import SignedHttp.Proofs.Text.Ascii
import SignedHttp.Proofs.Text.Base64
import SignedHttp.Signer

/-!
# What a signing can do

A signing that fails has counted nothing and logged at most the warning about its address
(`sign_error`). One that succeeds went through all its stages (`Stages`) and counted one
outcome, which is not an error (`sign_ok`). Everything that is said of hooks and of runs below
rests on these two, which are the two sides of one case analysis (`sign_cases`): the stages in
their order, each of which fails or hands its result on. Conversely a signer none of whose
stages fails succeeds (`sign_of_stages`).

The two texts that a signing makes are ASCII (`Stages.isText_timestamp`,
`Stages.isText_sign`).

Key definitions: `Signer.named`, `Signer.Stages`.
Key theorems: `Signer.sign_cases`, `Signer.sign_error`, `Signer.sign_ok`,
`Signer.sign_of_stages`, `Signer.exists_signed`.
-/

namespace SignedHttp

/-- Peels off what came before a result. -/
theorem exists_of_bind_eq_ok {α β : Type} {x : Except Fault α} {f : α → Except Fault β} {b : β}
    (h : x >>= f = .ok b) : ∃ a, x = .ok a ∧ f a = .ok b := by
  cases x with
  | error fault => cases h
  | ok a => exact ⟨a, rfl, h⟩

theorem exists_of_map_eq_ok {α β : Type} {x : Except Fault α} {f : α → β} {b : β}
    (h : f <$> x = .ok b) : ∃ a, x = .ok a ∧ f a = b := by
  cases x with
  | error fault => cases h
  | ok a => exact ⟨a, rfl, Except.ok.inj h⟩

theorem Json.shown_number (n : Int) :
    Json.shown (.number n) = (fun s : String => Text.points s.toList) <$> Log.numeral n := by
  rw [shown, literal, Log.numeral, Text.Decimal.numeral?, holdsLongNumeral]
  · cases Text.Decimal.isLong n with
    | true => rfl
    | false =>
      change Except.ok (Text.points (literalChars (.number n))) = _
      rw [literalChars]
      rfl
  all_goals exact fun s h => by cases h

theorem Json.shown_of_codes? {value : Json} {s : List Nat} (h : value.codes? = some s) :
    value.shown = .ok s := by
  cases value with
  | string | points => rw [shown, ← Option.some.inj h]
  | _ => cases h

theorem numeral_of_log {n : Int} {s : String} (h : Log.numeral n = .ok s) :
    s = Text.Decimal.numeral n := by
  rw [Log.numeral, Text.Decimal.numeral?] at h
  split at h
  · rename_i t ht
    split at ht
    · cases ht
    · rw [← Except.ok.inj h, ← Option.some.inj ht]
  · cases h

theorem Payload.codes?_of_bodyText {body : Payload} {text : Json} (h : body.bodyText = .ok text) :
    ∃ s, text.codes? = some s := by
  have hdecode : ∀ b : List UInt8,
      Json.string <$> (Text.Utf8.decode b).mapError Fault.malformedText = .ok text →
        ∃ s, text.codes? = some s := fun b hb => by
    obtain ⟨s, -, rfl⟩ := exists_of_map_eq_ok hb
    exact ⟨_, rfl⟩
  rw [bodyText.eq_def] at h
  split at h
  · exact ⟨_, by rw [← Except.ok.inj h]; rfl⟩
  · exact ⟨_, by rw [← Except.ok.inj h]; rfl⟩
  · exact ⟨_, by rw [← Except.ok.inj h]; rfl⟩
  · exact hdecode _ h
  · exact hdecode _ h
  · cases h

theorem Payload.bodyText_of_codes? {body : Payload} {s : List Nat} (h : body.codes? = some s) :
    body.bodyText = .ok (.ofPoints s) := by
  cases body with
  | json value =>
    have hvalue : Json.ofPoints s = value := Json.ofPoints_of_codes? h
    rw [hvalue]
    cases value with
    | string | points => rfl
    | _ => cases h
  | _ => cases h

def Json.ofCodes : Option (List Nat) → Json
  | some s => .ofPoints s
  | none => .null

theorem Payload.codes?_ofPoints (s : List Nat) : (json (.ofPoints s)).codes? = some s :=
  Json.codes?_ofPoints s

/-! ### Bases and addresses that are strings -/

section Strings

variable {url : Json} {base : Payload} {address start : List Nat}

theorem Payload.isEmpty_of_codes? (h : base.codes? = some start) :
    base.isEmpty = start.isEmpty := by
  cases base with
  | json value =>
    cases value with
    | string s =>
      rw [← Option.some.inj h]
      exact List.isEmpty_map.symm
    | points s =>
      rw [← Option.some.inj h]
      rfl
    | _ => cases h
  | _ => cases h

/-- A string is taken off a string as it is, even an empty one. -/
theorem stripBase?_of_codes? (hurl : url.codes? = some address) (hbase : base.codes? = some start) :
    stripBase? url base = .ok (.ofPoints (Text.eraseFirst start address)) := by
  rw [stripBase?, Payload.isEmpty_of_codes? hbase, hurl, hbase]
  split
  · rename_i h
    rw [List.isEmpty_iff.mp h, ← List.nil_append address, Text.eraseFirst_append,
      Json.ofPoints_of_codes? hurl]
  · rfl

theorem findBase_of_codes? (hurl : url.codes? = some address) (hbase : base.codes? = some start) :
    findBase url base = .ok (Text.occursIn start address) := by
  cases url with
  | string | points =>
    rw [← Option.some.inj hurl, findBase]
    · rw [hbase]
      rfl
    all_goals nofun
  | _ => cases hurl

/-- A base that is not empty is taken off strings only, and is one. -/
theorem cases_of_stripBase? {path : Json} (h : stripBase? url base = .ok path) :
    base.isEmpty = true ∧ path = url ∨
      ∃ address start, url.codes? = some address ∧ base.codes? = some start ∧
        path = .ofPoints (Text.eraseFirst start address) := by
  rw [stripBase?.eq_def] at h
  split at h
  · exact .inl ⟨‹_›, (Except.ok.inj h).symm⟩
  · split at h
    · exact .inr ⟨_, _, ‹_›, ‹_›, (Except.ok.inj h).symm⟩
    · cases h
    · cases h

end Strings

theorem ofPoints_eraseFirst (url base : String) :
    Json.ofPoints (Text.eraseFirst (Text.points base.toList) (Text.points url.toList)) =
      .string (stripBase url base) := by
  rw [Text.eraseFirst_points, ← Json.ofPoints_points, stripBase, String.toList_ofList]

theorem stripBase?_text (url base : String) :
    stripBase? (.string url) (.text base) = .ok (.string (stripBase url base)) :=
  (stripBase?_of_codes? rfl rfl).trans (congrArg _ (ofPoints_eraseFirst url base))

namespace Signer

/-- A signer as it is made, with texts for the names of its fields. -/
def named (secret base : Payload) (timestampName signName : String) : Signer :=
  ⟨secret, base, .text timestampName, .text signName, [], []⟩

theorem requireNames_named (secret base : Payload) (timestampName signName : String) :
    (named secret base timestampName signName).requireNames = .ok () :=
  rfl

/-- What a signing makes, stage by stage, when no stage fails. -/
structure Stages (signer : Signer) (clock : Clock) (url : Json) (body : Payload) (time : Json) where
  text : Json
  codes : List Nat
  path : Json
  sign : String
  text_eq : body.bodyText = .ok text
  codes_eq : (signer.time clock time).1 >>= Json.shown = .ok codes
  path_eq : signer.path url = .ok path
  searched : ∃ isThere, signer.matchesBase url = .ok isThere
  sign_eq : signer.signature codes path text = .ok sign

variable {signer : Signer} {clock : Clock} {url : Json} {body : Payload} {time : Json}

namespace Stages

variable (stages : Stages signer clock url body time)

def timestamp : String := Text.ofPoints stages.codes

def signed : SignedHeaders :=
  ⟨stages.timestamp, stages.sign, stages.path, signer.timestampHeader, signer.signHeader⟩

def events : List Event :=
  signer.warning url ++ [.counted (signer.outcome url),
    .logged (signedRecord url stages.path stages.timestamp (signer.outcome url))]

/-- A time that is read from the clock has a numeral for its text. -/
theorem exists_numeral (stages : Stages signer clock url body .null) :
    ∃ n, stages.timestamp = Text.Decimal.numeral n := by
  obtain ⟨value, hvalue, hcodes⟩ := exists_of_bind_eq_ok stages.codes_eq
  obtain ⟨n, -, rfl⟩ := exists_of_map_eq_ok hvalue
  rw [Json.shown_number] at hcodes
  obtain ⟨s, hs, hpoints⟩ := exists_of_map_eq_ok hcodes
  rw [timestamp, ← hpoints, Text.ofPoints_points]
  exact ⟨n, numeral_of_log hs⟩

theorem isText_timestamp (stages : Stages signer clock url body .null) :
    Text.Ascii.isText stages.timestamp = true := by
  obtain ⟨n, hn⟩ := stages.exists_numeral
  rw [hn]
  exact Text.Ascii.isText_numeral n

/-- A signature is that of a message under a key. -/
theorem exists_ofKey : ∃ key path text message, signer.secret.keyBytes = .ok key ∧
    stages.path.shown = .ok path ∧ stages.text.shown = .ok text ∧
    Text.Utf8.encodePoints (stages.codes ++ path ++ text) = .ok message ∧
    stages.sign = Signature.ofKey key message := by
  obtain ⟨_, -, hsign⟩ := exists_of_bind_eq_ok stages.sign_eq
  obtain ⟨path, hpath, hsign⟩ := exists_of_bind_eq_ok hsign
  obtain ⟨text, htext, hsign⟩ := exists_of_bind_eq_ok hsign
  cases hencode : Text.Utf8.encodePoints (stages.codes ++ path ++ text) with
  | error refusal =>
    rw [Signature.ofPoints_of_error hencode] at hsign
    cases hsign
  | ok message =>
    rw [Signature.ofPoints_of_ok hencode] at hsign
    obtain ⟨key, hkey, hsign⟩ := exists_of_map_eq_ok hsign
    exact ⟨key, path, text, message, hkey, hpath, htext, hencode, hsign.symm⟩

theorem exists_sign : ∃ key message, stages.sign = Signature.ofKey key message := by
  obtain ⟨key, _, _, message, -, -, -, -, hsign⟩ := stages.exists_ofKey
  exact ⟨key, message, hsign⟩

theorem isText_sign : Text.Ascii.isText stages.sign = true := by
  obtain ⟨key, message, hsign⟩ := stages.exists_sign
  rw [hsign, Signature.ofKey, Text.Ascii.isText_iff]
  exact Text.Base64.isAscii_encode _

end Stages

/-! ### The two ends of a signing -/

/-- A signing fails, having logged the warning at most, or goes through all its stages. -/
theorem sign_cases (hnames : signer.requireNames = .ok ()) (clock : Clock) (url : Json)
    (body : Payload) (time : Json) :
    (∃ fault, (signer.sign clock url body time).result = .error fault ∧
      ((signer.sign clock url body time).events = [] ∨
        (signer.sign clock url body time).events = signer.warning url)) ∨
    ∃ stages : Stages signer clock url body time,
      (signer.sign clock url body time).result = .ok stages.signed ∧
        (signer.sign clock url body time).events = stages.events := by
  rw [sign]
  -- stage by stage; only the last one fails behind the warning, all others before it
  cases hbody : signer.check .sign >>= fun () => body.bodyText with
  | error fault => exact .inl ⟨fault, rfl, .inl rfl⟩
  | ok text =>
    obtain ⟨_, -, htext⟩ := exists_of_bind_eq_ok hbody
    dsimp only
    cases htime : (signer.time clock time).1 >>= Json.shown with
    | error fault => exact .inl ⟨fault, rfl, .inl rfl⟩
    | ok codes =>
      dsimp only
      cases hpath : signer.path url with
      | error fault => exact .inl ⟨fault, rfl, .inl rfl⟩
      | ok path =>
        cases hsearch : signer.matchesBase url with
        | error fault => exact .inl ⟨fault, rfl, .inl rfl⟩
        | ok isThere =>
          dsimp only
          cases hsign : signer.signature codes path text with
          | error fault => exact .inl ⟨fault, rfl, .inr rfl⟩
          | ok sign =>
            dsimp only
            rw [hnames]
            exact .inr ⟨⟨text, codes, path, sign, htext, htime, hpath, ⟨isThere, hsearch⟩,
              hsign⟩, rfl, rfl⟩

theorem sign_of_stages (hcheck : signer.check .sign = .ok ())
    (hnames : signer.requireNames = .ok ()) (stages : Stages signer clock url body time) :
    (signer.sign clock url body time).result = .ok stages.signed := by
  obtain ⟨isThere, hsearch⟩ := stages.searched
  have hbody : (signer.check .sign >>= fun () => body.bodyText) = .ok stages.text := by
    rw [hcheck, stages.text_eq]
    rfl
  rw [sign, hbody]
  dsimp only
  rw [stages.codes_eq]
  dsimp only
  rw [stages.path_eq, hsearch]
  dsimp only
  rw [stages.sign_eq, hnames]
  rfl

section Signed

variable {secret base : Payload} {key : List UInt8} {n : Int} {body : Payload} {clock : Clock}

/-- A signing with strings for base and address gives what the signature gives, if time and body
can be used. -/
theorem result_of_codes? {url text : Json} {address start codes : List Nat}
    (timestampHeader signHeader : Payload) (hurl : url.codes? = some address)
    (hbase : base.codes? = some start) (htime : clock.read.1.milliseconds = .ok n)
    (hshort : Text.Decimal.isLong n = false) (hbody : body.bodyText = .ok text)
    (hcodes : text.codes? = some codes) :
    let signer : Signer := ⟨secret, base, timestampHeader, signHeader, [], []⟩
    let path := Text.eraseFirst start address
    (signer.sign clock url body .null).result =
      (fun sign => ⟨Text.Decimal.numeral n, sign, .ofPoints path, timestampHeader, signHeader⟩) <$>
        Signature.ofPoints secret (Text.points (Text.Decimal.numeral n).toList) path codes := by
  intro signer path
  have hcheck : (signer.check .sign >>= fun () => body.bodyText) = .ok text := hbody
  have htimestamp : (signer.time clock .null).1 >>= Json.shown =
      .ok (Text.points (Text.Decimal.numeral n).toList) := by
    change Json.number <$> clock.read.1.milliseconds >>= Json.shown = _
    rw [htime]
    change Json.shown (.number n) = _
    rw [Json.shown_number, Log.numeral, Text.Decimal.numeral?, hshort]
    rfl
  have hpath : signer.path url = .ok (.ofPoints path) := stripBase?_of_codes? hurl hbase
  obtain ⟨isThere, hsearch⟩ : ∃ isThere, signer.matchesBase url = .ok isThere := by
    change ∃ isThere, (if base.isEmpty then Except.ok true else findBase url base) = .ok isThere
    split
    · exact ⟨true, rfl⟩
    · exact ⟨_, findBase_of_codes? hurl hbase⟩
  have hsign : ∀ timestamp, signer.signature timestamp (.ofPoints path) text =
      Signature.ofPoints secret timestamp path codes := fun timestamp => by
    change (do
      Signature.ofPoints secret timestamp (← (Json.ofPoints path).shown) (← text.shown)) = _
    rw [Json.shown_of_codes? (Json.codes?_ofPoints _), Json.shown_of_codes? hcodes]
    rfl
  rw [sign, hcheck]
  dsimp only
  rw [htimestamp]
  dsimp only
  rw [hpath, hsearch]
  dsimp only
  rw [hsign]
  cases Signature.ofPoints secret (Text.points (Text.Decimal.numeral n).toList) path codes with
  | error fault => rfl
  | ok sign =>
    dsimp only
    rw [Text.ofPoints_points]
    rfl

theorem exists_signed_of_codes? {url text : Json} {address start codes : List Nat}
    {message : List UInt8} (timestampHeader signHeader : Payload) (hurl : url.codes? = some address)
    (hbase : base.codes? = some start) (hkey : secret.keyBytes = .ok key)
    (htime : clock.read.1.milliseconds = .ok n) (hshort : Text.Decimal.isLong n = false)
    (hbody : body.bodyText = .ok text) (hcodes : text.codes? = some codes)
    (hmessage : Text.Utf8.encodePoints (Text.points (Text.Decimal.numeral n).toList ++
      Text.eraseFirst start address ++ codes) = .ok message) :
    let signer : Signer := ⟨secret, base, timestampHeader, signHeader, [], []⟩
    (signer.sign clock url body .null).result =
      .ok ⟨Text.Decimal.numeral n, Signature.ofKey key message,
        .ofPoints (Text.eraseFirst start address), timestampHeader, signHeader⟩ := by
  intro signer
  rw [result_of_codes? timestampHeader signHeader hurl hbase htime hshort hbody hcodes,
    Signature.ofPoints_of_ok hmessage, hkey]
  rfl

/-- A signing with texts for base and address succeeds if secret, time and body can be used. -/
theorem exists_signed {text : String} (base url timestampName signName : String)
    (hkey : secret.keyBytes = .ok key) (htime : clock.read.1.milliseconds = .ok n)
    (hshort : Text.Decimal.isLong n = false) (hbody : body.bodyText = .ok (.string text)) :
    ∃ signed, ((named secret (.text base) timestampName signName).sign clock (.string url) body
        .null).result = .ok signed ∧
      signed.timestamp = Text.Decimal.numeral n ∧
      signed.sign = Signature.ofKey key
        (Signature.message (Text.Decimal.numeral n) (stripBase url base) text) := by
  have hpath : Text.eraseFirst (Text.points base.toList) (Text.points url.toList) =
      Text.points (stripBase url base).toList := by
    rw [Text.eraseFirst_points, stripBase, String.toList_ofList]
  have hmessage : Text.Utf8.encodePoints (Text.points (Text.Decimal.numeral n).toList ++
      Text.eraseFirst (Text.points base.toList) (Text.points url.toList) ++
        Text.points text.toList) =
      .ok (Signature.message (Text.Decimal.numeral n) (stripBase url base) text) := by
    rw [hpath]
    exact Signature.encodePoints_texts _ _ text
  exact ⟨_, exists_signed_of_codes? _ _ rfl rfl hkey htime hshort hbody rfl hmessage, rfl, rfl⟩

end Signed

theorem outcomesOf_warning (signer : Signer) (url : Json) :
    outcomesOf (signer.warning url) = [] := by
  rw [warning]
  split <;> rfl

theorem recordsAt_warning (signer : Signer) (url : Json) :
    recordsAt Log.errorLevel (signer.warning url) = [] := by
  rw [warning]
  split <;> rfl

theorem outcome_ne_error (signer : Signer) (url : Json) : signer.outcome url ≠ .error := by
  rw [outcome]
  split <;> decide

/-- A signing that fails counts nothing and logs no failure. -/
theorem sign_error (hnames : signer.requireNames = .ok ()) {fault : Fault}
    (h : (signer.sign clock url body time).result = .error fault) :
    outcomesOf (signer.sign clock url body time).events = [] ∧
      recordsAt Log.errorLevel (signer.sign clock url body time).events = [] := by
  rcases sign_cases hnames clock url body time with ⟨_, -, hevents⟩ | ⟨_, hresult, -⟩
  · rcases hevents with hevents | hevents
    · rw [hevents]
      exact ⟨rfl, rfl⟩
    · rw [hevents]
      exact ⟨outcomesOf_warning signer url, recordsAt_warning signer url⟩
  · rw [hresult] at h
    cases h

theorem sign_ok (hnames : signer.requireNames = .ok ()) {signed : SignedHeaders}
    (h : (signer.sign clock url body time).result = .ok signed) :
    (∃ stages : Stages signer clock url body time, signed = stages.signed) ∧
      outcomesOf (signer.sign clock url body time).events = [signer.outcome url] ∧
      recordsAt Log.errorLevel (signer.sign clock url body time).events = [] := by
  rcases sign_cases hnames clock url body time with ⟨_, hresult, -⟩ | ⟨stages, hresult, hevents⟩
  · rw [hresult] at h
    cases h
  · rw [hresult] at h
    refine ⟨⟨stages, (Except.ok.inj h).symm⟩, ?_, ?_⟩
    · rw [hevents, Stages.events, outcomesOf_append, outcomesOf_warning]
      rfl
    · rw [hevents, Stages.events, recordsAt_append, recordsAt_warning]
      rfl

end Signer

end SignedHttp
