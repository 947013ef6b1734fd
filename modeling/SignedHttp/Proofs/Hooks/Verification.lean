import SignedHttp.Proofs.Hooks.Agreement

/-!
# What a server finds

A server that knows the key, the path and the body takes a request as signed if it finds one
timestamp and one signature, and the signature is the base64 text of the keyed digest of the
bytes of the three (`Verifies`). What a hook adds is verified, if the address is the base with
the path behind it and the names of the fields are not taken (`FreeNames`): for mapped headers
(`Hook.attachMapped_verifies`), for listed ones (`Hook.attachListed_verifies`), and so for both
(`Hook.attach_verifies`). The levels of the log have no part in this, for a hook only hands out
its records.

Key definitions: `Verifies`, `Hook.FreeNames`.
Key theorems: `Signature.decode?_ofKey`, `Hook.attach_verifies`.
-/

namespace SignedHttp

/-- Whether fields carry one timestamp and one signature, and the signature is that of timestamp,
path and body. -/
def Verifies (key : List UInt8) (timestampName signName path : String) (body : List UInt8)
    (fields : List Field) : Prop :=
  ∃ timestamp sign, Headers.valuesOf timestampName fields = [timestamp] ∧
    Headers.valuesOf signName fields = [sign] ∧
    Text.Base64.decode? sign = some (Crypto.hmacSha256 key
      (Text.Utf8.encode timestamp ++ Text.Utf8.encode path ++ body))

theorem stripBase_append (base path : String) : stripBase (base ++ path) base = path := by
  rw [stripBase, String.toList_append, Text.eraseFirst_append, String.ofList_toList]

/-- A signature decodes to the digest of the bytes of timestamp, path and body: reading the body as
a text and encoding it again gives its bytes. -/
theorem Signature.decode?_ofKey {body : List UInt8} {text : String}
    (h : Text.Utf8.decode body = .ok text) (key : List UInt8) (timestamp path : String) :
    Text.Base64.decode? (ofKey key (message timestamp path text)) =
      some (Crypto.hmacSha256 key
        (Text.Utf8.encode timestamp ++ Text.Utf8.encode path ++ body)) := by
  rw [ofKey, Text.Base64.decode?_encode, message, Text.Utf8.encode_append,
    Text.Utf8.encode_append, Text.Utf8.encode_of_decode h]

theorem Payload.bodyText_of_decode {body : Payload} {b : List UInt8} {text : String}
    (hbody : body.bytes? = some b) (h : Text.Utf8.decode b = .ok text) :
    body.bodyText = .ok (.string text) := by
  rw [bodyText_of_bytes? hbody, bodyText, h]
  rfl

namespace Hook

/-- Whether the names of a timestamp and a signature are free: no field has them, and they differ
from one another and from that of a key. -/
structure FreeNames (timestampName signName : String) (fields : List Field) : Prop where
  timestamp : Headers.valuesOf timestampName fields = []
  sign : Headers.valuesOf signName fields = []
  notSame : Text.sameName timestampName signName = false
  timestampNotKey : Text.sameName "api-key" timestampName = false
  signNotKey : Text.sameName "api-key" signName = false

theorem valuesOf_keyTextFields {name : String} (h : Text.sameName "api-key" name = false)
    (key : Option String) : Headers.valuesOf name (keyTextFields key) = [] := by
  cases key with
  | none => rfl
  | some text =>
    rw [keyTextFields]
    split
    · rfl
    · rw [Headers.valuesOf_cons_of_ne h]
      rfl

theorem valuesOf_addedFields {timestampName signName : String} {fields : List Field}
    (h : FreeNames timestampName signName fields) (key : Option String) (signed : SignedHeaders) :
    Headers.valuesOf timestampName (addedFields timestampName signName key signed) =
        [signed.timestamp] ∧
      Headers.valuesOf signName (addedFields timestampName signName key signed) =
        [signed.sign] := by
  obtain ⟨htimestamp, hsign⟩ := SignedHeaders.valuesOf_textFields h.notSame signed
  rw [addedFields, Headers.valuesOf_append, Headers.valuesOf_append,
    valuesOf_keyTextFields h.timestampNotKey, valuesOf_keyTextFields h.signNotKey, htimestamp,
    hsign]
  exact ⟨rfl, rfl⟩

theorem valuesOf_foldAll_of_free {name value : String} {fields added : List Field}
    (hfree : Headers.valuesOf name fields = []) (hadded : Headers.valuesOf name added = [value]) :
    Headers.valuesOf name (Headers.foldAll added fields) = [value] := by
  rw [Headers.valuesOf_foldAll name added fields [] hfree, hadded, List.nil_append,
    Headers.joined_singleton]

/-- ASCII names in lower case are the same names. -/
theorem valuesOf_lowerNames (name : String) : ∀ {fields : List Field},
    (∀ field ∈ fields, isSendable field = true) →
      Headers.valuesOf name (lowerNames fields) = Headers.valuesOf name fields
  | [], _ => rfl
  | (key, value) :: fields, h => by
    obtain ⟨hfield, hfields⟩ := List.forall_mem_cons.mp h
    obtain ⟨hkey, -⟩ := Bool.and_eq_true_iff.mp hfield
    have hlower : Text.sameName (asciiLower key) name = Text.sameName key name := by
      rw [Text.sameName, Text.sameName, Text.Ascii.lower_asciiLower hkey]
    change Headers.valuesOf name ((asciiLower key, value) :: lowerNames fields) = _
    cases hname : Text.sameName key name with
    | true =>
      rw [Headers.valuesOf_cons_of_same (hlower.trans hname), Headers.valuesOf_cons_of_same hname,
        valuesOf_lowerNames name hfields]
    | false =>
      rw [Headers.valuesOf_cons_of_ne (hlower.trans hname), Headers.valuesOf_cons_of_ne hname,
        valuesOf_lowerNames name hfields]

section

variable {secret : Payload} {secretBytes : List UInt8} {clock : Clock} {n : Int} {body : Payload}
  {b : List UInt8} {text : String}

theorem verifies_of_signed {signed : SignedHeaders} {base path timestampName signName : String}
    {sent : List Field} (hvalid : Text.Utf8.decode b = .ok text)
    (htimestamp : signed.timestamp = Text.Decimal.numeral n)
    (hsign : signed.sign = Signature.ofKey secretBytes (Signature.message (Text.Decimal.numeral n)
      (stripBase (base ++ path) base) text))
    (hsent : Headers.valuesOf timestampName sent = [signed.timestamp] ∧
      Headers.valuesOf signName sent = [signed.sign]) :
    Verifies secretBytes timestampName signName path b sent := by
  refine ⟨signed.timestamp, signed.sign, hsent.1, hsent.2, ?_⟩
  rw [htimestamp, hsign, stripBase_append, Signature.decode?_ofKey hvalid]

theorem attachMapped_verifies (base path timestampName signName : String) (key : Option String)
    (method : Json) (fields : List Field) (hsecret : secret.keyBytes = .ok secretBytes)
    (htime : clock.read.1.milliseconds = .ok n) (hshort : Text.Decimal.isLong n = false)
    (hbody : body.bytes? = some b) (hvalid : Text.Utf8.decode b = .ok text) :
    ∃ sent, ((named secret (.text base) timestampName signName key).attachMapped clock
        ⟨method, .string (base ++ path), some (.named .caseless fields), body⟩).1.result =
          .ok ⟨method, .string (base ++ path), some (.named .caseless sent), body⟩ ∧
      (FreeNames timestampName signName fields →
        Verifies secretBytes timestampName signName path b sent) := by
  obtain ⟨signed, hsigned, htimestamp, hsign⟩ := Signer.exists_signed base (base ++ path)
    timestampName signName hsecret htime hshort (Payload.bodyText_of_decode hbody hvalid)
  refine ⟨_, congrArg (·.1.result) (attachMapped_of_ok key method .caseless fields hsigned),
    fun hfree => ?_⟩
  obtain ⟨hadded, haddedSign⟩ := valuesOf_addedFields hfree key signed
  refine verifies_of_signed hvalid htimestamp hsign ⟨?_, ?_⟩
  · exact valuesOf_foldAll_of_free hfree.timestamp hadded
  · exact valuesOf_foldAll_of_free hfree.sign haddedSign

theorem attachListed_verifies {base path timestampName signName : String} {key : Option String}
    {request : ListedRequest} {isRead : Bool} (hsecret : secret.keyBytes = .ok secretBytes)
    (htime : clock.read.1.milliseconds = .ok n) (hshort : Text.Decimal.isLong n = false)
    (hvalid : Text.Utf8.decode b = .ok text) (hurl : request.url.text = base ++ path)
    (hcontent : contentBody request.content isRead = .ok (.bytes b))
    (hascii : CanSend timestampName signName key request.fields) :
    ∃ sent, ((named secret (.text base) timestampName signName key).attachListed clock request
        isRead).1.result = .ok { request with fields := sent } ∧
      (FreeNames timestampName signName request.fields →
        Verifies secretBytes timestampName signName path b sent) := by
  have hbody : (Payload.bytes b).bytes? = some b := rfl
  obtain ⟨signed, hsigned, htimestamp, hsign⟩ := Signer.exists_signed base request.url.text
    timestampName signName hsecret htime hshort (Payload.bodyText_of_decode hbody hvalid)
  have hlisted : ((named secret (.text base) timestampName signName key).signListed clock request
      isRead).result = .ok signed := by
    rw [signListed_of_contentBody clock hcontent]
    exact hsigned
  obtain ⟨⟨htimestampText, hsignText⟩, -⟩ :=
    signListed_ok (Signer.requireNames_named _ _ _ _) hlisted
  have hfields := (canSend_iff timestampName signName key request.fields htimestampText
    hsignText).mpr hascii
  refine ⟨_, congrArg (·.1.result) (attachListed_of_ok hlisted hfields),
    fun hfree => ?_⟩
  obtain ⟨hadded, haddedSign⟩ := valuesOf_addedFields hfree key signed
  rw [hurl] at hsign
  refine verifies_of_signed hvalid htimestamp hsign ⟨?_, ?_⟩
  · rw [Headers.valuesOf_append, valuesOf_lowerNames _ hascii.fields, hfree.timestamp, hadded,
      List.nil_append]
  · rw [Headers.valuesOf_append, valuesOf_lowerNames _ hascii.fields, hfree.sign, haddedSign,
      List.nil_append]

end

/-- Both hooks succeed if secret, time and body can be used and what is listed is ASCII; and what
they add is verified, if the address is the base with the path behind it and the names of the
fields are free. -/
theorem attach_verifies {secret : Payload} {secretBytes : List UInt8} {clock : Clock} {n : Int}
    {body : Payload} {b : List UInt8} {text : String} (base path timestampName signName : String)
    (key : Option String) (hsecret : secret.keyBytes = .ok secretBytes)
    (htime : clock.read.1.milliseconds = .ok n) (hshort : Text.Decimal.isLong n = false)
    (hbody : body.bytes? = some b) (hvalid : Text.Utf8.decode b = .ok text) :
    let hook := named secret (.text base) timestampName signName key
    (∀ (method : Json) (fields : List Field), ∃ sent,
      (hook.attachMapped clock
          ⟨method, .string (base ++ path), some (.named .caseless fields), body⟩).1.result =
        .ok ⟨method, .string (base ++ path), some (.named .caseless sent), body⟩ ∧
      (FreeNames timestampName signName fields →
        Verifies secretBytes timestampName signName path b sent)) ∧
    ∀ (request : ListedRequest) (isRead : Bool), request.url.text = base ++ path →
      contentBody request.content isRead = .ok (.bytes b) →
      CanSend timestampName signName key request.fields → ∃ sent,
        (hook.attachListed clock request isRead).1.result = .ok { request with fields := sent } ∧
        (FreeNames timestampName signName request.fields →
          Verifies secretBytes timestampName signName path b sent) := by
  intro hook
  refine ⟨fun method fields => ?_, fun request isRead hurl hcontent hascii => ?_⟩
  · exact attachMapped_verifies base path timestampName signName key method fields hsecret htime
      hshort hbody hvalid
  · exact attachListed_verifies hsecret htime hshort hvalid hurl hcontent hascii

/-- A request to a path below the base, with a content and a key. -/
theorem attach_verifies_ping :
    let url : Url := ⟨"http", "", "host", none, "/ping", none, none⟩
    let fields : List Field := [("Accept", "*/*")]
    let request : ListedRequest := ⟨"POST", url, fields, .whole [0x78]⟩
    let hook := named (.text "secret") (.text "http://host") "timestamp" "sign" (some "key")
    let clock := Clock.always (.seconds 1)
    (∃ sent, (hook.attachMapped clock ⟨.string "POST", .string "http://host/ping",
          some (.named .caseless fields), .text "x"⟩).1.result =
        .ok ⟨.string "POST", .string "http://host/ping", some (.named .caseless sent), .text "x"⟩ ∧
      Verifies (Text.Utf8.encode "secret") "timestamp" "sign" "/ping" [0x78] sent) ∧
    ∃ sent, (hook.attachListed clock request false).1.result =
        .ok { request with fields := sent } ∧
      Verifies (Text.Utf8.encode "secret") "timestamp" "sign" "/ping" [0x78] sent := by
  intro url fields request hook clock
  have hnames : ∀ a ∈ ["Accept", "timestamp", "sign", "api-key"], Text.lower a = asciiLower a := by
    intro a ha
    refine Text.Ascii.lower_eq_asciiLower ?_
    revert a
    decide
  have hfree : FreeNames "timestamp" "sign" fields := by
    constructor <;> simp [Headers.valuesOf, fields, Text.sameName, hnames] <;> decide
  have hascii : CanSend "timestamp" "sign" (some "key") request.fields :=
    ⟨by decide, by decide, by decide, fun text h => by cases h; decide⟩
  have hsecret : (Payload.text "secret").keyBytes = .ok (Text.Utf8.encode "secret") := rfl
  have htime : clock.read.1.milliseconds = .ok 1000 := rfl
  have hbody : (Payload.text "x").bytes? = some [0x78] := by decide
  obtain ⟨hmapped, hlisted⟩ := attach_verifies "http://host" "/ping" "timestamp" "sign"
    (some "key") hsecret htime (by decide) hbody (Text.Utf8.decode_encode "x")
  obtain ⟨sent, hresult, hverifies⟩ := hmapped (.string "POST") fields
  obtain ⟨sentListed, hresultListed, hverifiesListed⟩ :=
    hlisted request false (by decide) rfl hascii
  exact ⟨⟨sent, hresult, hverifies hfree⟩, sentListed, hresultListed, hverifiesListed hfree⟩

end Hook

end SignedHttp
