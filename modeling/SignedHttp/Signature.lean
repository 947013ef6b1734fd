import SignedHttp.Crypto.Hmac
import SignedHttp.Log.Value
import SignedHttp.Payload
import SignedHttp.Text.Base64

/-!
# Signatures

A signature is the base64 text of the keyed digest of timestamp, path and body, one
directly after the other. The body takes part as a string: no body is the empty text, and
bytes must be UTF-8. What is signed is written in UTF-8, which a string with surrogates cannot
be; this is found out before the secret is asked for its bytes. Signed headers carry the
timestamp and the signature under two field names; when both names are the same, one field is
left, with the signature. A name is a text as a rule, but it can be any value; one that may
still change names no field.

Key definitions: `Payload.bodyText`, `Payload.keyBytes`, `Signature.message`,
`Signature.ofPoints`, `Signature.ofValues`, `Signature.ofHex`, `SignedHeaders`,
`SignedHeaders.pairs`, `SignedHeaders.fields`, `SignedHeaders.checkParts`.
Key theorems: `Signature.length_ofKey`, `Signature.compute_eq`, `SignedHeaders.fields_text`.
-/

namespace SignedHttp

def Payload.bodyText : Payload → Except Fault Json
  | .absent => .ok (.string "")
  | .text s => .ok (.string s)
  | .json (.points s) => .ok (.points s)
  | .bytes b => .string <$> (Text.Utf8.decode b).mapError .malformedText
  | .buffer b => .string <$> (Text.Utf8.decode b).mapError .malformedText
  | body => .error (.unsignableBody body.kind)

def Payload.keyBytes : Payload → Except Fault (List UInt8)
  | .text s => .ok (Text.Utf8.encode s)
  | .json (.points s) => .error (.surrogates s.refusal)
  | .bytes b => .ok b
  | .foreign value => value.bytes.mapError .brokenSecret
  | secret => .error (.unusableSecret secret.fullKind)

namespace Signature

def message (timestamp path body : String) : List UInt8 :=
  Text.Utf8.encode (timestamp ++ path ++ body)

def ofKey (key message : List UInt8) : String :=
  Text.Base64.encode (Crypto.hmacSha256 key message)

theorem length_ofKey (key message : List UInt8) : (ofKey key message).length = 44 := by
  simp [ofKey, Text.Base64.encode, Text.Base64.length_encodeChars, Crypto.length_hmacSha256]

def ofPoints (secret : Payload) (timestamp path body : List Nat) : Except Fault String := do
  let message ← (Text.Utf8.encodePoints (timestamp ++ path ++ body)).mapError .surrogates
  return ofKey (← secret.keyBytes) message

section Points

variable {timestamp path body : List Nat}

theorem ofPoints_of_ok {message : List UInt8}
    (h : Text.Utf8.encodePoints (timestamp ++ path ++ body) = .ok message) (secret : Payload) :
    ofPoints secret timestamp path body = (ofKey · message) <$> secret.keyBytes := by
  rw [ofPoints, h]
  rfl

theorem ofPoints_of_error {refusal : Text.Unencodable}
    (h : Text.Utf8.encodePoints (timestamp ++ path ++ body) = .error refusal) (secret : Payload) :
    ofPoints secret timestamp path body = .error (.surrogates refusal) := by
  rw [ofPoints, h]
  rfl

end Points

/-- The signature of values, which are signed as their strings. -/
def ofValues (secret : Payload) (timestamp path body : Json) : Except Fault String := do
  ofPoints secret (← timestamp.shown) (← path.shown) (← body.shown)

def compute (secret : Payload) (timestamp path body : String) : Except Fault String :=
  ofValues secret (.string timestamp) (.string path) (.string body)

theorem encodePoints_texts (timestamp path body : String) :
    Text.Utf8.encodePoints (Text.points timestamp.toList ++ Text.points path.toList ++
      Text.points body.toList) = .ok (message timestamp path body) := by
  rw [← Text.points_append, ← Text.points_append, Text.Utf8.encodePoints_points]
  rfl

theorem compute_eq (secret : Payload) (timestamp path body : String) :
    compute secret timestamp path body =
      (fun key => ofKey key (message timestamp path body)) <$> secret.keyBytes :=
  ofPoints_of_ok (encodePoints_texts timestamp path body) secret

def ofHex (s : String) : Except Fault String :=
  match Text.Hex.decode s with
  | .ok bytes => .ok (Text.Base64.encode bytes)
  | .error position => .error (.notHex position)

/-- The base64 text of the bytes that a value denotes, which must be a string. The first
character outside ASCII is refused, wherever it stands. -/
def ofDigits : Json → Except Fault String
  | .string s => ofHex s
  | .points s => .error (.notHex (s.codes.findIdx (!Text.Ascii.hasByte ·)))
  | value => .error (.noDigits value.kind)

end Signature

def defaultTimestampHeader : String := "timestamp"

def defaultSignHeader : String := "sign"

/-- What signing a request gives, where timestamp and signature are texts, and the path is one
if the address was. Made by hand, signed headers can hold other values. -/
structure SignedHeaders (Value : Type := String) where
  timestamp : Value
  sign : Value
  path : Json
  timestampHeader : Payload := .text defaultTimestampHeader
  signHeader : Payload := .text defaultSignHeader
deriving Repr

namespace SignedHeaders

variable {Value : Type} (h : SignedHeaders Value)

def pairs : List (Payload × Value) :=
  if h.timestampHeader.isSame h.signHeader then [(h.timestampHeader, h.sign)]
  else [(h.timestampHeader, h.timestamp), (h.signHeader, h.sign)]

/-- The fields to add to a request, if both can have the names that they are to have. -/
def fields : Except Fault (List (Payload × Value)) :=
  if !h.timestampHeader.canBeKey then .error (.unusableKey h.timestampHeader.kind)
  else if !h.signHeader.canBeKey then .error (.unusableKey h.signHeader.kind)
  else .ok h.pairs

theorem fields_text (timestamp sign : Value) (path : Json) (name₁ name₂ : String) :
    fields ⟨timestamp, sign, path, .text name₁, .text name₂⟩ =
      .ok (pairs ⟨timestamp, sign, path, .text name₁, .text name₂⟩) :=
  rfl

/-- Signed headers do not change: assigning to one of their parts, or to anything else of
theirs, fails. -/
def assign : Json → Except Fault Unit
  | .string name => .error (.frozenField (Text.points name.toList))
  | .points name => .error (.frozenField name.codes)
  | name => .error (.wrongPart (.nameNotText name.kind))

/-- Whether signed headers of any values are equal, part by part. -/
def isSame (a b : SignedHeaders Json) : Bool :=
  a.timestamp.isSame b.timestamp && a.sign.isSame b.sign && a.path.isSame b.path &&
    a.timestampHeader.isSame b.timestampHeader && a.signHeader.isSame b.signHeader

/-! ### Signed headers made of named parts -/

def requiredParts : List String :=
  ["timestamp", "sign", "path"]

/-- The parts that have a value even if none is given. -/
def optionalParts : List String :=
  ["timestamp_header", "sign_header"]

/-- The name by which signed headers refer to themselves. -/
def ownName : String := "self"

/-- Refuses names of which signed headers have no part, and then sets of parts that lack a
required one. -/
def checkParts (names : List String) : Except Fault Unit :=
  let known := requiredParts ++ optionalParts
  match names.find? (!known.contains ·) with
  | some name => .error (if name = ownName then .takenPart name else .unknownPart name)
  | none =>
    match requiredParts.filter (!names.contains ·) with
    | [] => .ok ()
    | missing => .error (.missingParts missing)

end SignedHeaders

end SignedHttp
