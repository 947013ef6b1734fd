import SignedHttp.Headers
import SignedHttp.Text.Utf8
import SignedHttp.Url

/-!
# Requests with listed headers

A request whose headers are a list of fields, which may repeat a name. Making one
brings the method into upper case and the address into normal form, and adds the
fields that describe the content and the host where they are not given: the content's
fields at the end, the host and the length of a missing content in front.

Key definitions: `Content`, `ListedRequest`, `ListedRequest.make`.
-/

namespace SignedHttp

inductive Content where
  | none
  | whole (bytes : List UInt8)
  /-- Bytes that have still to be read; their number may be known. -/
  | pending (length : Option Nat) (chunks : List (List UInt8))
  /-- Items of a kind that have still to be read and are no bytes. -/
  | unreadable (length : Option Nat) (kind : String)
  | unfit (kind : String)
  | surrogates (refusal : Text.Unencodable)
deriving DecidableEq, Repr

namespace Content

def ofPoints (s : List Nat) : Content :=
  match Text.Utf8.encodePoints s with
  | .ok bytes => .whole bytes
  | .error refusal => .surrogates refusal

def ofItems : List Json → Content
  | [] => .pending Option.none []
  | item :: _ => .unreadable Option.none item.kind

/-- The number of bytes as it is known before they are read, unless it is not, and
nothing at all for a content that is not described. -/
def knownLength? : Content → Option (Option Nat)
  | .none => Option.none
  | .whole bytes => if bytes.isEmpty then Option.none else some (some bytes.length)
  | .pending length _ => some length
  | .unreadable length _ => some length
  | .unfit _ => Option.none
  | .surrogates _ => Option.none

def check : Content → Except Fault Unit
  | .unfit kind => .error (.unfitContent kind)
  | .surrogates refusal => .error (.surrogates refusal)
  | _ => .ok ()

def bytes : Content → Except Fault (List UInt8)
  | .none => .ok []
  | .whole bytes => .ok bytes
  | .pending _ chunks => .ok chunks.flatten
  | .unreadable _ kind => .error (.unreadableContent kind)
  | .unfit kind => .error (.unfitContent kind)
  | .surrogates refusal => .error (.surrogates refusal)

def isThere : Content → Bool
  | .none => true
  | .whole _ => true
  | _ => false

end Content

/-- A name in ASCII lower case, as names of listed fields are compared. -/
def asciiLower (name : String) : String :=
  .ofList (name.toList.map Char.toLower)

def hasField (name : String) (fields : List Field) : Bool :=
  fields.any fun (key, _) => asciiLower key = name

/-- A string as it is sent, which must be ASCII. -/
def sendablePoints (s : List Nat) : Except Fault String :=
  (fun () => Text.ofPoints s) <$> (Text.Ascii.check s).mapError .notAscii

/-- A name as it is sent: a string that is ASCII, or bytes as they are. -/
def sendableName : Payload → Except Fault String
  | .bytes b => .ok (.ofList (b.map fun byte => .ofNat byte.toNat))
  | name =>
    match name.codes? with
    | some s => sendablePoints s
    | none => .error (.unsendableName name.fullKind)

def sendableValue (value : Json) : Except Fault String :=
  match value.codes? with
  | some s => sendablePoints s
  | none => .error (.unsendableValue value.kind)

/-- The fields as they are sent. The first name or value that is not fit decides the
fault. -/
def sendable : List Entry → Except Fault (List Field)
  | [] => .ok []
  | (name, value) :: rest => do
    let name ← sendableName name
    let value ← sendableValue value
    return (name, value) :: (← sendable rest)

/-- A request whose headers are a list of fields. -/
structure ListedRequest where
  method : String
  url : Url
  fields : List Field
  content : Content
deriving DecidableEq, Repr

namespace ListedRequest

/-- The field that describes the content, unless it is given. -/
def contentFields (content : Content) (given : List Field) : List Field :=
  match content.knownLength? with
  | none => []
  | some (some length) =>
    if hasField "content-length" given then [] else [("Content-Length", toString length)]
  | some none =>
    if hasField "content-length" given || hasField "transfer-encoding" given then []
    else [("Transfer-Encoding", "chunked")]

/-- Methods whose requests say that they have no content. -/
def describesNoContent (method : String) : Bool :=
  ["POST", "PUT", "PATCH"].contains method

/-- Refuses a host that a `Host` field cannot carry: a spelled name must have a readable
form, and the field must be ASCII. -/
def checkHost (url : Url) : Except Fault Unit := do
  let host := url.host.toList
  if HostName.spellingMark.isPrefixOf host then
    let _ ← (HostName.read host).mapError .unreadableHost
  (Text.Ascii.check (Text.points url.hostField.toList)).mapError .notAscii

/-- The host of the address, unless it is given or there is none. -/
def hostFields (url : Url) (given : List Field) : Except Fault (List Field) :=
  if hasField "host" given || url.host.isEmpty then .ok []
  else (fun () => [("Host", url.hostField)]) <$> checkHost url

/-- The length of a missing content, for methods that tell it. -/
def lengthFields (method : String) (fields : List Field) : List Field :=
  if describesNoContent method &&
      !(hasField "content-length" fields || hasField "transfer-encoding" fields) then
    [("Content-Length", "0")]
  else []

def upperMethod : Json → Except Fault String
  | .string method => .ok (Text.upper method)
  | .points method => .error (.surrogates method.refusal)
  | method => .error (.unfitMethod method.kind)

def parseAddress : Json → Except Fault Url
  | .string address => (Url.parse address).mapError .invalidUrl
  | .points address => .error (.surrogates address.refusal)
  | address => do throw (.unfitAddress address.kind (.ofList (← address.literal)))

def make (method address : Json) (given : List Entry) (content : Content) :
    Except Fault ListedRequest := do
  let method ← upperMethod method
  let url ← parseAddress address
  let given ← sendable given
  content.check
  let fields := given ++ contentFields content given
  let host ← hostFields url fields
  return ⟨method, url, host ++ lengthFields method fields ++ fields, content⟩

end ListedRequest

end SignedHttp
