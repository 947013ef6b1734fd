import SignedHttp.Clock
import SignedHttp.Headers
import SignedHttp.Signature
import SignedHttp.Telemetry
import SignedHttp.Text.Occurrence

/-!
# Signing a request

A signer holds a secret, the base address whose first occurrence is left out of what is
signed, and the names of the two fields that it makes. Signing goes through its steps
in a fixed order: the text of the body, the time, the path, the signature. The first
that fails decides the fault. An outcome is counted only once the signature is there;
the warning about an address without the base comes before it.

Addresses are strings as a rule. An empty base is taken off whatever else is given, which is
then signed as its text; any other base needs a string that it can be taken off. A string with
surrogates is looked through like any other, and fails only when it is to be signed.

A value may be put in the place of one of the signer's operations. From then on the
operation fails, and with it those that are made of it. A signer can also lose its parts,
and then it fails where it needs them.

Key definitions: `Signer`, `Signer.make`, `Signer.Operation`, `Signer.Part`, `Signer.path`,
`Signer.reaches`, `Run`, `Signer.sign`, `Signer.apply`.
-/

namespace SignedHttp

inductive Signer.Operation where
  | readTime
  | matchBase
  | sign
  | apply
deriving DecidableEq, Repr

inductive Signer.Part where
  | secret
  | base
  | clock
  | timestampHeader
  | signHeader
deriving DecidableEq, Repr

namespace Signer.Part

def all : List Signer.Part :=
  [.secret, .base, .clock, .timestampHeader, .signHeader]

def name : Signer.Part → String
  | .secret => "secret"
  | .base => "prefix"
  | .clock => "clock"
  | .timestampHeader => "timestamp_header"
  | .signHeader => "sign_header"

end Signer.Part

/-- A secret, a base address, and the names of the fields that carry a signature. -/
structure Signer where
  secret : Payload
  base : Payload
  timestampHeader : Payload := .text defaultTimestampHeader
  signHeader : Payload := .text defaultSignHeader
  /-- The operations in whose place a value stands, with its kind; the first entry counts. -/
  displaced : List (Signer.Operation × String) := []
  /-- The parts that are no longer there. -/
  lost : List Signer.Part := []
deriving Repr

/-- What an operation leaves behind: its result, the events in their order, and the
clock as it stands afterwards. -/
structure Run (α : Type) where
  result : Except Fault α
  events : List Event
  clock : Clock

def SignedHeaders.entries (h : SignedHeaders) : Except Fault (List Entry) :=
  (·.map fun (name, value) => (name, .string value)) <$> h.fields

/-- The address without the first occurrence of the base, for texts. -/
def stripBase (url base : String) : String :=
  .ofList (Text.eraseFirst base.toList url.toList)

/-- The address without the base, whatever they are. An empty base is taken off any address,
even a missing one; otherwise the address must be a string, and so must the base. -/
def stripBase? (url : Json) (base : Payload) : Except Fault Json :=
  if base.isEmpty then .ok url
  else match url.codes?, base.codes? with
    | some url, some base => .ok (.ofPoints (Text.eraseFirst base url))
    | some _, none => .error (.unusablePrefix base.fullKind)
    | none, _ => .error (.unstrippable url.kind)

/-- Whether a base that is not empty is in an address. It is in a string where it occurs in
it; among items and names it is looked for as a whole. -/
def findBase (url : Json) (base : Payload) : Except Fault Bool :=
  match url with
  | .array items => .ok (items.any fun item => base.isSame (.json item))
  | .object members =>
    if base.canBeKey then .ok (members.any fun (name, _) => base.isSame (.text name))
    else .error (.unusableKey base.kind)
  | url =>
    match url.codes?, base.codes? with
    | some url, some base => .ok (Text.occursIn base url)
    | some _, none => .error (.unfindablePrefix base.fullKind)
    | none, _ => .error (.unsearchable url.kind)

namespace Signer

def logger : String := "request_signer.signer"

def className : String := "RequestSigner"

/-- A signer with a secret that is not empty. -/
def make (secret base timestampHeader signHeader : Payload) : Except Fault Signer :=
  if secret.isEmpty then .error .missingSecret
  else .ok ⟨secret, base, timestampHeader, signHeader, [], []⟩

variable (signer : Signer)

/-- The signer with a value in the place of an operation. -/
def displace (operation : Operation) (value : Payload) : Signer :=
  { signer with displaced := (operation, value.fullKind) :: signer.displaced }

def check (operation : Operation) : Except Fault Unit :=
  match signer.displaced.lookup operation with
  | some kind => .error (.notAnOperation kind)
  | none => .ok ()

def require (part : Part) : Except Fault Unit :=
  if signer.lost.contains part then .error (.wrongPart (.lost className part.name)) else .ok ()

def path (url : Json) : Except Fault Json := do
  signer.require .base
  stripBase? url signer.base

/-- Whether the base occurs in the address. An empty base occurs in any. -/
def reaches (url : Json) : Bool :=
  signer.base.isEmpty ||
    match findBase url signer.base with
    | .ok isThere => isThere
    | .error _ => false

/-- Whether the base occurs in an address; unless the base is empty, it must be one to look
for, and the address one to look into. -/
def matchesBase (url : Json) : Except Fault Bool := do
  signer.check .matchBase
  signer.require .base
  if signer.base.isEmpty then return true else findBase url signer.base

def outcome (url : Json) : Outcome :=
  if signer.reaches url then .signed else .prefixMismatch

def mismatchRecord (url : Json) : Log.Record :=
  ⟨logger, 30, Text.points "Request URL does not contain the signing prefix".toList,
    [("url", url), ("prefix", signer.base.string),
      ("result", .string Outcome.prefixMismatch.label)]⟩

def signedRecord (url path : Json) (timestamp : String) (outcome : Outcome) : Log.Record :=
  ⟨logger, 10, Text.points "Request signed".toList,
    [("url", url), ("path", path), ("timestamp", .string timestamp),
      ("result", .string outcome.label)]⟩

/-- The warning that comes before a signature with this outcome. -/
def warning (url : Json) : List Event :=
  match signer.outcome url with
  | .prefixMismatch => [.logged (signer.mismatchRecord url)]
  | _ => []

def readTime (clock : Clock) : Except Fault Int × Clock :=
  match signer.check .readTime >>= fun () => signer.require .clock with
  | .error fault => (.error fault, clock)
  | .ok () => clock.milliseconds

/-- The time that is signed: the one given, or else the clock's. -/
def time (clock : Clock) : Json → Except Fault Json × Clock
  | .null =>
    let (time, clock) := signer.readTime clock
    (.number <$> time, clock)
  | given => (.ok given, clock)

def signature (timestamp : List Nat) (path body : Json) : Except Fault String := do
  signer.require .secret
  Signature.ofPoints signer.secret timestamp (← path.shown) (← body.shown)

def requireNames : Except Fault Unit := do
  signer.require .timestampHeader
  signer.require .signHeader

/-- Signs a request with the time given, or with the time that the clock reads. A timestamp that
could be signed is a text. -/
@[irreducible]
def sign (clock : Clock) (url : Json) (body : Payload) (time : Json) : Run SignedHeaders :=
  match signer.check .sign >>= fun () => body.bodyText with
  | .error fault => ⟨.error fault, [], clock⟩
  | .ok text =>
    let (time, clock) := signer.time clock time
    match time >>= Json.shown with
    | .error fault => ⟨.error fault, [], clock⟩
    | .ok timestamp =>
      match signer.path url, signer.matchesBase url with
      | .error fault, _ => ⟨.error fault, [], clock⟩
      | .ok _, .error fault => ⟨.error fault, [], clock⟩
      | .ok path, .ok _ =>
        match signer.signature timestamp path text with
        | .error fault => ⟨.error fault, signer.warning url, clock⟩
        | .ok sign =>
          let timestamp := Text.ofPoints timestamp
          let outcome := signer.outcome url
          ⟨(fun () => ⟨timestamp, sign, path, signer.timestampHeader, signer.signHeader⟩) <$>
              signer.requireNames,
            signer.warning url ++
              [.counted outcome, .logged (signedRecord url path timestamp outcome)],
            clock⟩

/-- Signs a request and adds the fields to its headers, which stay as they are when
signing fails, and when a field cannot be added keep those before it. -/
def apply (clock : Clock) (headers : Option Headers) (url : Json) (body : Payload) :
    Run SignedHeaders × Option Headers :=
  match signer.check .apply with
  | .error fault => (⟨.error fault, [], clock⟩, headers)
  | .ok () =>
    let run := signer.sign clock url body .null
    match run.result >>= SignedHeaders.entries with
    | .error fault => (⟨.error fault, run.events, run.clock⟩, headers)
    | .ok fields =>
      match Headers.addAll headers fields with
      | (headers, none) => (run, headers)
      | (headers, some fault) => (⟨.error fault, run.events, run.clock⟩, headers)

end Signer

end SignedHttp
