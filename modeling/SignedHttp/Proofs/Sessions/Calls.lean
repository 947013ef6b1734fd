import SignedHttp.Proofs.Signing
import SignedHttp.Session

/-!
# What a session calls

Whatever a session is asked to do, a step calls at most one signer or one hook (`Call`), and only
such a call signs, logs a signing or counts. The calls of a run are those of its steps in their
order (`State.calls`), each at the state in which its step finds the session. A call has the events
of the signing that it comes to and those of its hook (`Signer.events_apply`,
`Session.events_passListed`).

Key definitions: `Signing`, `Session.Call`, `Session.State.call?`, `Session.State.calls`.
Key theorems: `Signer.events_apply`, `Session.events_passListed`.
-/

namespace SignedHttp

/-- What a signer is asked to sign, and the clock that it reads. -/
structure Signing where
  signer : Signer
  clock : Clock
  url : Json
  body : Payload
  time : Json

namespace Signing

def run (signing : Signing) : Run SignedHeaders :=
  signing.signer.sign signing.clock signing.url signing.body signing.time

/-- The signing that it takes to apply a signer, which may have something else in the place of
this operation. -/
def ofApply? (signer : Signer) (clock : Clock) (url : Json) (body : Payload) : Option Signing :=
  match signer.check .apply with
  | .error _ => none
  | .ok () => some ⟨signer, clock, url, body, .null⟩

theorem signer_ofApply? {signer : Signer} {clock : Clock} {url : Json} {body : Payload}
    {signing : Signing} (h : ofApply? signer clock url body = some signing) :
    signing.signer = signer := by
  rw [ofApply?] at h
  split at h
  · cases h
  · rw [← Option.some.inj h]

end Signing

theorem Signer.events_apply (signer : Signer) (clock : Clock) (headers : Option Headers)
    (url : Json) (body : Payload) :
    (signer.apply clock headers url body).1.events =
      (Signing.ofApply? signer clock url body).elim [] (·.run.events) := by
  rw [apply, Signing.ofApply?]
  cases signer.check .apply with
  | error fault => rfl
  | ok _ =>
    dsimp only
    split
    · rfl
    · split
      · rfl
      · rfl

namespace Session

/-- What a step calls: a signer, to sign or to add its fields to headers, or one of the hooks. -/
inductive Call where
  | sign (signing : Signing)
  | apply (signer : Signer) (clock : Clock) (headers : Headers) (url : Json) (body : Payload)
  | mapped (hook : Hook) (clock : Clock) (request : MappedRequest)
  | listed (hook : Hook) (clock : Clock) (request : ListedRequest) (isRead : Bool)

namespace Call

/-- The call of a hook for listed headers, which a client makes once it has read the content. -/
def ofListed? (hook : Hook) (clock : Clock) (request : ListedRequest) (isRead : Bool) :
    Option Call :=
  match if isRead then request.content.bytes else .ok [] with
  | .error _ => none
  | .ok _ => some (.listed hook clock request isRead)

def signer : Call → Signer
  | .sign signing => signing.signer
  | .apply signer _ _ _ _ => signer
  | .mapped hook _ _ => hook.signer
  | .listed hook _ _ _ => hook.signer

/-- The signing that a call comes to, unless it fails before that. -/
def signing? : Call → Option Signing
  | .sign signing => some signing
  | .apply signer clock _ url body => Signing.ofApply? signer clock url body
  | .mapped hook clock request => Signing.ofApply? hook.signer clock request.url request.body
  | .listed hook clock request isRead =>
    match Hook.contentBody request.content isRead with
    | .error _ => none
    | .ok body => some ⟨hook.signer, clock, .string request.url.text, body, .null⟩

def events : Call → List Event
  | .sign signing => signing.run.events
  | .apply signer clock headers url body =>
    (signer.apply clock (some headers) url body).1.events
  | .mapped hook clock request => (hook.attachMapped clock request).1.events
  | .listed hook clock request isRead => (hook.attachListed clock request isRead).1.events

theorem signer_of_signing? {call : Call} {signing : Signing} (h : call.signing? = some signing) :
    signing.signer = call.signer := by
  cases call with
  | sign => rw [← Option.some.inj h, signer]
  | apply => exact Signing.signer_ofApply? h
  | mapped => exact Signing.signer_ofApply? h
  | listed hook clock request isRead =>
    rw [signing?] at h
    split at h
    · cases h
    · rw [← Option.some.inj h, signer]

end Call

/-- What a hook for listed headers signs is logged and counted by the signing alone. -/
theorem events_signListed (hook : Hook) (clock : Clock) (request : ListedRequest)
    (isRead : Bool) : (hook.signListed clock request isRead).events =
      (Call.listed hook clock request isRead).signing?.elim [] (·.run.events) := by
  rw [Hook.signListed, Call.signing?]
  cases Hook.contentBody request.content isRead with
  | error fault => rfl
  | ok body => rfl

/-- A client that cannot read the content calls no hook, and nothing is logged or counted. -/
theorem events_passListed (hook : Hook) (clock : Clock) (request : ListedRequest) (isRead : Bool) :
    (hook.passListed clock request isRead).1.events =
      (Call.ofListed? hook clock request isRead).elim [] Call.events := by
  rw [Hook.passListed, Call.ofListed?]
  cases if isRead then request.content.bytes else .ok [] with
  | error fault => rfl
  | ok bytes => rfl

namespace State

variable (state : State)

def call? : Step → Option Call
  | .sign url body time =>
    state.current?.map fun (_, enrolled) =>
      .sign ⟨enrolled.signer, state.clockOf enrolled, url, body, time⟩
  | .apply url body =>
    state.current?.map fun (_, enrolled) =>
      .apply enrolled.signer (state.clockOf enrolled) state.headers url body
  | .callMapped call =>
    (state.hookAt? state.mappedHook).bind fun (_, enrolled, hook) =>
      match call.fields.mapM (Headers.ofAssignments .caseless) with
      | .error _ => none
      | .ok headers =>
        some (.mapped hook (state.clockOf enrolled) ⟨call.method, call.url, headers, call.body⟩)
  | .callListed call =>
    (state.hookAt? state.listedHook).bind fun (_, enrolled, hook) =>
      match ListedRequest.make call.method call.address call.fields call.content with
      | .error _ => none
      | .ok request => Call.ofListed? hook (state.clockOf enrolled) request call.isRead
  | _ => none

def calls : State → List Step → List Call
  | _, [] => []
  | state, step :: steps => (state.call? step).toList ++ calls (state.step step).1 steps

end State

end Session

end SignedHttp
