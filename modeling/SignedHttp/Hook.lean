import SignedHttp.Request.Listed
import SignedHttp.Request.Mapped
import SignedHttp.Signer

/-!
# Hooks

A hook signs a request on its way out and adds the API key, unless that is missing or
empty. For a request with mapped headers the fields are folded into the mapping; for a
request with listed headers the list is made anew, with the names it had in lower case
and the new fields behind them.

A request that cannot be signed is logged at `ERROR`, counted as an error, and left as
it was, except that mapped headers keep the fields before one that could not be added.
The fields of a listed request, old and new, must be ASCII and have names of texts or bytes;
one that is not fit fails after the signing, and then nothing is logged or counted for it. A
client reads the content before it asks the hook, so that a content that cannot be read fails
there.

What a hook answers is the request itself, which goes on to be sent.

Key definitions: `Hook`, `Hook.newFields`, `Hook.sentFields`, `Hook.attachMapped`,
`Hook.attachListed`, `Hook.passListed`.
-/

namespace SignedHttp

structure Hook where
  signer : Signer
  apiKey : Json
deriving Repr

namespace Hook

def failureRecord (logger : String) (method url : Json) (fault : Fault) : Log.Record :=
  ⟨logger, Log.errorLevel, Text.points "Failed to sign request".toList,
    [("method", method), ("url", url), ("error", fault.message),
      ("result", .string Outcome.error.label)]⟩

def failureEvents (logger : String) (method url : Json) (fault : Fault) : List Event :=
  [.logged (failureRecord logger method url fault), .counted .error]

def successEvent (logger : String) (method : Json) (signed : SignedHeaders) : Event :=
  .logged ⟨logger, 20, Text.points "Signed request".toList,
    [("method", method), ("path", signed.path), ("timestamp", .string signed.timestamp)]⟩

variable (hook : Hook)

def keyFields : List Entry :=
  if hook.apiKey.isEmpty then [] else [(.text "api-key", hook.apiKey)]

def newFields (signed : SignedHeaders) : Except Fault (List Entry) :=
  (· ++ hook.keyFields) <$> signed.entries

/-! ### Mapped headers -/

def mappedLogger : String := "request_signer.hooks.requests_auth"

/-- Signs a request with mapped headers; what is sent, and the request afterwards. -/
def attachMapped (clock : Clock) (request : MappedRequest) :
    Run MappedRequest × MappedRequest :=
  let (run, headers) := hook.signer.apply clock request.headers request.url request.body
  match run.result with
  | .error fault =>
    let events := failureEvents mappedLogger request.method request.url fault
    (⟨.error fault, run.events ++ events, run.clock⟩, { request with headers := headers })
  | .ok signed =>
    match Headers.addAll headers hook.keyFields with
    | (headers, some fault) =>
      (⟨.error fault, run.events, run.clock⟩, { request with headers := headers })
    | (headers, none) =>
      let after := { request with headers := headers }
      (⟨.ok after, run.events ++ [successEvent mappedLogger request.method signed], run.clock⟩,
        after)

/-! ### Listed headers -/

def listedLogger : String := "request_signer.hooks.httpx_auth"

def lowerNames (fields : List Field) : List Field :=
  fields.map fun (name, value) => (asciiLower name, value)

/-- The content as a body to sign; one that has to be read must have been read. -/
def contentBody (content : Content) (isRead : Bool) : Except Fault Payload :=
  if isRead || content.isThere then .bytes <$> content.bytes else .error .unreadContent

def signListed (clock : Clock) (request : ListedRequest) (isRead : Bool) : Run SignedHeaders :=
  match contentBody request.content isRead with
  | .error fault => ⟨.error fault, [], clock⟩
  | .ok body => hook.signer.sign clock (.string request.url.text) body .null

/-- All fields of a request that is sent: those it had, with their names in lower case, and the
new ones. -/
def sentFields (fields : List Field) (signed : SignedHeaders) : Except Fault (List Field) := do
  let added ← hook.newFields signed
  sendable ((lowerNames fields).map Headers.entryOf ++ added)

/-- Signs a request with listed headers; what is sent, and the request afterwards. -/
def attachListed (clock : Clock) (request : ListedRequest) (isRead : Bool) :
    Run ListedRequest × ListedRequest :=
  let run := hook.signListed clock request isRead
  match run.result with
  | .error fault =>
    let events :=
      failureEvents listedLogger (.string request.method) (.string request.url.text) fault
    (⟨.error fault, run.events ++ events, run.clock⟩, request)
  | .ok signed =>
    match hook.sentFields request.fields signed with
    | .error fault => (⟨.error fault, run.events, run.clock⟩, request)
    | .ok fields =>
      let event := successEvent listedLogger (.string request.method) signed
      let after := { request with fields := fields }
      (⟨.ok after, run.events ++ [event], run.clock⟩, after)

/-- Passes a request with listed headers to the hook, once its content is read. A content that
cannot be read fails before the hook sees the request. -/
def passListed (clock : Clock) (request : ListedRequest) (isRead : Bool) :
    Run ListedRequest × ListedRequest :=
  match if isRead then request.content.bytes else .ok [] with
  | .error fault => (⟨.error fault, [], clock⟩, request)
  | .ok _ => hook.attachListed clock request isRead

end Hook

end SignedHttp
