import SignedHttp.Session.State

/-!
# Steps of a session

What a session is asked to do, and what it answers. A step that fails answers the
fault; where a header mapping was at stake, it answers that too, as it stands
afterwards.

Key definitions: `Part`, `Enrolled.set`, `Enrolled.rebuild`, `Step`, `Reply`.
-/

namespace SignedHttp.Session

/-- What a change to the current signer puts a value in the place of. -/
inductive Part where
  | made (part : Signer.Part)
  | operation (operation : Signer.Operation)
  /-- A part that signing does not look at. -/
  | other (name : String)
deriving DecidableEq, Repr

namespace Part

/-- The parts that signing looks at. -/
def known : List Part :=
  Signer.Part.all.map .made ++
    [.operation .readTime, .operation .matchBase, .operation .sign, .operation .apply]

def name : Part → String
  | .made part => part.name
  | .operation .readTime => "now_ms"
  | .operation .matchBase => "prefix_matches"
  | .operation .sign => "sign"
  | .operation .apply => "apply"
  | .other name => name

def ofName (name : String) : Part :=
  (known.find? (·.name = name)).getD (.other name)

end Part

namespace Enrolled

def regain (enrolled : Enrolled) (part : Signer.Part) : Enrolled :=
  { enrolled with
    signer := { enrolled.signer with lost := enrolled.signer.lost.filter (· != part) } }

def setClock (enrolled : Enrolled) (clock : Clock) : Enrolled :=
  { enrolled.regain .clock with time := .own clock }

/-- The signer with a value in the place of what it is made of. No value is refused: only a
new signer must have a secret that is not empty. -/
def make (enrolled : Enrolled) (value : Payload) (part : Signer.Part) : Enrolled :=
  let enrolled := enrolled.regain part
  let signer := enrolled.signer
  match part with
  | .secret => { enrolled with signer := { signer with secret := value } }
  | .base => { enrolled with signer := { signer with base := value } }
  | .timestampHeader => { enrolled with signer := { signer with timestampHeader := value } }
  | .signHeader => { enrolled with signer := { signer with signHeader := value } }
  | .clock => enrolled.setClock (.always (.failed (.notAnOperation value.fullKind)))

def set (enrolled : Enrolled) (value : Payload) : Part → Enrolled
  | .made part => enrolled.make value part
  | .operation action => { enrolled with signer := enrolled.signer.displace action value }
  | .other _ => enrolled

def rebuild (enrolled : Enrolled) (members : List (String × Json)) : Enrolled :=
  let bare := { enrolled.signer with displaced := [], lost := Signer.Part.all }
  members.foldl (fun enrolled (name, value) => enrolled.set (.json value) (.ofName name))
    { enrolled with signer := bare }

end Enrolled

/-- Whose signer a new hook uses, and its API key. A key that is given wins over that of
the settings, even when it is empty. -/
structure HookRequest where
  useCurrent : Bool
  apiKey : Json
deriving Repr

/-- A request with mapped headers, which may be missing. -/
structure MappedCall where
  method : Json
  url : Json
  fields : Option (List Entry)
  body : Payload
deriving Repr

/-- A request with listed headers, and whether its content is read before signing. -/
structure ListedCall where
  method : Json
  address : Json
  fields : List Entry
  content : Content
  isRead : Bool
deriving Repr

inductive Step where
  | makeSigner (secret base timestampHeader signHeader : Payload) (clock : Clock)
  /-- A signer from the session's settings, or from settings made of arguments alone. -/
  | signerFromSettings (arguments : Option (List (Json × Json))) (clock : Clock)
  | change (name : Json) (value : Payload)
  | setClock (clock : Clock)
  | setSetting (name value : Json)
  | setInstant (instant : Int)
  | sign (url : Json) (body : Payload) (time : Json)
  | setHeaders (rule : NameRule) (items : List Entry)
  | append (name : Payload) (value : Json)
  | apply (url : Json) (body : Payload)
  | readTime
  | matchBase (url : Json)
  | configure (level : Payload)
  | showLevels
  | log (draft : Log.Draft)
  | showMetrics
  | makeMappedHook (request : HookRequest)
  | callMapped (call : MappedCall)
  | makeListedHook (request : HookRequest)
  | callListed (call : ListedCall)

inductive Reply where
  | done
  | failed (fault : Fault)
  /-- A failure, and the headers as they stand afterwards. -/
  | failedWith (fault : Fault) (headers : Option Headers)
  | signer (signer : Signer)
  | settings (settings : Settings) (hasSecret : Bool)
  | signed (headers : SignedHeaders)
  | headers (headers : Headers)
  | applied (signed : SignedHeaders) (headers : Headers)
  | time (milliseconds : String)
  | matched (doesMatch : Bool)
  | levels (levels : Log.Levels)
  | metrics (lines : List String)
  | hook (apiKey : Json) (levels : Log.Levels)
  | mapped (headers : Option Headers)
  | listed (url : String) (fields : List Field)

end SignedHttp.Session
