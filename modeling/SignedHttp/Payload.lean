import SignedHttp.Json
import SignedHttp.Text.Utf8

/-!
# Values a caller hands over

A secret, a base address or a request body comes as whatever the caller has: a JSON value,
bytes, or a value of another kind. Only strings and bytes can be signed, and only a string can be
a base; the other kinds are told apart because a refusal names them and because some of them count
as empty. A secret can be a value of a foreign kind too, if that says what its bytes are.

The name of a field can be any value too. As a key of a mapping it must be of a kind that
never changes, and names that are compared by their lower case must have letters.

Key definitions: `Payload`, `Payload.kind`, `Payload.fullKind`, `Payload.codes?`,
`Payload.isEmpty`, `Payload.canBeKey`, `Payload.isSame`.
-/

namespace SignedHttp

/-- A value of a kind that the caller has made. -/
structure ForeignValue where
  kind : String
  isEmpty : Bool
  /-- What it says are its bytes, or the words in which it fails to say so. -/
  bytes : Except (List Nat) (List UInt8)
deriving Repr

/-- A value given as a secret, a base address or a body. -/
inductive Payload where
  | json (value : Json)
  | bytes (b : List UInt8)
  /-- Bytes in a buffer that its owner may still change. -/
  | buffer (b : List UInt8)
  /-- Chunks of bytes that are still to be produced. -/
  | stream (chunks : List (List UInt8))
  /-- A value of another kind, which is known by the kind's name only. -/
  | other (kind : String)
  | foreign (value : ForeignValue)
deriving Repr

namespace Payload

@[match_pattern] abbrev absent : Payload := .json .null

@[match_pattern] abbrev text (s : String) : Payload := .json (.string s)

def kind : Payload → String
  | .json value => value.kind
  | .bytes _ => "bytes"
  | .buffer _ => "bytearray"
  | .stream _ => "generator"
  | .other name => name
  | .foreign value => value.kind

/-- The kinds that are files in memory. -/
def fileKinds : List String :=
  ["BytesIO", "StringIO"]

/-- The name of the value's kind with that of its family, which files have. -/
def fullKind (payload : Payload) : String :=
  if fileKinds.contains payload.kind then "_io." ++ payload.kind else payload.kind

def codes? : Payload → Option (List Nat)
  | .json value => value.codes?
  | _ => none

/-- A string as a value, and null for everything else. -/
def string : Payload → Json
  | .text s => .string s
  | .json (.points s) => .points s
  | _ => .null

/-- The other kinds whose value holds items; the value at hand has none. -/
def emptyKinds : List String :=
  ["tuple", "set"]

def isEmpty : Payload → Bool
  | .json value => value.isEmpty
  | .bytes b => b.isEmpty
  | .buffer b => b.isEmpty
  | .stream _ => false
  | .other name => emptyKinds.contains name
  | .foreign value => value.isEmpty

/-- The other kinds whose value may still change. -/
def changingKinds : List String :=
  ["set"]

def canBeKey : Payload → Bool
  | .json value => value.canBeKey
  | .buffer _ => false
  | .other name => !changingKinds.contains name
  | _ => true

/-- The other kinds whose values are never equal to one another. -/
def singularKinds : List String :=
  ["object", "generator"] ++ fileKinds

/-- The kind of a window onto bytes. -/
def windowKind : String := "memoryview"

def windowBytes : List UInt8 := [0x61, 0x62, 0x63]

def visibleBytes? : Payload → Option (List UInt8)
  | .bytes b => some b
  | .buffer b => some b
  | .other name => if name = windowKind then some windowBytes else none
  | _ => none

def isSame : Payload → Payload → Bool
  | .json a, .json b => a.isSame b
  | .other a, .other b => a = b && !singularKinds.contains a
  | a, b => a.visibleBytes?.isSome && a.visibleBytes? = b.visibleBytes?

end Payload

end SignedHttp
