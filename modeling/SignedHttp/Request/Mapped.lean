import SignedHttp.Headers
import SignedHttp.Payload

/-!
# Requests with mapped headers

A request whose headers are a mapping, as a client prepares it: the mapping cannot
repeat a field. The headers may be missing; method and address can have any value, and null
stands for one that is missing.

Key definitions: `MappedRequest`.
-/

namespace SignedHttp

/-- A request whose headers are a mapping. -/
structure MappedRequest where
  method : Json
  url : Json
  headers : Option Headers
  body : Payload
deriving Repr

end SignedHttp
