import SignedHttp.Crypto.Sha256

/-!
# HMAC-SHA256

A keyed digest: the key, filled with zeros to a block, is mixed into two digests, one
inside the other. A key longer than a block is replaced by its digest.

Key definitions: `blockKey`, `hmacSha256`.
Key theorems: `length_hmacSha256`.
-/

namespace SignedHttp.Crypto

/-- The key on exactly one block of 64 bytes. -/
def blockKey (key : List UInt8) : List UInt8 :=
  let short := if 64 < key.length then Sha256.digest key else key
  short ++ List.replicate (64 - short.length) 0

/-- The 32 bytes that authenticate the message under the key. -/
def hmacSha256 (key message : List UInt8) : List UInt8 :=
  let inner := Sha256.digest ((blockKey key).map (· ^^^ 0x36) ++ message)
  Sha256.digest ((blockKey key).map (· ^^^ 0x5c) ++ inner)

theorem length_hmacSha256 (key message : List UInt8) : (hmacSha256 key message).length = 32 :=
  Sha256.length_digest _

end SignedHttp.Crypto
