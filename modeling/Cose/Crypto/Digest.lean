import Cose.Algorithm
import Cose.Crypto.Sha1
import Cose.Crypto.Sha256
import Cose.Crypto.Sha512

/-!
# Digests and message authentication codes

The hash functions that algorithms name, and the keyed hash built on each of them.

## Main definitions

* `Hash.digest`: the digest of a message
* `Hash.hmac`: the keyed hash of a message
-/

namespace Cose.Hash

/-- **The digest of a message.** -/
def digest : Hash → Bytes → Bytes
  | .sha1 => Crypto.Sha1.digest
  | .sha256 => Crypto.Sha256.digest
  | .sha384 => Crypto.Sha512.digest384
  | .sha512 => Crypto.Sha512.digest512

/-- The key of a keyed hash, filled up with zeros to a block; a longer key is hashed first. -/
def blockKey (h : Hash) (key : Bytes) : Bytes :=
  let short := if h.blockSize < key.length then h.digest key else key
  short ++ List.replicate (h.blockSize - short.length) 0

/-- **The keyed hash of a message.** -/
def hmac (h : Hash) (key message : Bytes) : Bytes :=
  let k := h.blockKey key
  let inner := h.digest (k.map (· ^^^ 0x36) ++ message)
  h.digest (k.map (· ^^^ 0x5c) ++ inner)

end Cose.Hash
