import Cose.Crypto.Ecdsa
import Cose.Crypto.Edwards
import Cose.Crypto.Rsa

/-!
# Primitives

Signatures and keyed hashes are the work of a library. A key uses whatever primitives there are; the
ones that are used are those defined here.

## Main definitions

* `Primitives`: what signs, verifies and tags
* `Primitives.standard`: the primitives that are used
-/

namespace Cose.Crypto

/-- **The primitives of keys**: what signs a message, and whether a signature is accepted. A primitive
that signs may refuse its input. -/
class Primitives where
  /-- The two numbers of a signature by a secret number, given additional data. -/
  signEcdsa : Curve → Hash → (d : Nat) → (message additional : Bytes) → Option (Nat × Nat)
  /-- Whether two numbers are accepted as a signature for a public point. -/
  verifyEcdsa : Curve → Hash → (x y : Nat) → (message : Bytes) → (r s : Nat) → Bool
  /-- The signature by a seed. -/
  signEddsa : Edwards → (seed message : Bytes) → Bytes
  /-- Whether a signature is accepted for a public key. -/
  verifyEddsa : Edwards → (point message signature : Bytes) → Bool
  /-- The signature by a private exponent, with a salt. -/
  signPss : Hash → (n d : Nat) → (salt message : Bytes) → Option Bytes
  /-- Whether a signature is accepted for a public exponent. -/
  verifyPss : Hash → (n e : Nat) → (message signature : Bytes) → Bool
  /-- The keyed hash of a message. -/
  hmac : Hash → (key message : Bytes) → Bytes

/-- The primitives that are used. -/
instance Primitives.standard : Primitives where
  signEcdsa curve hash d message additional := Ecdsa.sign curve hash d message additional
  verifyEcdsa := Ecdsa.verify
  signEddsa := Edwards.sign
  verifyEddsa := Edwards.verify
  signPss := Rsa.sign
  verifyPss := Rsa.verify
  hmac := Hash.hmac

end Cose.Crypto
