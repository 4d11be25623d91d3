import Cose.Crypto.Edwards
import Cose.Crypto.Montgomery
import Cose.Crypto.Weierstrass
import Cose.Registry

/-!
# Keys

Asymmetric keys, private when they hold the secret part, and data that serves as a shared key.

## Main definitions

* `Key`: a key
* `Key.publicHalf`: the public half of a private key
* `Key.typeName`: the name of the type of a key in messages
* `Key.defaultAlgorithm`: the algorithm that a key is used with by default
-/

namespace Cose

/-- The schemes of keys whose public half is a byte string. Types of keys that nothing here works
with, such as those for finite fields, are told by their name, and their keys by what they are
encoded as. -/
inductive OctetScheme where
  | ed25519
  | ed448
  | x25519
  | other (name : String)
  deriving DecidableEq, Repr

/-- The public key of a seed, for the schemes that make one here. -/
def OctetScheme.publicKey : OctetScheme → Bytes → Bytes
  | .ed25519 => Crypto.ed25519.publicKey
  | .ed448 => Crypto.ed448.publicKey
  | .x25519 => Crypto.X25519.publicKey
  | .other _ => id

/-- The length of seeds and public keys, for the schemes that have one. -/
def OctetScheme.width : OctetScheme → Nat
  | .ed25519 => 32
  | .ed448 => 57
  | .x25519 => 32
  | .other _ => 0

/-- The name of a scheme. -/
def OctetScheme.name : OctetScheme → String
  | .ed25519 => "Ed25519"
  | .ed448 => "Ed448"
  | .x25519 => "X25519"
  | .other name => name

/-- Whether the keys of a scheme offer signing and verifying. -/
def OctetScheme.signs : OctetScheme → Bool
  | .ed25519 | .ed448 => true
  | .x25519 => false
  | .other name => name == "DSA"

/-- **A key.** The secret part is present in private keys only: the secret number of an elliptic
curve key, the seed of an octet key, the private exponent of an RSA key. -/
inductive Key where
  | ec (curve : Curve) (x y : Nat) (secret : Option Nat)
  | octet (scheme : OctetScheme) (point : Bytes) (seed : Option Bytes)
  | rsa (modulus exponent : Nat) (secret : Option Nat)
  | data (v : Value)

namespace Key

/-- The private elliptic curve key with the given secret number. -/
def ofSecretNumber (curve : Curve) (d : Nat) : Key :=
  let (x, y) := curve.weierstrass.publicPoint d
  .ec curve x y (some d)

/-- The private octet key with the given seed. -/
def ofSeed (scheme : OctetScheme) (seed : Bytes) : Key :=
  .octet scheme (scheme.publicKey seed) (some seed)

/-- Whether a key is private. -/
def isPrivate : Key → Bool
  | .ec _ _ _ secret => secret.isSome
  | .octet _ _ seed => seed.isSome
  | .rsa _ _ secret => secret.isSome
  | .data _ => false

/-- The public half of a private key; other keys are left as they are. -/
def publicHalf : Key → Key
  | .ec curve x y _ => .ec curve x y none
  | .octet scheme point _ => .octet scheme point none
  | .rsa n e _ => .rsa n e none
  | .data v => .data v

/-- The name of the type of a key in messages. -/
def typeName (k : Key) : String :=
  let half := if k.isPrivate then "PrivateKey" else "PublicKey"
  match k with
  | .ec .. => "EC" ++ half
  | .octet scheme .. => scheme.name ++ half
  | .rsa .. => "RSA" ++ half
  | .data v => v.typeName

/-- **The algorithm that a key is used with by default.** -/
def defaultAlgorithm : Key → Except Error String
  | .ec .p256 .. => .ok "ES256"
  | .ec .p384 .. => .ok "ES384"
  | .ec .p521 .. => .ok "ES512"
  | .ec .. => .error (.argument .unsupportedCurve)
  | .octet .ed25519 .. | .octet .ed448 .. => .ok "EdDSA"
  | .rsa .. => .ok "PS256"
  | _ => .error (.argument .unsupportedKeyType)

end Key

end Cose
