import Cose.Credential.Basic
import Cose.Crypto.Primitives
import Cose.Message.Agent

/-!
# What credentials do

Signing, verifying, tagging and authenticating with a credential. Where a primitive refuses its
input while signing, signing fails; a signature that does not verify is a refusal; an operation
that the role or the key lacks is an error of its own.

## Main definitions

* `Credential.sign`, `Credential.verify`: signatures
* `Credential.createTag`, `Credential.authenticateTag`: tags
* `Credential.agent`: the agent that works with a credential
-/

namespace Cose.Credential

/-- The error for an operation that is not offered. -/
def absent : Error := .fault .attribute

/-- The error of signing when the primitive refuses its input. -/
def refused (c : Credential) : Error := .signing (.primitive c.algorithm.name)

/-- The error of checking when the signature is not valid. -/
def mismatched (c : Credential) : Error :=
  .verification (.mismatch c.algorithm.name (some .invalidSignature))

/-- Whether a key is one that signs. -/
def canSign : Key → Bool
  | .ec _ _ _ secret => secret.isSome
  | .octet scheme _ seed => scheme.signs && seed.isSome
  | .rsa _ _ secret => secret.isSome
  | .data _ => false

/-- Whether a key is one that verifies. -/
def canVerify : Key → Bool
  | .ec _ _ _ secret => secret.isNone
  | .octet scheme _ seed => scheme.signs && seed.isNone
  | .rsa _ _ secret => secret.isNone
  | .data _ => false

/-- What a primitive made, or the error that it refused its input. -/
def orRefused (c : Credential) : Option Bytes → Except Error Bytes
  | some b => .ok b
  | none => .error c.refused

/-- Accepts a signature or refuses it. -/
def orMismatched (c : Credential) (valid : Bool) : Except Error Unit :=
  if valid then .ok () else .error c.mismatched

/-- The bytes that a check is about; what is no byte string or buffer is refused. -/
def requireBytes (v : Value) : Except Error Bytes :=
  match v.bytes? with
  | some b => .ok b
  | none => .error (.fault .type)

/-- The two numbers of an ECDSA signature of the width of the algorithm; an absent signature has
length zero. -/
def splitSignature (c : Credential) (size : Nat) (signature : Value) :
    Except Error (Nat × Nat) := do
  let actual ← match signature with
    | .null => pure 0
    | v => match v.length? with
      | some n => pure n
      | none => throw (.fault .type)
  if actual = 2 * size then
    match signature with
    | .bytes _ | .buffer _ | .list _ | .tuple _ =>
      return Crypto.Ecdsa.ofRaw size (← signature.octets)
    | _ => throw (.fault .type)
  else throw (.verification (.length c.algorithm.name actual (2 * size)))

section Primitives

variable [Crypto.Primitives]

/-- Signs with ECDSA: both numbers of the signature at the width of the algorithm. -/
def signEcdsa (c : Credential) (data : Value) : Except Error Bytes := do
  let size ← c.algorithm.knownSize
  if !canSign c.key then throw absent
  let hash ← match c.algorithm.hash with
    | some h => pure h
    | none => throw (.signing (.noHash c.algorithm.name))
  match c.key, data.bytes? with
  | .ec curve _ _ (some d), some data =>
    match Crypto.Primitives.signEcdsa curve hash d data (c.entropy.getD []) with
    | none => throw c.refused
    | some signature =>
      match Crypto.Ecdsa.toRaw size signature with
      | some raw => return raw
      | none => throw (.fault .overflow)
  | _, _ => throw c.refused

/-- Signs with EdDSA. -/
def signEddsa (c : Credential) (data : Value) : Except Error Bytes := do
  if !canSign c.key then throw absent
  match c.key, data.bytes? with
  | .octet .ed25519 _ (some seed), some data =>
    return Crypto.Primitives.signEddsa Crypto.ed25519 seed data
  | .octet .ed448 _ (some seed), some data =>
    return Crypto.Primitives.signEddsa Crypto.ed448 seed data
  | _, _ => throw c.refused

/-- Signs with RSASSA-PSS, with a salt as long as a digest. -/
def signPss (c : Credential) (data : Value) : Except Error Bytes := do
  let hash ← c.algorithm.newHash
  if !canSign c.key then throw absent
  match c.key, data.bytes? with
  | .rsa n _ (some d), some data =>
    let salt := hash.hmac (c.entropy.getD []) data
    c.orRefused (Crypto.Primitives.signPss hash n d salt data)
  | _, _ => throw c.refused

/-- The tag of content under a shared key. -/
def tag (c : Credential) (content : Value) : Except Error Bytes := do
  let hash ← c.algorithm.newHash
  match c.key with
  | .data (.bytes key) => return Crypto.Primitives.hmac hash key (← content.octetsOrNone)
  | _ => throw (.fault .type)

/-- **The tag of content**, made by an authenticator. -/
def createTag (c : Credential) (content : Value) : Except Error Bytes :=
  match c.role with
  | .authenticator =>
    match c.tag content with
    | .error (.unknownAlgorithm _) => .error (.signing (.noHash c.algorithm.name))
    | .error (.fault .value) => .error c.refused
    | r => r
  | _ => .error absent

/-- **Checks the tag of content.** Every mismatch is the same refusal. -/
def authenticateTag (c : Credential) (content claimed : Value) : Except Error Unit :=
  match c.role with
  | .authenticator => do
    let expected ← c.tag content
    let claimed ← claimed.octetsOrNone
    if claimed = expected then return () else throw (.verification (.authentication none))
  | _ => .error absent

/-- **Signs data.** -/
def sign (c : Credential) (data : Value) : Except Error Bytes :=
  match c.role with
  | .ecdsaSigner => c.signEcdsa data
  | .eddsaSigner => c.signEddsa data
  | .pssSigner => c.signPss data
  | .authenticator => c.createTag data
  | _ => .error absent

/-- Checks a signature with ECDSA. -/
def verifyEcdsa (c : Credential) (data signature : Value) : Except Error Unit := do
  let size ← c.algorithm.knownSize
  let (r, s) ← c.splitSignature size signature
  if !canVerify c.key then throw absent
  let hash ← c.algorithm.newHash
  match c.key with
  | .ec curve x y _ =>
    c.orMismatched (Crypto.Primitives.verifyEcdsa curve hash x y (← requireBytes data) r s)
  | _ => throw (.fault .type)

/-- Checks a signature with EdDSA. -/
def verifyEddsa (c : Credential) (data signature : Value) : Except Error Unit := do
  if !canVerify c.key then throw absent
  let check (curve : Crypto.Edwards) (point : Bytes) : Except Error Unit := do
    let signature ← requireBytes (signature.orElse (.bytes []))
    c.orMismatched (Crypto.Primitives.verifyEddsa curve point (← requireBytes data) signature)
  match c.key with
  | .octet .ed25519 point _ => check Crypto.ed25519 point
  | .octet .ed448 point _ => check Crypto.ed448 point
  | _ => throw (.fault .type)

/-- Checks a signature with RSASSA-PSS. A modulus without room for a digest is an error. -/
def verifyPss (c : Credential) (data signature : Value) : Except Error Unit := do
  let hash ← c.algorithm.newHash
  if !canVerify c.key then throw absent
  match c.key with
  | .rsa n e _ =>
    let signature ← requireBytes (signature.orElse (.bytes []))
    let data ← requireBytes data
    if Crypto.Rsa.size n < hash.digestSize + 2 then throw (.fault .value)
    c.orMismatched (Crypto.Primitives.verifyPss hash n e data signature)
  | _ => throw (.fault .type)

/-- **Checks a signature over data.** -/
def verify (c : Credential) (data signature : Value) : Except Error Unit :=
  match c.role with
  | .ecdsaVerifier => c.verifyEcdsa data signature
  | .eddsaVerifier => c.verifyEddsa data signature
  | .pssVerifier => c.verifyPss data signature
  | .authenticator => c.authenticateTag data signature
  | _ => .error absent

/-- **The agent that works with a credential.** -/
def agent (c : Credential) : Agent where
  algorithm := .ok c.algorithm
  sign data := c.sign (.bytes data)
  verify data signature := c.verify (.bytes data) signature
  createTag data := c.createTag (.bytes data)
  authenticateTag data tag := c.authenticateTag (.bytes data) tag

end Primitives

/-- Whether signing the same data again makes the same signature. -/
def isRepeatable (c : Credential) : Bool :=
  match c.role with
  | .ecdsaSigner => c.entropy.isNone
  | .pssSigner => false
  | _ => true

end Cose.Credential
