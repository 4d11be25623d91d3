import Cose.Key.Load
import Cose.Message.Step
import Cose.Value.Octets

/-!
# Credentials

A credential is a key bound to an algorithm in one of the roles that the families of algorithms
know: a signer or a verifier for each asymmetric family, and an authenticator, which both tags and
checks tags. The factories check that the key suits the algorithm; binding a key to a role
directly does not. Signers and verifiers are also made from the text of keys and certificates;
without an algorithm the one that the key is used with by default is taken.

## Main definitions

* `Role`, `Credential`: roles, and a key bound to an algorithm in a role
* `Credential.signer`, `Credential.verifier`, `Credential.authenticator`: the checked factories
* `Credential.bind`: a key in a role, unchecked
* `Credential.counterpart`: the verifier of a signer
* `Credential.loadSigner`, `Credential.loadVerifier`: signers and verifiers from text
-/

namespace Cose

/-- **The roles of a key.** -/
inductive Role where
  | ecdsaSigner
  | ecdsaVerifier
  | eddsaSigner
  | eddsaVerifier
  | pssSigner
  | pssVerifier
  | authenticator
  deriving DecidableEq, Repr

/-- **A credential**: a key bound to an algorithm in a role. Entropy makes ECDSA signatures and
the salts of RSASSA-PSS signatures depend on more than the key and the message. -/
structure Credential where
  role : Role
  algorithm : Algorithm
  key : Key
  entropy : Option Bytes := none

namespace Credential

/-- The least length of an RSA modulus in bits. -/
def minModulusBits : Nat := 2048

/-- Why a key does not suit an asymmetric algorithm, where `half` says whether it has to be
private. -/
def keyFault? (alg : Algorithm) (key : Key) (half : Bool) : Option KeyFault :=
  let mismatch : KeyFault := .type alg.name key.typeName
  if key.isPrivate ≠ half then some mismatch
  else match alg.family, key with
    | .ecdsa, .ec curve .. =>
      match alg.curve with
      | some expected =>
        if curve = expected then none else some (.curve alg.name curve.name expected.name)
      | none => none
    | .eddsa, .octet .ed25519 .. | .eddsa, .octet .ed448 .. => none
    | .rsaPss, .rsa n .. =>
      if Crypto.bitLength n < minModulusBits then some (.tooShort alg.name minModulusBits)
      else none
    | _, _ => some mismatch

/-- The role of a signer of a family. -/
def signerRole : Family → Role
  | .ecdsa => .ecdsaSigner
  | .eddsa => .eddsaSigner
  | .rsaPss => .pssSigner
  | .hmac => .authenticator

/-- The role of a verifier of a family. -/
def verifierRole : Family → Role
  | .ecdsa => .ecdsaVerifier
  | .eddsa => .eddsaVerifier
  | .rsaPss => .pssVerifier
  | .hmac => .authenticator

/-- An authenticator for an algorithm that tags. A key shorter than the tag is noted in the log. -/
def tagger (alg : Algorithm) (key : Key) : Except Error (Credential × List LogLine) := do
  match key with
  | .data (.bytes b) | .data (.buffer b) =>
    if b.isEmpty then throw (.invalidKey .empty)
    let size ← alg.knownSize
    let short : LogLine :=
      ⟨.warning, s!"{alg.name}: key is {b.length} bytes, shorter than the {size} byte tag"⟩
    return (⟨.authenticator, alg, .data (.bytes b), none⟩,
      if b.length < size then [short] else [])
  | _ => throw (.invalidKey (.type alg.name key.typeName))

/-- **A key that tags and authenticates with an algorithm.** -/
def authenticator (alg : Value) (key : Key) : Except Error (Credential × List LogLine) := do
  let alg ← Algorithm.lookup alg
  if alg.family.isMac then tagger alg key
  else throw (.unknownAlgorithm (.notForAuthentication alg.name))

/-- **A private key, or a shared one, that signs with an algorithm.** -/
def signer (alg : Value) (key : Key) (entropy : Option Bytes := none) :
    Except Error (Credential × List LogLine) := do
  let alg ← Algorithm.lookup alg
  if alg.family.isMac then
    match tagger alg key with
    | .error (.invalidKey fault) => throw (.signing (.key fault (some (.key fault))))
    | r => r
  else match keyFault? alg key true with
    | some fault => throw (.signing (.key fault none))
    | none => return (⟨signerRole alg.family, alg, key, entropy⟩, [])

/-- **A public key, or a shared one, that verifies with an algorithm.** Of a private key the
public half is used. -/
def verifier (alg : Value) (key : Key) : Except Error (Credential × List LogLine) := do
  let alg ← Algorithm.lookup alg
  let key := key.publicHalf
  if alg.family.isMac then tagger alg key
  else match keyFault? alg key false with
    | some fault => throw (.invalidKey fault)
    | none => return (⟨verifierRole alg.family, alg, key, none⟩, [])

/-- A key in a role, whether or not it suits the algorithm. The key of an authenticator has to
spell bytes. -/
def bind (role : Role) (alg : Value) (key : Key) : Except Error Credential := do
  let alg ← Algorithm.lookup alg
  match role with
  | .authenticator =>
    match key with
    | .data v => return ⟨role, alg, .data (.bytes (← v.octets)), none⟩
    | _ => throw (.fault .type)
  | _ => return ⟨role, alg, key, none⟩

/-- The role that checks what a signer makes; authenticators have none of their own. -/
def counterpartRole? : Role → Option Role
  | .ecdsaSigner => some .ecdsaVerifier
  | .eddsaSigner => some .eddsaVerifier
  | .pssSigner => some .pssVerifier
  | _ => none

/-- **The verifier of a signer**, with the public half of its key. -/
def counterpart (c : Credential) : Except Error Credential :=
  match counterpartRole? c.role with
  | some role =>
    if c.key.isPrivate then .ok ⟨role, c.algorithm, c.key.publicHalf, none⟩
    else .error (.fault .attribute)
  | none => .error (.fault .attribute)

/-! ## Credentials from text -/

/-- The algorithm that is given, or else the default one of a key. -/
def algorithmFor (alg : Value) (key : Key) : Except Error Value :=
  if alg.isTruthy then .ok alg else key.defaultAlgorithm.map .text

/-- **A signer from the text of a private key.** -/
def loadSigner [Key.Loader] (pem : String) (alg : Value := .null)
    (entropy : Option Bytes := none) : Except Error (Credential × List LogLine) := do
  let key ← Key.Loader.loadPrivate pem
  signer (← algorithmFor alg key) key entropy

/-- **A verifier from the text of a public key or a certificate.** -/
def loadVerifier [Key.Loader] (pem : String) (alg : Value := .null) :
    Except Error (Credential × List LogLine) := do
  let key ← Key.Loader.loadPublic pem
  verifier (← algorithmFor alg key) key

end Credential

end Cose
