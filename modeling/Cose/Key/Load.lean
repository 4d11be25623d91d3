import Cose.Crypto.Digest
import Cose.Key.Basic
import Cose.Key.Der
import Cose.Key.Pem

/-!
# Loading keys

Private keys, public keys and certificates from their textual encoding. A private key may stand on
its own or be wrapped with the identifier of its algorithm; a public key may also come from a
certificate. Encrypted private keys are not opened.

## Main definitions

* `Key.loadPrivate`: a private key
* `Key.loadPublic`: a public key, or the public key of a certificate
* `Key.fingerprint`: the identifier of a certificate
* `Key.Loader`: what loads keys; all of it does
-/

namespace Cose.Key

/-- The encoded identifiers of key algorithms and curves. -/
def ecIdentifier : Bytes := [0x2a, 0x86, 0x48, 0xce, 0x3d, 0x02, 0x01]

/-- The identifier of RSA keys. -/
def rsaIdentifier : Bytes := [0x2a, 0x86, 0x48, 0x86, 0xf7, 0x0d, 0x01, 0x01, 0x01]

/-- The identifiers of octet keys. -/
def octetIdentifiers : List (Bytes × OctetScheme) :=
  [([0x2b, 0x65, 0x70], .ed25519), ([0x2b, 0x65, 0x71], .ed448), ([0x2b, 0x65, 0x6e], .x25519)]

/-- The identifiers of curves. -/
def curveIdentifiers : List (Bytes × Curve) :=
  [([0x2a, 0x86, 0x48, 0xce, 0x3d, 0x03, 0x01, 0x07], .p256),
    ([0x2b, 0x81, 0x04, 0x00, 0x22], .p384), ([0x2b, 0x81, 0x04, 0x00, 0x23], .p521),
    ([0x2b, 0x81, 0x04, 0x00, 0x0a], .secp256k1),
    ([0x2a, 0x86, 0x48, 0xce, 0x3d, 0x03, 0x01, 0x01], .other "secp192r1" 192),
    ([0x2b, 0x81, 0x04, 0x00, 0x21], .other "secp224r1" 224),
    ([0x2b, 0x24, 0x03, 0x03, 0x02, 0x08, 0x01, 0x01, 0x07], .other "brainpoolP256r1" 256),
    ([0x2b, 0x24, 0x03, 0x03, 0x02, 0x08, 0x01, 0x01, 0x0b], .other "brainpoolP384r1" 384),
    ([0x2b, 0x24, 0x03, 0x03, 0x02, 0x08, 0x01, 0x01, 0x0d], .other "brainpoolP512r1" 512)]

/-- The identifier of an algorithm and its encoded parameters. -/
def algorithmIdentifier? (b : Bytes) : Option (Bytes × Bytes) :=
  Der.take? Der.identifierTag b

/-- The curve that encoded parameters name. -/
def curve? (parameters : Bytes) : Option Curve := do
  curveIdentifiers.lookup (← Der.only? Der.identifierTag parameters)

/-- A public point, with both coordinates or with the parity of the second. -/
def point? (curve : Curve) (b : Bytes) : Option Key := do
  let c := curve.weierstrass
  match b with
  | 0x04 :: rest =>
    guard (rest.length = 2 * curve.size)
    let x := Bytes.toNat (rest.take curve.size)
    let y := Bytes.toNat (rest.drop curve.size)
    guard (c.holds x y)
    return .ec curve x y none
  | first :: rest =>
    guard ((first = 2 ∨ first = 3) ∧ rest.length = curve.size)
    let (x, y) ← c.decompress? (Bytes.toNat rest) (first = 3)
    return .ec curve x y none
  | [] => none

/-- A private key from its secret number. -/
def secretNumber? (curve : Curve) (d : Nat) : Option Key := do
  guard (0 < d ∧ d < curve.weierstrass.order)
  return ofSecretNumber curve d

/-- The two numbers of an RSA public key. -/
def rsaPublic? (b : Bytes) : Option Key := do
  let content ← Der.only? Der.sequenceTag b
  let (n, rest) ← Der.natural? content
  let (e, rest) ← Der.natural? rest
  guard rest.isEmpty
  return .rsa n e none

/-- An RSA private key: version, modulus, exponents, and the factors with what speeds up their
use. -/
def rsaPrivate? (b : Bytes) : Option Key := do
  let content ← Der.only? Der.sequenceTag b
  let (version, rest) ← Der.natural? content
  guard (version = 0)
  let (n, rest) ← Der.natural? rest
  let (e, rest) ← Der.natural? rest
  let (d, rest) ← Der.natural? rest
  let (p, rest) ← Der.natural? rest
  let (q, rest) ← Der.natural? rest
  let (_, rest) ← Der.natural? rest
  let (_, rest) ← Der.natural? rest
  let (_, rest) ← Der.natural? rest
  guard (rest.isEmpty ∧ p * q = n)
  return .rsa n e (some d)

/-- An elliptic curve private key, whose curve is given or named inside. -/
def ecPrivate? (given : Option Curve) (b : Bytes) : Option Key := do
  let content ← Der.only? Der.sequenceTag b
  let (version, rest) ← Der.natural? content
  guard (version = 1)
  let (secret, rest) ← Der.take? Der.octetsTag rest
  let named := (Der.take? (Der.fieldTag 0) rest).bind fun (field, _) => curve? field
  secretNumber? (← given.or named) (Bytes.toNat secret)

/-- A public key with the identifier of its algorithm. -/
def publicInfo? (b : Bytes) : Option Key := do
  let content ← Der.only? Der.sequenceTag b
  let (algorithm, rest) ← Der.take? Der.sequenceTag content
  let (identifier, parameters) ← algorithmIdentifier? algorithm
  let bits ← (Der.only? Der.bitsTag rest).bind Der.bits?
  if identifier = ecIdentifier then point? (← curve? parameters) bits
  else if identifier = rsaIdentifier then rsaPublic? bits
  else
    let scheme ← octetIdentifiers.lookup identifier
    guard (bits.length = scheme.width)
    return .octet scheme bits none

/-- A private key with the identifier of its algorithm. -/
def privateInfo? (b : Bytes) : Option Key := do
  let content ← Der.only? Der.sequenceTag b
  let (version, rest) ← Der.natural? content
  guard (version ≤ 1)
  let (algorithm, rest) ← Der.take? Der.sequenceTag rest
  let (identifier, parameters) ← algorithmIdentifier? algorithm
  let (inner, _) ← Der.take? Der.octetsTag rest
  if identifier = ecIdentifier then ecPrivate? (some (← curve? parameters)) inner
  else if identifier = rsaIdentifier then rsaPrivate? inner
  else
    let scheme ← octetIdentifiers.lookup identifier
    let seed ← Der.only? Der.octetsTag inner
    guard (seed.length = scheme.width)
    return ofSeed scheme seed

/-- The public key of a certificate: the field behind the version, the number, the signature
algorithm, the issuer, the validity and the subject. -/
def certificateKey? (der : Bytes) : Option Key := do
  let content ← Der.only? Der.sequenceTag der
  let (body, rest) ← Der.take? Der.sequenceTag content
  let (_, rest) ← Der.take? Der.sequenceTag rest
  let _ ← Der.only? Der.bitsTag rest
  let body := Der.skipOptional (Der.fieldTag 0) body
  let (_, body) ← Der.take? Der.integerTag body
  let (_, body) ← Der.take? Der.sequenceTag body
  let (_, body) ← Der.take? Der.sequenceTag body
  let (_, body) ← Der.take? Der.sequenceTag body
  let (_, body) ← Der.take? Der.sequenceTag body
  publicInfo? (← Der.whole? Der.sequenceTag body)

/-- Refuses text that is not ASCII. -/
def requireAscii (s : String) : Except Error Unit :=
  if s.toList.all fun c => c.toNat < 128 then .ok () else .error (.fault .asciiText)

/-- What a reader found, or the error of malformed input. -/
def orMalformed {α : Type} : Option α → Except Error α
  | some a => .ok a
  | none => .error (.fault .value)

/-- Whether a block is encrypted. -/
def isEncrypted (b : Pem.Block) : Bool :=
  b.label == "ENCRYPTED PRIVATE KEY" ||
    b.headers.any fun (name, value) => name == "Proc-Type" && value == "4,ENCRYPTED"

/-- **A private key from text.** -/
def loadPrivate (pem : String) : Except Error Key := do
  requireAscii pem
  let block ← orMalformed <| Pem.find?
    ["PRIVATE KEY", "ENCRYPTED PRIVATE KEY", "RSA PRIVATE KEY", "EC PRIVATE KEY"] pem
  if isEncrypted block then throw (.fault .type)
  orMalformed <| match block.label with
    | "RSA PRIVATE KEY" => rsaPrivate? block.content
    | "EC PRIVATE KEY" => ecPrivate? none block.content
    | _ => privateInfo? block.content

/-- The content of the first certificate of a text. -/
def certificate (pem : String) : Except Error Bytes := do
  requireAscii pem
  let block ← orMalformed (Pem.find? ["CERTIFICATE", "X509 CERTIFICATE"] pem)
  return block.content

/-- Whether a text occurs in another. -/
def occursIn (part whole : String) : Bool :=
  (Pem.splitAt? part.toList whole.toList).isSome

/-- **A public key from text**, or the public key of a certificate. -/
def loadPublic (pem : String) : Except Error Key := do
  if occursIn "BEGIN CERTIFICATE" pem then
    orMalformed (certificateKey? (← certificate pem))
  else
    requireAscii pem
    let block ← orMalformed (Pem.find? ["PUBLIC KEY", "RSA PUBLIC KEY"] pem)
    orMalformed <| match block.label with
      | "RSA PUBLIC KEY" => (rsaPublic? block.content).or (publicInfo? block.content)
      | _ => publicInfo? block.content

/-- **The identifier of a certificate**: its SHA-256 fingerprint in hexadecimal digits. -/
def fingerprint (pem : String) : Except Error Bytes := do
  let der ← certificate pem
  let _ ← orMalformed (certificateKey? der)
  return Bytes.ofText (Bytes.hex (Hash.sha256.digest der))

/-- **A loader of keys**: what loads private keys, public keys and the identifiers of certificates
from text. -/
class Loader where
  loadPrivate : String → Except Error Key
  loadPublic : String → Except Error Key
  fingerprint : String → Except Error Bytes

/-- The loader that is used. -/
instance Loader.standard : Loader where
  loadPrivate := Key.loadPrivate
  loadPublic := Key.loadPublic
  fingerprint := Key.fingerprint

namespace Loader

variable (pem : String)

@[simp]
theorem standard_loadPrivate : standard.loadPrivate pem = Key.loadPrivate pem := rfl

@[simp]
theorem standard_loadPublic : standard.loadPublic pem = Key.loadPublic pem := rfl

@[simp]
theorem standard_fingerprint : standard.fingerprint pem = Key.fingerprint pem := rfl

end Loader

end Cose.Key
