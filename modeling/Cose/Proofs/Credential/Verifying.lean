import Cose.Credential.Operations
import Cose.Proofs.Errors
import Cose.Proofs.Message.Envelope
import Cose.Proofs.Registry

/-!
# What public keys check

An algorithm fits a key of its own family: one on its curve for ECDSA, and one that is long enough
for RSASSA-PSS. A verifier is made for an algorithm that fits, and it works with the public half of
the key in the role of the family. Whoever names the algorithm cannot choose another role, and no
public key serves as a shared one. Such a verifier accepts what the primitive of the key accepts,
and refuses the signature otherwise: it comes to no other error.

## Main definitions

* `Key.IsAsymmetric`, `Key.Supported`: keys that are no shared ones, and keys that are used with an
  algorithm by default
* `Key.Fits`, `Key.Accepts`: which algorithms fit a key, and which signatures it accepts then
* `Decides`: a check that accepts what has a property, and refuses the signature otherwise
* `Credential.ofPublic`: the verifier for a key

## Main results

* `Key.isAsymmetric_of_loadPublic`: keys that are loaded are asymmetric
* `Credential.decides_verify`: a verifier accepts what its key accepts
* `Credential.verifier_of_fits`, `Credential.verifier_of_not_fits`: for which keys there is a
  verifier
-/

namespace Cose

/-! ## Keys and algorithms -/

namespace Key

/-- **A key is asymmetric** if it is no shared one. -/
def IsAsymmetric : Key → Prop
  | .data _ => False
  | _ => True

/-- A supported key: an elliptic curve key on one of the curves P-256, P-384 and P-521, a key
for Ed25519 or Ed448, or an RSA key. -/
def Supported : Key → Prop
  | .ec curve .. => curve ∈ [.p256, .p384, .p521]
  | .octet scheme .. => scheme ∈ [.ed25519, .ed448]
  | .rsa .. => True
  | .data _ => False

/-- An algorithm fits a key: it is of the family of the key, and the curve of the key is that of
the algorithm, or the modulus is long enough. -/
def Fits (key : Key) (a : Algorithm) : Prop :=
  match key with
  | .ec curve .. => a.family = .ecdsa ∧ a.curve = some curve
  | .octet scheme .. => a.family = .eddsa ∧ scheme ∈ [.ed25519, .ed448]
  | .rsa n .. => a.family = .rsaPss ∧ Credential.minModulusBits ≤ Crypto.bitLength n
  | .data _ => False

/-- The primitive of a key accepts a signature over data, with the hash function of an
algorithm. An ECDSA signature is two numbers of the width of the algorithm, one after the other. -/
def Accepts [Crypto.Primitives] (key : Key) (a : Algorithm) (data signature : Bytes) : Prop :=
  match key with
  | .ec curve x y _ => ∃ hash size, a.hash = some hash ∧ a.keySize = some size ∧
      signature.length = 2 * size ∧
      Crypto.Primitives.verifyEcdsa curve hash x y data (Bytes.toNat (signature.take size))
        (Bytes.toNat (signature.drop size)) = true
  | .octet .ed25519 point _ =>
    Crypto.Primitives.verifyEddsa Crypto.ed25519 point data signature = true
  | .octet .ed448 point _ => Crypto.Primitives.verifyEddsa Crypto.ed448 point data signature = true
  | .octet .. => False
  | .rsa n e _ =>
    ∃ hash, a.hash = some hash ∧ Crypto.Primitives.verifyPss hash n e data signature = true
  | .data _ => False

variable {key : Key} {a : Algorithm}

/-- No algorithm that tags fits a key. -/
theorem Fits.isSignature (fits : key.Fits a) : a.family.isSignature = true := by
  cases key with
  | ec | octet | rsa =>
    rw [fits.1]
    rfl
  | data => cases fits

theorem Fits.isMac (fits : key.Fits a) : a.family.isMac = false := by
  simpa [Family.isSignature] using fits.isSignature

theorem Fits.isAsymmetric (fits : key.Fits a) : key.IsAsymmetric := by
  cases key with
  | ec | octet | rsa => trivial
  | data => exact fits

theorem Supported.isAsymmetric (supported : key.Supported) : key.IsAsymmetric := by
  cases key with
  | ec | octet | rsa => trivial
  | data => exact supported

/-- The algorithm that a supported key is used with by default is registered under its name. -/
theorem Supported.exists_default (supported : key.Supported) :
    ∃ name a, key.defaultAlgorithm = .ok name ∧ Algorithm.lookup (.text name) = .ok a := by
  cases key with
  | ec curve =>
    cases curve with
    | p256 => exact ⟨_, .es256, rfl, rfl⟩
    | p384 => exact ⟨_, .es384, rfl, rfl⟩
    | p521 => exact ⟨_, .es512, rfl, rfl⟩
    | secp256k1 | other => simp [Supported] at supported
  | octet scheme =>
    cases scheme with
    | ed25519 | ed448 => exact ⟨_, .edDSA, rfl, rfl⟩
    | x25519 | other => simp [Supported] at supported
  | rsa => exact ⟨_, .ps256, rfl, rfl⟩
  | data => cases supported

/-- No other key is used with an algorithm by default. -/
theorem exists_fault_of_not_supported (other : ¬ key.Supported) :
    ∃ fault, key.defaultAlgorithm = .error (.argument fault) ∧ fault.kind = .notImplemented := by
  cases key with
  | ec curve =>
    cases curve with
    | secp256k1 | other => exact ⟨.unsupportedCurve, rfl, rfl⟩
    | p256 | p384 | p521 => simp [Supported] at other
  | octet scheme =>
    cases scheme with
    | x25519 | other => exact ⟨.unsupportedKeyType, rfl, rfl⟩
    | ed25519 | ed448 => simp [Supported] at other
  | rsa => exact absurd trivial other
  | data => exact ⟨.unsupportedKeyType, rfl, rfl⟩

/-! ## Keys that are loaded -/

/-- What is read of a key, after anything else that is read. -/
theorem isAsymmetric_bind {α : Type} {x : Option α} {f : α → Option Key}
    (each : ∀ y, ∀ key ∈ f y, key.IsAsymmetric) : ∀ key ∈ x >>= f, key.IsAsymmetric := by
  intro key read
  obtain ⟨y, -, read⟩ := Option.bind_eq_some_iff.mp read
  exact each y key read

theorem isAsymmetric_pure (asymmetric : key.IsAsymmetric) :
    ∀ k ∈ (pure key : Option Key), k.IsAsymmetric := by
  rintro k ⟨⟩
  exact asymmetric

theorem isAsymmetric_point? (curve : Curve) (b : Bytes) :
    ∀ key ∈ point? curve b, key.IsAsymmetric := by
  unfold point?
  split
  · exact isAsymmetric_bind fun _ => isAsymmetric_bind fun _ => isAsymmetric_pure trivial
  · exact isAsymmetric_bind fun _ => isAsymmetric_bind fun _ => isAsymmetric_pure trivial
  · nofun

theorem isAsymmetric_rsaPublic? (b : Bytes) : ∀ key ∈ rsaPublic? b, key.IsAsymmetric :=
  isAsymmetric_bind fun _ => isAsymmetric_bind fun _ => isAsymmetric_bind fun _ =>
    isAsymmetric_bind fun _ => isAsymmetric_pure trivial

theorem isAsymmetric_publicInfo? (b : Bytes) : ∀ key ∈ publicInfo? b, key.IsAsymmetric := by
  refine isAsymmetric_bind fun _ => isAsymmetric_bind fun _ => isAsymmetric_bind fun _ =>
    isAsymmetric_bind fun bits => ?_
  split
  · exact isAsymmetric_bind fun curve => isAsymmetric_point? curve bits
  split
  · exact isAsymmetric_rsaPublic? bits
  · exact isAsymmetric_bind fun _ => isAsymmetric_bind fun _ => isAsymmetric_pure trivial

theorem isAsymmetric_certificateKey? (b : Bytes) :
    ∀ key ∈ certificateKey? b, key.IsAsymmetric := by
  refine isAsymmetric_bind fun _ => isAsymmetric_bind fun _ => isAsymmetric_bind fun _ =>
    isAsymmetric_bind fun _ => ?_
  exact isAsymmetric_bind fun _ => isAsymmetric_bind fun _ => isAsymmetric_bind fun _ =>
    isAsymmetric_bind fun _ => isAsymmetric_bind fun _ => isAsymmetric_bind fun _ =>
      isAsymmetric_publicInfo? _

theorem orMalformed_eq_ok {α : Type} {x : Option α} {y : α} (read : orMalformed x = .ok y) :
    y ∈ x := by
  cases x with
  | some y' =>
    cases read
    rfl
  | none => cases read

/-- **What is loaded as a public key** is no shared one. -/
theorem isAsymmetric_of_loadPublic {pem : String} (loaded : loadPublic pem = .ok key) :
    key.IsAsymmetric := by
  unfold loadPublic at loaded
  split at loaded
  · obtain ⟨der, -, read⟩ := Except.bind_eq_ok.mp loaded
    exact isAsymmetric_certificateKey? der key (orMalformed_eq_ok read)
  · obtain ⟨-, -, loaded⟩ := Except.bind_eq_ok.mp loaded
    obtain ⟨block, -, read⟩ := Except.bind_eq_ok.mp loaded
    have read := orMalformed_eq_ok read
    split at read
    · rcases Option.or_eq_some_iff.mp read with read | ⟨-, read⟩
      · exact isAsymmetric_rsaPublic? _ key read
      · exact isAsymmetric_publicInfo? _ key read
    · exact isAsymmetric_publicInfo? _ key read

end Key

namespace Algorithm

variable {a : Algorithm} (registered : a ∈ Registry.standard.algorithms)

include registered

/-- An algorithm is its own identifier as well. -/
theorem lookup_self : Algorithm.lookup (.algorithm a) = .ok a :=
  (Registry.consistent_standard.lookup_of_mem registered).2.2

theorem exists_of_ecdsa (family : a.family = .ecdsa) :
    ∃ hash curve size, a.newHash = .ok hash ∧ a.hash = some hash ∧ a.curve = some curve ∧
      a.knownSize = .ok size ∧ a.keySize = some size := by
  have all : ∀ a ∈ Registry.standard.algorithms, a.family = .ecdsa → a = .es256 ∨ a = .es384 ∨
      a = .es512 := by decide
  rcases all a registered family with rfl | rfl | rfl <;> exact ⟨_, _, _, rfl, rfl, rfl, rfl, rfl⟩

theorem exists_of_rsaPss (family : a.family = .rsaPss) :
    ∃ hash, a.newHash = .ok hash ∧ a.hash = some hash := by
  have all : ∀ a ∈ Registry.standard.algorithms, a.family = .rsaPss → a = .ps256 ∨ a = .ps384 ∨
      a = .ps512 := by decide
  rcases all a registered family with rfl | rfl | rfl <;> exact ⟨_, rfl, rfl⟩

end Algorithm

/-! ## Checks -/

/-- A check decides a property of a signature: it answers exactly if the signature has the
property, and otherwise the error is that the signature is refused. -/
structure Decides (check : Except Error Unit) (P : Prop) : Prop where
  eq_ok_iff : check = .ok () ↔ P
  refuses : ∀ e, check = .error e → ∃ r, e = .verification r

namespace Decides

variable {P Q : Prop}

theorem refused {r : Refusal} (other : ¬ P) : Decides (.error (.verification r)) P := by
  refine ⟨⟨nofun, fun h => absurd h other⟩, ?_⟩
  rintro e ⟨⟩
  exact ⟨r, rfl⟩

theorem orMismatched (c : Credential) (valid : Bool) :
    Decides (c.orMismatched valid) (valid = true) := by
  cases valid with
  | true => exact ⟨⟨fun _ => rfl, fun _ => rfl⟩, nofun⟩
  | false => exact refused (by decide)

theorem congr {check : Except Error Unit} (h : Decides check P) (same : P ↔ Q) :
    Decides check Q :=
  ⟨h.eq_ok_iff.trans same, h.refuses⟩

end Decides

namespace Credential

/-- The verifier for a key: the public half of the key in the role of the family. -/
def ofPublic (a : Algorithm) (key : Key) : Credential :=
  ⟨verifierRole a.family, a, key.publicHalf, none⟩

variable {a : Algorithm} {key : Key} {data signature : Bytes}

theorem verify_ofPublic [Crypto.Primitives] (a : Algorithm) (key : Key) (data signature : Value) :
    (ofPublic a key).verify data signature =
      match a.family with
      | .ecdsa => (ofPublic a key).verifyEcdsa data signature
      | .eddsa => (ofPublic a key).verifyEddsa data signature
      | .rsaPss => (ofPublic a key).verifyPss data signature
      | .hmac => (ofPublic a key).authenticateTag data signature := by
  rw [verify]
  simp only [ofPublic]
  cases a.family <;> rfl

theorem splitSignature_bytes (c : Credential) (size : Nat) (signature : Bytes) :
    c.splitSignature size (.bytes signature) =
      if signature.length = 2 * size then .ok (Crypto.Ecdsa.ofRaw size signature)
      else .error (.verification (.length c.algorithm.name signature.length (2 * size))) := by
  rw [splitSignature]
  rfl

theorem decides_ecdsa [Crypto.Primitives] {curve : Curve} {x y : Nat} {secret : Option Nat}
    (registered : a ∈ Registry.standard.algorithms) (family : a.family = .ecdsa) :
    Decides ((ofPublic a (.ec curve x y secret)).verify (.bytes data) (.bytes signature))
      (Key.Accepts (.ec curve x y secret) a data signature) := by
  obtain ⟨hash, _, size, hashes, hash_eq, -, known, size_eq⟩ :=
    Algorithm.exists_of_ecdsa registered family
  rw [verify_ofPublic, family]
  simp only [verifyEcdsa, ofPublic, known, Except.ok_bind, splitSignature_bytes]
  by_cases length_eq : signature.length = 2 * size
  · simp only [if_pos length_eq, Except.ok_bind, hashes]
    refine (Decides.orMismatched _ _).congr ⟨fun valid => ?_, ?_⟩
    · exact ⟨hash, size, hash_eq, size_eq, length_eq, valid⟩
    · rintro ⟨hash', size', hash_eq', size_eq', -, valid⟩
      cases hash_eq.symm.trans hash_eq'
      cases size_eq.symm.trans size_eq'
      exact valid
  · simp only [if_neg length_eq, Except.error_bind]
    refine .refused ?_
    rintro ⟨-, size', -, size_eq', length_eq', -⟩
    cases size_eq.symm.trans size_eq'
    exact length_eq length_eq'

theorem decides_eddsa [Crypto.Primitives] {scheme : OctetScheme} {point : Bytes} {seed : Option Bytes}
    (family : a.family = .eddsa) (signs : scheme ∈ [.ed25519, .ed448]) :
    Decides ((ofPublic a (.octet scheme point seed)).verify (.bytes data) (.bytes signature))
      (Key.Accepts (.octet scheme point seed) a data signature) := by
  rw [verify_ofPublic, family]
  simp only [verifyEddsa, Value.orElse_bytes]
  cases scheme with
  | ed25519 => exact .orMismatched _ _
  | ed448 => exact .orMismatched _ _
  | x25519 | other => simp at signs

/-- There is room for a digest in a modulus that is long enough. -/
theorem digestSize_lt_size {n : Nat} (hash : Hash) (long : minModulusBits ≤ Crypto.bitLength n) :
    ¬ Crypto.Rsa.size n < hash.digestSize + 2 := by
  have most : hash.digestSize ≤ 64 := by cases hash <;> decide
  rw [Crypto.Rsa.size]
  rw [minModulusBits] at long
  omega

theorem decides_pss [Crypto.Primitives] {n e : Nat} {secret : Option Nat}
    (registered : a ∈ Registry.standard.algorithms) (family : a.family = .rsaPss)
    (long : minModulusBits ≤ Crypto.bitLength n) :
    Decides ((ofPublic a (.rsa n e secret)).verify (.bytes data) (.bytes signature))
      (Key.Accepts (.rsa n e secret) a data signature) := by
  obtain ⟨hash, hashes, hash_eq⟩ := Algorithm.exists_of_rsaPss registered family
  rw [verify_ofPublic, family]
  simp only [verifyPss, ofPublic, hashes, Except.ok_bind, Value.orElse_bytes]
  show Decides (if Crypto.Rsa.size n < hash.digestSize + 2 then .error (.fault .value)
    else orMismatched _ (Crypto.Primitives.verifyPss hash n e data signature)) _
  rw [if_neg (digestSize_lt_size hash long)]
  refine (Decides.orMismatched _ _).congr ⟨fun valid => ⟨hash, hash_eq, valid⟩, ?_⟩
  rintro ⟨hash', hash_eq', valid⟩
  cases hash_eq.symm.trans hash_eq'
  exact valid

/-- **The verifier for a key that fits** accepts what the key accepts, and refuses the signature
otherwise. -/
theorem decides_verify [Crypto.Primitives] (registered : a ∈ Registry.standard.algorithms) (fits : key.Fits a)
    (data signature : Bytes) :
    Decides ((ofPublic a key).verify (.bytes data) (.bytes signature))
      (key.Accepts a data signature) := by
  cases key with
  | ec => exact decides_ecdsa registered fits.1
  | octet => exact decides_eddsa fits.1 fits.2
  | rsa => exact decides_pss registered fits.1 fits.2
  | data => cases fits

/-! ## Verifiers -/

/-- A key has no fault exactly if it fits. -/
theorem keyFault?_eq_none_iff (registered : a ∈ Registry.standard.algorithms) :
    keyFault? a key.publicHalf false = none ↔ key.Fits a := by
  cases key with
  | ec curve =>
    cases family : a.family with
    | ecdsa =>
      obtain ⟨-, expected, -, -, -, curve_eq, -⟩ := Algorithm.exists_of_ecdsa registered family
      simp [keyFault?, Key.publicHalf, Key.isPrivate, Key.Fits, family, curve_eq, eq_comm]
    | eddsa | rsaPss | hmac =>
      simp [keyFault?, Key.publicHalf, Key.isPrivate, Key.Fits, family]
  | octet scheme =>
    cases scheme <;> cases family : a.family <;>
      simp [keyFault?, Key.publicHalf, Key.isPrivate, Key.Fits, family]
  | rsa | data =>
    cases family : a.family <;> simp [keyFault?, Key.publicHalf, Key.isPrivate, Key.Fits, family]

/-- **A key that fits** has a verifier. -/
theorem verifier_of_fits {alg : Value} (found : Algorithm.lookup alg = .ok a)
    (fits : key.Fits a) : verifier alg key = .ok (ofPublic a key, []) := by
  have asymmetric := fits.isMac
  have none := (keyFault?_eq_none_iff (Registry.mem_of_lookup found)).mpr fits
  rw [verifier, found]
  simp only [Except.ok_bind, asymmetric, Bool.false_eq_true, if_false, none]
  rfl

/-- **An asymmetric key that does not fit** has none: the key is refused, for algorithms that tag as
well. -/
theorem verifier_of_not_fits {alg : Value} (asymmetric : key.IsAsymmetric)
    (found : Algorithm.lookup alg = .ok a) (other : ¬ key.Fits a) :
    ∃ fault, verifier alg key = .error (.invalidKey fault) := by
  have faulty := mt (keyFault?_eq_none_iff (Registry.mem_of_lookup found)).mp other
  obtain ⟨fault, faulty⟩ := Option.ne_none_iff_exists'.mp faulty
  rw [verifier, found]
  simp only [Except.ok_bind]
  split
  · cases key with
    | ec | octet | rsa => exact ⟨_, rfl⟩
    | data => cases asymmetric
  · rw [faulty]
    exact ⟨fault, rfl⟩

/-- No role of an asymmetric family is that of an authenticator. -/
theorem role_ne_of_isMac {f : Family} (asymmetric : f.isMac = false) :
    signerRole f ≠ .authenticator ∧ verifierRole f ≠ .authenticator := by
  cases f with
  | ecdsa | eddsa | rsaPss => exact ⟨nofun, nofun⟩
  | hmac => cases asymmetric

/-- The verifier for a key that fits is none for a shared key. -/
theorem role_ofPublic_ne (fits : key.Fits a) : (ofPublic a key).role ≠ .authenticator :=
  (role_ne_of_isMac fits.isMac).2

section Load

variable [Key.Loader] {pem : String} {alg : Value} (loaded : Key.Loader.loadPublic pem = .ok key)

include loaded

theorem loadVerifier_eq {v : Value} (chosen : algorithmFor alg key = .ok v) :
    loadVerifier pem alg = verifier v key := by
  rw [loadVerifier, loaded, Except.ok_bind, chosen, Except.ok_bind]

/-- A verifier for a supported key is the one for an algorithm that fits, whatever is asked
for. -/
theorem loadVerifier_eq_ok {c : Credential} {lines : List LogLine} (supported : key.Supported)
    (h : loadVerifier pem alg = .ok (c, lines)) : ∃ a, key.Fits a ∧ c = ofPublic a key := by
  rw [loadVerifier, loaded, Except.ok_bind] at h
  obtain ⟨v, -, h⟩ := Except.bind_eq_ok.mp h
  obtain ⟨a, found, -⟩ := Except.bind_eq_ok.mp h
  by_cases fits : key.Fits a
  · cases (verifier_of_fits found fits).symm.trans h
    exact ⟨a, fits, rfl⟩
  · obtain ⟨fault, refused⟩ := verifier_of_not_fits supported.isAsymmetric found fits
    cases refused.symm.trans h

end Load

end Credential

end Cose
