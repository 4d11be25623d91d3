import Cose.Message.Certified
import Cose.Proofs.Credential.Verifying
import Cose.Proofs.Message.Acceptance
import Cose.Proofs.Message.Agreement

/-!
# Messages that are validated

A message comes from its sender, and the key to validate it with from whoever receives it. The
message may name the algorithm, so the sender has a say in how the key is used. The algorithm has to
fit the key, though: it cannot move the key to another family or curve, nor make a public key serve
as a shared one. What is left for the signature to decide is left to the primitive of the key. All
this is so whatever reads the message, loads the key and checks the signature.

The errors are those of the family, with few exceptions: an integer in the headers may have too many
digits to be written, the reader may raise an error of its own, and the key may have no algorithm by
default.

## Main definitions

* `Sign1.CallsFor`: the algorithm that a message is validated with
* `Sign1.Valid`: the messages that are valid for a key
* `Sign1.Escapes`: the errors of validation that are none of the family

## Main results

* `Sign1.decode_eq_error`, `Sign1.legible_of_decode`: what is received
* `Sign1.decides_checkSignature`: the check of the signature
* `Sign1.validate_iff`: which messages are validated, and what happens otherwise
* `Sign1.validate_iff_pattern`: an error of the reader gets through
-/

namespace Cose

/-- An algorithm as an identifier; an absent one is null. -/
def Value.ofAlgorithm? : Option Algorithm → Value
  | some a => .algorithm a
  | none => .null

namespace Error

/-- An error is of the family, or could not be written, so that another one takes its place. -/
def isCoseOrUnwritten (e : Error) : Bool :=
  e.isCose || e == .fault .value

theorem isCoseOrUnwritten_iff {e : Error} :
    e.isCoseOrUnwritten = true ↔ e.isCose = true ∨ e = .fault .value := by
  rw [isCoseOrUnwritten, Bool.or_eq_true, beq_iff_eq]

end Error

theorem Bucket.isCoseOrUnwritten_algorithm (b : Bucket) :
    Fails Error.isCoseOrUnwritten b.algorithm := by
  rw [algorithm]
  split
  · exact .ok _
  · exact (Registry.standard.fails_lookup (fun _ => rfl) rfl _).map _

namespace Sign1

open Message (HeadersWritable Raises)

variable {m : Sign1} {pem : String} {key : Key} {a : Algorithm} {data aad : Bytes}

/-! ## The algorithm -/

/-- **The algorithm that a message calls for** with a key: the registered one that its protected
header names, or the default one of the key if it names none. -/
def CallsFor (m : Sign1) (key : Key) (a : Algorithm) : Prop :=
  m.prot.algorithm = .ok (some a) ∨
    m.prot.has .alg = false ∧
      ∃ name, key.defaultAlgorithm = .ok name ∧ Algorithm.lookup (.text name) = .ok a

theorem CallsFor.allows (calls : m.CallsFor key a) : m.prot.Allows a :=
  calls.symm.imp And.left id

/-- A message calls for one algorithm. -/
theorem CallsFor.unique {a' : Algorithm} (calls : m.CallsFor key a) (calls' : m.CallsFor key a') :
    a = a' := by
  rcases calls with named | ⟨absent, name, default, found⟩ <;>
    rcases calls' with named' | ⟨absent', name', default', found'⟩
  · cases named.symm.trans named'
    rfl
  · cases named.symm.trans (Bucket.algorithm_of_not_has absent')
  · cases named'.symm.trans (Bucket.algorithm_of_not_has absent)
  · cases default.symm.trans default'
    cases found.symm.trans found'
    rfl

/-- What a message names, or else the default of the key, is the algorithm that it calls for. It calls
for none if it names none and the key has no default. -/
theorem exists_callsFor {named : Option Algorithm} (key : Key)
    (names : m.prot.algorithm = .ok named) :
    (∃ a v, m.CallsFor key a ∧ Algorithm.lookup v = .ok a ∧
      Credential.algorithmFor (.ofAlgorithm? named) key = .ok v) ∨
      named = none ∧ ∃ e, key.defaultAlgorithm = .error e := by
  cases named with
  | some a =>
    have found := Algorithm.lookup_self (Bucket.mem_of_algorithm names)
    exact .inl ⟨a, .algorithm a, .inl names, found, rfl⟩
  | none =>
    by_cases supported : key.Supported
    · obtain ⟨name, a, default, found⟩ := supported.exists_default
      have absent := Bucket.not_has_of_algorithm names
      refine .inl ⟨a, .text name, .inr ⟨absent, name, default, found⟩, found, ?_⟩
      rw [Credential.algorithmFor, default]
      rfl
    · obtain ⟨fault, unsupported, -⟩ := Key.exists_fault_of_not_supported supported
      exact .inr ⟨rfl, _, unsupported⟩

/-! ## What is received -/

theorem exists_covered {payload : Value} (isPayload : payload.IsPayload) (prot aad : Bytes) :
    ∃ covered,
      sigStructure "Signature1" (.bytes prot) .null (.bytes aad) payload = .ok covered := by
  cases isPayload with
  | null | bytes => exact ⟨_, rfl⟩

section Reader

variable [Cbor.Reader]

/-- There is no algorithm to validate a message with: it is received, but it names none, and the
key has no default, which is the error. -/
inductive Unassigned (key : Key) (data : Bytes) (e : Error) : Prop
  | intro {m : Sign1} (decoded : decode (.bytes data) = .ok m)
      (unnamed : m.prot.algorithm = .ok none) (default : key.defaultAlgorithm = .error e) :
      Unassigned key data e

/-- An error of validation is none of the family if it stands for one that cannot be written, if
the reader lets it through, or if it says that the key has no algorithm by default. -/
inductive Escapes (key : Key) (data : Bytes) : Error → Prop
  | unwritten (unwritable : ¬ HeadersWritable .sign1 (.bytes data)) :
      Escapes key data (.fault .value)
  | raised {fault : Fault} (raises : Raises (.bytes data) fault .sign1) :
      Escapes key data (.fault fault)
  | unassigned {e : Error} (unassigned : Unassigned key data e) : Escapes key data e

/-- Whatever bytes are received, they are refused with errors of the family, or with those that
escape. -/
theorem decode_eq_error {e : Error} (failed : decode (.bytes data) = .error e) (key : Key) :
    e.isCose = true ∨ Escapes key data e := by
  have failed : Message.decode .sign1 (.bytes data) = .error e := by
    rw [Message.decode, failed]
    rfl
  rcases Message.decode_eq_error failed with ⟨fault, rfl⟩ | ⟨rfl, unwritable⟩ | ⟨fault, raises, rfl⟩
  · exact .inl rfl
  · exact .inr (.unwritten unwritable)
  · exact .inr (.raised raises)

theorem legible_of_decode (writable : HeadersWritable .sign1 (.bytes data))
    (decoded : decode (.bytes data) = .ok m) : m.toLayer.Legible := by
  obtain ⟨prot, unprot, elements, layer, -⟩ := decode_eq_ok decoded
  have carries := decodeTagged_eq_ok_iff.mp elements
  exact Layer.legible_of_decode (writable.layer _ _ _ _ carries) layer

/-- A message that is received has the bytes of its protected header, and there is something for its
signature to cover. -/
theorem exists_of_decode (decoded : decode (.bytes data) = .ok m) (aad : Bytes) :
    ∃ prot signature covered, protectedFields .sign1 (.bytes data) = .ok [.bytes prot] ∧
      m.prot.encode = .ok prot ∧ m.signature = .bytes signature ∧
      sigStructure "Signature1" (.bytes prot) .null (.bytes aad) m.payload = .ok covered := by
  obtain ⟨_, _, elements, layer, payload, signature, -⟩ := decode_eq_ok decoded
  obtain ⟨-, -, prot, rfl, encoded, -⟩ := Layer.wellFormed_of_decode layer
  obtain ⟨covered, covers⟩ := exists_covered payload prot aad
  refine ⟨prot, m.signature.content, covered, ?_, encoded, signature, covers⟩
  rw [protectedFields, elements, signature]
  rfl

/-- What a message that is received names fails to be an algorithm with an error of the family, unless
it cannot be written. -/
theorem algorithm_eq_error {e : Error} (decoded : decode (.bytes data) = .ok m)
    (names : m.prot.algorithm = .error e) (key : Key) : e.isCose = true ∨ Escapes key data e := by
  rcases Error.isCoseOrUnwritten_iff.mp (m.prot.isCoseOrUnwritten_algorithm e names) with
    cose | rfl
  · exact .inl cose
  · refine .inr (.unwritten fun writable => ?_)
    have cose := (legible_of_decode writable decoded).prot.isCose_algorithm _ names
    exact absurd cose (by decide)

/-- Only a key that is not supported leaves a message without an algorithm. -/
theorem Unassigned.not_supported {e : Error} (unassigned : Unassigned key data e) : ¬ key.Supported := by
  obtain ⟨-, -, default⟩ := unassigned
  intro supported
  obtain ⟨name, -, default', -⟩ := supported.exists_default
  cases default.symm.trans default'

end Reader

/-! ## The signature -/

/-- **The check of the signature** of a message that is received: it answers if there is a signature
that the key accepts. -/
theorem decides_checkSignature [Crypto.Primitives] {prot signature covered : Bytes}
    (registered : a ∈ Registry.standard.algorithms) (fits : key.Fits a)
    (encoded : m.prot.encode = .ok prot) (present : m.signature = .bytes signature)
    (covers : sigStructure "Signature1" (.bytes prot) .null (.bytes aad) m.payload = .ok covered) :
    Decides (m.checkSignature (Credential.ofPublic a key).agent (.bytes aad))
      (signature ≠ [] ∧ key.Accepts a covered signature) := by
  have covers : m.structureFor prot (.bytes aad) = .ok covered := covers
  rw [checkSignature, present]
  by_cases none : signature = []
  · subst none
    exact .refused fun h => h.1 rfl
  · simp only [Value.isTruthy_bytes none, Bool.not_true, Bool.false_eq_true, if_false, encoded,
      Except.ok_bind, covers]
    refine (Credential.decides_verify registered fits covered signature).congr ?_
    exact ⟨fun accepts => ⟨none, accepts⟩, And.right⟩

/-! ## Validation -/

section Libraries

variable [Cbor.Reader] [Crypto.Primitives]

/-- The bytes decode to a message that is valid for a key: the message calls for a registered
algorithm that signs and fits the key, and it has a signature which the primitive of the key accepts
over the protected header as it was received, the external data and the payload. -/
inductive Valid (key : Key) (data aad : Bytes) (m : Sign1) : Prop
  | intro {a : Algorithm} {prot signature covered : Bytes} (decoded : decode (.bytes data) = .ok m)
    (calls : m.CallsFor key a) (registered : a ∈ Registry.standard.algorithms)
    (signs : a.family.isSignature = true) (fits : key.Fits a)
    (received : protectedFields .sign1 (.bytes data) = .ok [.bytes prot])
    (present : m.signature = .bytes signature) (nonempty : signature ≠ [])
    (covers : sigStructure "Signature1" (.bytes prot) .null (.bytes aad) m.payload = .ok covered)
    (accepts : key.Accepts a covered signature) : Valid key data aad m

namespace Valid

theorem eq_of_decode {m' : Sign1} (valid : Valid key data aad m')
    (decoded : decode (.bytes data) = .ok m) : m' = m := by
  obtain ⟨decoded'⟩ := valid
  exact Except.ok.inj (decoded'.symm.trans decoded)

theorem exists_names (valid : Valid key data aad m) :
    ∃ named, m.prot.algorithm = .ok named := by
  obtain ⟨-, calls⟩ := valid
  rcases calls.allows with absent | named
  · exact ⟨_, Bucket.algorithm_of_not_has absent⟩
  · exact ⟨_, named⟩

/-- What a valid message calls for fits the key, and the key accepts its signature. -/
theorem accepts_of_calls {prot signature covered : Bytes} (valid : Valid key data aad m)
    (calls : m.CallsFor key a)
    (received : protectedFields .sign1 (.bytes data) = .ok [.bytes prot])
    (present : m.signature = .bytes signature)
    (covers : sigStructure "Signature1" (.bytes prot) .null (.bytes aad) m.payload = .ok covered) :
    key.Fits a ∧ signature ≠ [] ∧ key.Accepts a covered signature := by
  obtain ⟨-, calls', -, -, fits, received', present', nonempty, covers', accepts⟩ := valid
  cases calls.unique calls'
  cases received.symm.trans received'
  cases present.symm.trans present'
  cases covers.symm.trans covers'
  exact ⟨fits, nonempty, accepts⟩

end Valid

theorem Unassigned.not_valid {e : Error} (unassigned : Unassigned key data e) (m : Sign1) : ¬ Valid key data aad m := by
  obtain ⟨decoded, unnamed, default⟩ := unassigned
  rintro ⟨decoded', named | ⟨-, name, default', -⟩, -⟩
  · cases decoded.symm.trans decoded'
    cases unnamed.symm.trans named
  · cases default.symm.trans default'

variable [Key.Loader]

/-- The steps of validation. -/
theorem validate_eq (pem : String) (data aad : Value) :
    validate pem data aad = (do
      let m ← decode data
      let named ← m.prot.algorithm
      let (c, _) ← Credential.loadVerifier pem (.ofAlgorithm? named)
      (m.verify c.agent aad).result
      return (m.verify c.agent aad).after) := rfl

/-- With the verifier for an algorithm that is called for, the check of the signature decides. -/
theorem validate_of_fits {named : Option Algorithm} {lines : List LogLine}
    (decoded : decode (.bytes data) = .ok m) (names : m.prot.algorithm = .ok named)
    (loads : Credential.loadVerifier pem (.ofAlgorithm? named) =
      .ok (Credential.ofPublic a key, lines))
    (allows : m.prot.Allows a) (signs : a.family.isSignature = true) (aad : Value) :
    validate pem (.bytes data) aad =
      (m.checkSignature (Credential.ofPublic a key).agent aad).map
        fun _ => { m with state := .verified } := by
  have own : (Credential.ofPublic a key).agent.signatureAlgorithm .sign1 = .ok a :=
    Agent.signatureAlgorithm_of_family rfl signs
  simp only [validate_eq, decoded, names, loads, Except.ok_bind, verify, own,
    Bucket.checkAlgorithm_eq_ok_iff.mpr allows]
  rcases m.checkSignature (Credential.ofPublic a key).agent aad with e | ⟨⟩
  · simp only
    split <;> rfl
  · rfl

/-- Without an algorithm the error of the key is that of validation. -/
theorem Unassigned.validate_eq_error {e : Error} (unassigned : Unassigned key data e)
    (loaded : Key.Loader.loadPublic pem = .ok key) (aad : Value) :
    validate pem (.bytes data) aad = .error e := by
  obtain ⟨decoded, unnamed, default⟩ := unassigned
  have chosen : Credential.algorithmFor .null key = .error e := by
    rw [Credential.algorithmFor, default]
    rfl
  have loads : Credential.loadVerifier pem .null = .error e := by
    rw [Credential.loadVerifier, loaded, Except.ok_bind, chosen]
    rfl
  simp only [validate_eq, decoded, unnamed, Except.ok_bind, Value.ofAlgorithm?, loads]
  rfl

/-- Validation answers for a valid message, and fails otherwise. -/
theorem validate_outcome (loaded : Key.Loader.loadPublic pem = .ok key)
    (asymmetric : key.IsAsymmetric) (data aad : Bytes) :
    (∃ m, Valid key data aad m ∧
        validate pem (.bytes data) (.bytes aad) = .ok { m with state := .verified }) ∨
      (∀ m, ¬ Valid key data aad m) ∧ ∃ e, validate pem (.bytes data) (.bytes aad) = .error e ∧
        (e.isCose = true ∨ Escapes key data e) := by
  rcases decoded : decode (.bytes data) with e | m
  · refine .inr ⟨?_, e, by rw [validate, decoded]; rfl, decode_eq_error decoded key⟩
    rintro m ⟨decoded', -⟩
    cases decoded.symm.trans decoded'
  suffices (Valid key data aad m ∧
      validate pem (.bytes data) (.bytes aad) = .ok { m with state := .verified }) ∨
        ¬ Valid key data aad m ∧ ∃ e, validate pem (.bytes data) (.bytes aad) = .error e ∧
          (e.isCose = true ∨ Escapes key data e) by
    rcases this with answers | ⟨other, failed⟩
    · exact .inl ⟨m, answers⟩
    · exact .inr ⟨fun m' valid => other (valid.eq_of_decode decoded ▸ valid), failed⟩
  rcases names : m.prot.algorithm with e | named
  · refine .inr ⟨fun valid => ?_, e, ?_, algorithm_eq_error decoded names key⟩
    · obtain ⟨named, names'⟩ := valid.exists_names
      cases names.symm.trans names'
    · rw [validate_eq, decoded, Except.ok_bind, names]
      rfl
  rcases exists_callsFor key names with ⟨a, v, calls, found, chosen⟩ | ⟨unnamed, e, default⟩
  · obtain ⟨prot, signature, covered, received, encoded, present, covers⟩ :=
      exists_of_decode decoded aad
    have loads := Credential.loadVerifier_eq loaded chosen
    by_cases fits : key.Fits a
    · have registered := Registry.mem_of_lookup found
      have decides := decides_checkSignature registered fits encoded present covers
      rw [Credential.verifier_of_fits found fits] at loads
      rw [validate_of_fits decoded names loads calls.allows fits.isSignature]
      rcases checked : m.checkSignature (Credential.ofPublic a key).agent (.bytes aad) with e | ⟨⟩
      · obtain ⟨r, rfl⟩ := decides.refuses e checked
        refine .inr ⟨fun valid => ?_, _, rfl, .inl (by cases r <;> rfl)⟩
        have accepted := (valid.accepts_of_calls calls received present covers).2
        cases checked.symm.trans (decides.eq_ok_iff.mpr accepted)
      · obtain ⟨nonempty, accepts⟩ := decides.eq_ok_iff.mp checked
        exact .inl ⟨.intro decoded calls registered fits.isSignature fits received present nonempty
          covers accepts, rfl⟩
    · obtain ⟨fault, refused⟩ := Credential.verifier_of_not_fits asymmetric found fits
      refine .inr ⟨fun valid => ?_, .invalidKey fault, ?_, .inl rfl⟩
      · exact fits (valid.accepts_of_calls calls received present covers).1
      · simp only [validate_eq, decoded, Except.ok_bind, names, loads, refused]
        rfl
  · have unassigned : Unassigned key data e := .intro decoded (unnamed ▸ names) default
    exact .inr ⟨unassigned.not_valid m, e, unassigned.validate_eq_error loaded _,
      .inr (.unassigned unassigned)⟩

/-- For a supported key it fails with errors of the family, unless an integer cannot be written or
the reader raises another error. -/
theorem validate_cases (loaded : Key.Loader.loadPublic pem = .ok key) (supported : key.Supported)
    (data aad : Bytes) :
    (∃ m, Valid key data aad m ∧
        validate pem (.bytes data) (.bytes aad) = .ok { m with state := .verified }) ∨
      (∀ m, ¬ Valid key data aad m) ∧ ∃ e, validate pem (.bytes data) (.bytes aad) = .error e ∧
        (e.isCose = true ∨ e = .fault .value ∧ ¬ HeadersWritable .sign1 (.bytes data) ∨
          ∃ fault, Raises (.bytes data) fault .sign1 ∧ e = .fault fault) := by
  rcases validate_outcome loaded supported.isAsymmetric data aad with answers | ⟨none, e, failed, why⟩
  · exact .inl answers
  · refine .inr ⟨none, e, failed, ?_⟩
    rcases why with cose | unwritable | raises | unassigned
    · exact .inl cose
    · exact .inr (.inl ⟨rfl, unwritable⟩)
    · exact .inr (.inr ⟨_, raises, rfl⟩)
    · exact absurd supported unassigned.not_supported

/-- **Which messages are validated.** Whatever reads the message, loads the key and checks the
signature: for a supported key, validation answers exactly for bytes that decode to a valid message,
and the answer is that message in the state verified. In all other cases it fails, with an error of
the COSE family unless an integer in the headers cannot be written, or the reader raises an error of
its own over the message or its protected header. Whatever algorithm is asked for, the verifier for
the key is never one for a shared key: it has the public half of the key, and its algorithm fits the
key. -/
theorem validate_iff (loaded : Key.Loader.loadPublic pem = .ok key) (supported : key.Supported)
    (data aad : Bytes) :
    (∀ r, validate pem (.bytes data) (.bytes aad) = .ok r ↔
        ∃ m, Valid key data aad m ∧ r = { m with state := .verified }) ∧
      ((∀ m, ¬ Valid key data aad m) → ∃ e, validate pem (.bytes data) (.bytes aad) = .error e ∧
        (e.isCose = true ∨ e = .fault .value ∧ ¬ HeadersWritable .sign1 (.bytes data) ∨
          ∃ fault, Raises (.bytes data) fault .sign1 ∧ e = .fault fault)) ∧
      ∀ alg c lines, Credential.loadVerifier pem alg = .ok (c, lines) →
        c.role ≠ .authenticator ∧ c.key = key.publicHalf ∧ key.Fits c.algorithm := by
  refine ⟨fun r => ?_, fun none => ?_, fun alg c lines loads => ?_⟩
  · rcases validate_cases loaded supported data aad with ⟨m, valid, answer⟩ | ⟨none, e, failed, -⟩
    · rw [answer, Except.ok.injEq]
      constructor
      · rintro rfl
        exact ⟨m, valid, rfl⟩
      · rintro ⟨m', valid', rfl⟩
        obtain ⟨decoded⟩ := valid
        rw [valid'.eq_of_decode decoded]
    · rw [failed]
      exact ⟨nofun, fun ⟨m, valid, _⟩ => absurd valid (none m)⟩
  · rcases validate_cases loaded supported data aad with ⟨m, valid, -⟩ | ⟨-, failed⟩
    · exact absurd valid (none m)
    · exact failed
  · obtain ⟨a, fits, rfl⟩ := Credential.loadVerifier_eq_ok loaded supported loads
    exact ⟨Credential.role_ofPublic_ne fits, rfl, fits⟩

end Libraries

/-- A public key for Ed25519 in its textual encoding. -/
def publicText : String :=
  "-----BEGIN PUBLIC KEY-----\n" ++
  "MCowBQYDK2VwAyEAiojj3XQJ8ZX9UtstPLpdcspnCb8dlBIb83SIAbQPb1w=\n" ++
  "-----END PUBLIC KEY-----\n"

/-- The point of that key. -/
def publicPoint : Bytes :=
  [0x8a, 0x88, 0xe3, 0xdd, 0x74, 0x09, 0xf1, 0x95, 0xfd, 0x52, 0xdb, 0x2d, 0x3c, 0xba, 0x5d, 0x72,
    0xca, 0x67, 0x09, 0xbf, 0x1d, 0x94, 0x12, 0x1b, 0xf3, 0x74, 0x88, 0x01, 0xb4, 0x0f, 0x6f, 0x5c]

/-- A message with the payload 1 that names EdDSA, signed with the private half of that key. -/
def signedBytes : Bytes :=
  [0xd2, 0x84, 0x43, 0xa1, 0x01, 0x27, 0xa0, 0x41, 0x01, 0x58, 0x40,
    0xc6, 0x4f, 0xdc, 0xdb, 0x6a, 0x86, 0xee, 0x33, 0x1d, 0x4e, 0xaf, 0xf3, 0x3a, 0x89, 0x7b, 0xbd,
    0x35, 0x6f, 0xbe, 0x3f, 0x3c, 0xbb, 0xfe, 0x75, 0xbc, 0xd1, 0x6f, 0x69, 0x2e, 0xf7, 0x6e, 0x33,
    0x6f, 0xfd, 0x29, 0xe7, 0xd5, 0x82, 0x09, 0x26, 0x40, 0x1d, 0xd6, 0xa2, 0x6a, 0x46, 0xe0, 0xeb,
    0xe1, 0xca, 0x51, 0x2f, 0xd8, 0x92, 0x5b, 0xc2, 0xb5, 0x39, 0x3d, 0x47, 0xb1, 0xc1, 0xfd, 0x06]

/-- A message that names HMAC 256/256, with a signature of one byte. -/
def taggedBytes : Bytes := [0xd2, 0x84, 0x43, 0xa1, 0x01, 0x05, 0xa0, 0x41, 0x01, 0x41, 0x07]

set_option maxRecDepth 10000 in
theorem loadPublic_publicText :
    Key.Loader.loadPublic publicText = .ok (.octet .ed25519 publicPoint none) := by
  with_unfolding_all rfl

theorem carries_taggedBytes {prot unprot payload last : Value}
    (carries : Carries .sign1 (.bytes taggedBytes) prot unprot payload last) :
    prot = .bytes [0xa1, 0x01, 0x05] ∧ unprot = .map [] ∧ last = .bytes [7] := by
  have read : decodeTagged .sign1 (.bytes taggedBytes) =
      .ok (.bytes [0xa1, 0x01, 0x05], .map [], .bytes [1], .bytes [7]) := by rfl
  cases read.symm.trans (decodeTagged_eq_ok_iff.mpr carries)
  exact ⟨rfl, rfl, rfl⟩

theorem read_taggedHeader :
    Cbor.Reader.read [0xa1, 0x01, 0x05] = .ok (.map [(.int 1, .int 5)]) := by rfl

theorem headersWritable_taggedBytes : HeadersWritable .sign1 (.bytes taggedBytes) := by
  refine ⟨fun prot unprot payload last carries => ?_, nofun⟩
  obtain ⟨rfl, rfl, -⟩ := carries_taggedBytes carries
  refine ⟨?_, rfl⟩
  rintro b v ⟨⟩ read
  cases read_taggedHeader.symm.trans read
  have short {n : Int} (h : n.natAbs < 10) : Text.isWritable n = true :=
    Text.isWritable_of_lt (h.trans (by decide))
  simp [Value.isWritable, Value.entriesAreWritable, @short 1 (by decide), @short 5 (by decide)]

theorem quiet_taggedBytes (fault : Fault) : ¬ Raises (.bytes taggedBytes) fault .sign1 := by
  rintro (⟨bytes, raised, -⟩ | ⟨carries, -, raised⟩)
  · cases bytes
    have read : ∃ v, Cbor.Reader.read taggedBytes = .ok v := ⟨_, rfl⟩
    obtain ⟨v, read⟩ := read
    cases read.symm.trans raised
  · obtain ⟨bytes, -, -⟩ := carries_taggedBytes carries
    cases bytes
    cases read_taggedHeader.symm.trans raised

/-- A message that is signed with the key is validated; one that names an algorithm for shared keys
is refused. -/
theorem validate_iff_ed25519 :
    let key : Key := .octet .ed25519 publicPoint none
    Key.Loader.loadPublic publicText = .ok key ∧ key.Supported ∧
      (∃ r, validate publicText (.bytes signedBytes) (.bytes []) = .ok r ∧ r.state = .verified ∧
        r.payload = .bytes [1]) ∧
      ∃ e, validate publicText (.bytes taggedBytes) (.bytes []) = .error e ∧ e.isCose = true := by
  intro key
  have supported : key.Supported := List.mem_cons_self
  refine ⟨loadPublic_publicText, supported, ?_, ?_⟩
  · obtain ⟨m, decoded, payload⟩ : ∃ m, decode (.bytes signedBytes) = .ok m ∧
        m.payload = .bytes [1] := ⟨_, rfl, rfl⟩
    refine ⟨{ m with state := .verified }, ?_, rfl, payload⟩
    refine ((validate_iff loadPublic_publicText supported signedBytes []).1 _).mpr ⟨m, ?_, rfl⟩
    cases decoded
    refine .intro rfl (.inl rfl) (a := .edDSA) (by decide) rfl ⟨rfl, List.mem_cons_self⟩ rfl rfl
      (by decide) rfl ?_
    show Crypto.ed25519.verify _ _ _ = true
    decide +kernel
  · obtain ⟨m, decoded, named⟩ : ∃ m, decode (.bytes taggedBytes) = .ok m ∧
        m.prot.algorithm = .ok (some .hmac256) := ⟨_, rfl, rfl⟩
    have none : ∀ m, ¬ Valid key taggedBytes [] m := by
      rintro m ⟨decoded', calls, -, -, fits, -⟩
      cases decoded.symm.trans decoded'
      cases calls.unique (.inl named)
      cases fits.1
    obtain ⟨e, failed, why⟩ :=
      (validate_iff loadPublic_publicText supported taggedBytes []).2.1 none
    refine ⟨e, failed, ?_⟩
    rcases why with isCose | ⟨-, unwritable⟩ | ⟨fault, raises, -⟩
    · exact isCose
    · exact absurd headersWritable_taggedBytes unwritable
    · exact absurd raises (quiet_taggedBytes fault)

/-- A message whose protected header is a pattern that is no string. -/
def patternBytes : Bytes := [0xd2, 0x84, 0x43, 0xd8, 0x23, 0x01, 0xa0, 0x41, 0x01, 0x41, 0x07]

/-- The reader fails over such a pattern with an error of types, which validation lets through. The
integers in the headers can be written. -/
theorem validate_iff_pattern :
    HeadersWritable .sign1 (.bytes patternBytes) ∧
      validate publicText (.bytes patternBytes) (.bytes []) = .error (.fault .type) ∧
      (Error.fault .type).isCose = false := by
  have read : decodeTagged .sign1 (.bytes patternBytes) =
      .ok (.bytes [0xd8, 0x23, 0x01], .map [], .bytes [1], .bytes [7]) := by rfl
  have raised : Cbor.Raises [0xd8, 0x23, 0x01] .type := by rfl
  refine ⟨⟨fun prot unprot payload last carries => ?_, nofun⟩, ?_, rfl⟩
  · cases read.symm.trans (decodeTagged_eq_ok_iff.mpr carries)
    refine ⟨?_, rfl⟩
    rintro b v ⟨⟩ answers
    cases raised.symm.trans answers
  · have failed : decode (.bytes patternBytes) = .error (.fault .type) := by rfl
    rw [validate_eq, failed]
    rfl

end Sign1

end Cose
