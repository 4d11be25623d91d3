import Cose.Message.Interchange
import Cose.Proofs.Credential.Signing
import Cose.Proofs.Credential.Verifying
import Cose.Proofs.Header.Agreement
import Cose.Proofs.Message.Completeness

/-!
# Messages of other implementations

What another implementation says of a message with an ECDSA algorithm is what verification says of
it. A message whose header keeps its order is verified like any other: what is covered are the bytes
of the header as it was written.

## Main definitions

* `Sign1.judgement`: whether a check accepts, where a refusal is no error
* `Sign1.SigningInOrder`: the steps of signing a message whose header keeps its order

## Main results

* `Sign1.checkInOrder_eq`: both say the same of a message
* `Sign1.SigningInOrder.verifies`: a message whose header keeps its order is verified
-/

namespace Cose.Sign1

open Cbor (maxDepth received)

/-- Whether a check accepts; that it refuses is no error. -/
def judgement : Except Error Unit → Except Error Bool
  | .ok () => .ok true
  | .error (.verification _) => .ok false
  | .error e => .error e

/-- The verifier with the public half of a key. -/
def ecdsaVerifier (a : Algorithm) (key : Key) : Credential :=
  ⟨.ecdsaVerifier, a, key.publicHalf, none⟩

variable {m : Sign1} {a : Algorithm} {key : Key} {payload data : Value} {p : Bytes}

/-! ## Checking -/

/-- A received protected bucket is encoded as it came, and the algorithm can be read there. -/
theorem namedAlgorithm_of_decodeProtected [Cbor.Reader] {prot : Value} {b : Bucket}
    (decoded : Bucket.decodeProtected prot = .ok b) (named : b.algorithm = .ok (some a)) :
    ∃ p, prot = .bytes p ∧ b.encode = .ok p ∧ namedAlgorithm p = .ok a := by
  obtain ⟨-, isProtected, p, rfl, fixed⟩ := Bucket.wellFormed_of_decodeProtected decoded
  refine ⟨p, rfl, ?_, ?_⟩
  · rw [Bucket.encode, isProtected, fixed]
    rfl
  · rw [namedAlgorithm, decoded, Except.ok_bind, named]
    rfl

theorem decodeProtected_of_decode [Cbor.Reader] {prot unprot : Value} {h : Layer}
    (decoded : Layer.decode prot unprot = .ok h) : Bucket.decodeProtected prot = .ok h.prot := by
  obtain ⟨b, received, decoded⟩ := Except.bind_eq_ok.mp decoded
  obtain ⟨u, -, decoded⟩ := Except.bind_eq_ok.mp decoded
  simp only at decoded
  split at decoded
  · cases decoded
    exact received
  · cases decoded
  · cases decoded

/-- Where the algorithm agrees, verification comes to the check of the signature. -/
theorem verify_result_of_agrees {agent : Agent} (own : agent.algorithm = .ok a)
    (signs : a.family.isSignature = true)
    (agrees : m.prot.checkAlgorithm (.algorithm a) = .ok ()) (aad : Value) :
    (m.verify agent aad).result = m.checkSignature agent aad := by
  have admitted : agent.signatureAlgorithm .sign1 = .ok a := by
    rw [Agent.signatureAlgorithm, own, Except.ok_bind, if_pos signs]
    rfl
  rw [verify, admitted]
  simp only [Except.ok_bind, agrees]
  split
  · next accepted => exact accepted.symm
  · next failed =>
    split <;> exact failed.symm

/-- What is covered is settled for a received message. -/
theorem exists_structureFor (isPayload : m.payload.IsPayload) (p aad : Bytes) :
    ∃ covered, m.structureFor p (.bytes aad) = .ok covered := by
  rw [structureFor]
  generalize m.payload = payload at isPayload
  cases isPayload <;> exact ⟨_, rfl⟩

/-- A signature of no bytes has not the length that an algorithm takes. -/
theorem exists_refusal_of_empty [Crypto.Primitives] (registered : a ∈ Registry.standard.algorithms)
    (family : a.family = .ecdsa) (key : Key) (covered : Bytes) :
    ∃ r, (ecdsaVerifier a key).verify (.bytes covered) (.bytes []) = .error (.verification r) := by
  obtain ⟨_, _, size, -, -, -, known, -⟩ := Algorithm.exists_of_ecdsa registered family
  have pos := Algorithm.knownSize_pos known
  refine ⟨.length a.name 0 (2 * size), ?_⟩
  simp only [Credential.verify, ecdsaVerifier, Credential.verifyEcdsa, known, Except.ok_bind,
    Credential.splitSignature_bytes]
  rw [if_neg (by simpa using Nat.ne_of_gt pos)]
  rfl

/-- **Another implementation says of a message what verification says of it**, if the message names an
ECDSA algorithm and the key is on a curve that both have. -/
theorem checkInOrder_eq [Cbor.Reader] [Crypto.Primitives] {parameters : Ec2Key}
    (decoded : decode data = .ok m) (named : m.prot.algorithm = .ok (some a))
    (family : a.family = .ecdsa) (onCurve : key.toEc2 = .ok parameters) (aad : Bytes) :
    checkInOrder data key (.bytes aad) =
      judgement (m.verify (ecdsaVerifier a key).agent (.bytes aad)).result := by
  obtain ⟨prot, unprot, -, layer, isPayload, signature_eq, -⟩ := decode_eq_ok decoded
  obtain ⟨p, -, encoded, found⟩ :=
    namedAlgorithm_of_decodeProtected (decodeProtected_of_decode layer) named
  obtain ⟨covered, covers⟩ := exists_structureFor isPayload p aad
  have agrees : m.prot.checkAlgorithm (.algorithm a) = .ok () :=
    Bucket.checkAlgorithm_eq_ok_iff.mpr (.inr named)
  have signs : a.family.isSignature = true := by rw [family]; rfl
  rw [verify_result_of_agrees rfl signs agrees, checkSignature, encoded, Except.ok_bind, covers,
    checkInOrder, decoded]
  rw [structureFor] at covers
  simp only [Except.ok_bind, onCurve, encoded, found, covers]
  rw [signature_eq]
  by_cases empty : m.signature.content = []
  · obtain ⟨r, refused⟩ := exists_refusal_of_empty (Bucket.mem_of_algorithm named) family key covered
    rw [ecdsaVerifier] at refused
    simp only [empty, refused]
    rfl
  · rw [Value.isTruthy_bytes empty]
    rfl

/-! ## Signing -/

/-- The steps of signing a message whose header keeps its order. -/
structure SigningInOrder [Cbor.Reader] [Crypto.Primitives] (payload : Value) (key : Key)
    (parameters : List (Value × Value)) (aad : Value) where
  prot : Bytes
  algorithm : Algorithm
  covered : Bytes
  signature : Bytes
  data : Bytes
  prot_eq : encodeInOrder parameters = .ok prot
  algorithm_eq : namedAlgorithm prot = .ok algorithm
  covered_eq : sigStructure Context.signature1.text (.bytes prot) .null aad payload = .ok covered
  signature_eq : Credential.sign ⟨.ecdsaSigner, algorithm, key, none⟩ (.bytes covered) = .ok signature
  data_eq : encodeTagged .sign1 [.bytes prot, .map [], payload, .bytes signature] = .ok data

theorem signInOrder_eq_ok [Cbor.Reader] [Crypto.Primitives] {parameters : List (Value × Value)}
    {aad : Value} (h : signInOrder payload key parameters aad = .ok m) :
    ∃ w : SigningInOrder payload key parameters aad, decode (.bytes w.data) = .ok m := by
  obtain ⟨_, -, h⟩ := Except.bind_eq_ok.mp h
  obtain ⟨prot, prot_eq, h⟩ := Except.bind_eq_ok.mp h
  obtain ⟨a, algorithm_eq, h⟩ := Except.bind_eq_ok.mp h
  obtain ⟨covered, covered_eq, h⟩ := Except.bind_eq_ok.mp h
  obtain ⟨signature, signature_eq, h⟩ := Except.bind_eq_ok.mp h
  obtain ⟨data, data_eq, decoded⟩ := Except.bind_eq_ok.mp h
  exact ⟨⟨prot, a, covered, signature, data, prot_eq, algorithm_eq, covered_eq, signature_eq,
    data_eq⟩, decoded⟩

/-- **A message whose header keeps its order is verified**, if it can be decoded and the verifier
accepts what the signer has made. -/
theorem SigningInOrder.verifies {parameters : List (Value × Value)} {aad : Value}
    (w : SigningInOrder payload key parameters aad) (isPayload : payload.IsPayload)
    (fits : w.data.length < 2 ^ 64) (family : w.algorithm.family = .ecdsa)
    (matching : Agent.Matches (Credential.agent ⟨.ecdsaSigner, w.algorithm, key, none⟩)
      (ecdsaVerifier w.algorithm key).agent)
    (decoded : decode (.bytes w.data) = .ok m) :
    m.prot.algorithm = .ok (some w.algorithm) ∧ m.payload = payload ∧
      m.Verifies (ecdsaVerifier w.algorithm key).agent aad := by
  have plain : (Value.list [.bytes w.prot, .map [], payload, .bytes w.signature]).Plain
      (fun _ => True) (maxDepth - 1) := by
    refine .list ?_
    simp only [List.forall_mem_cons]
    exact ⟨.bytes _ _, .map trivial nofun nofun, isPayload.plain, .bytes _ _,
      fun v mem => absurd mem List.not_mem_nil⟩
  obtain ⟨prot, unprot, elements, layer, -⟩ := decode_eq_ok decoded
  rw [decodeTagged_encodeTagged plain w.data_eq fits, isPayload.received_eq] at elements
  obtain ⟨rfl, -, payload_eq, signature_eq⟩ : Value.bytes w.prot = prot ∧
      received .plain (.map []) false = unprot ∧ payload = m.payload ∧
      Value.bytes w.signature = m.signature := by
    simpa [received] using elements
  have received := decodeProtected_of_decode layer
  have named : m.prot.algorithm = .ok (some w.algorithm) := by
    obtain ⟨_, read, named⟩ := Except.bind_eq_ok.mp w.algorithm_eq
    cases read.symm.trans received
    obtain ⟨found, named_eq, named⟩ := Except.bind_eq_ok.mp named
    cases found with
    | none => cases named
    | some a =>
      cases named
      exact named_eq
  obtain ⟨_, same, encoded, -⟩ := namedAlgorithm_of_decodeProtected received named
  cases same
  obtain ⟨nonempty, accepted⟩ := matching.sign _ _ w.signature_eq
  refine ⟨named, payload_eq.symm, ?_⟩
  have covers : m.structureFor w.prot aad = .ok w.covered := by
    rw [structureFor, ← payload_eq]
    exact w.covered_eq
  have checked : m.checkSignature (ecdsaVerifier w.algorithm key).agent aad = .ok () := by
    rw [checkSignature, ← signature_eq, Value.isTruthy_bytes nonempty, encoded]
    simp only [Bool.not_true, Bool.false_eq_true, if_false, Except.ok_bind, covers, accepted]
  have admitted : (ecdsaVerifier w.algorithm key).agent.signatureAlgorithm .sign1 =
      .ok w.algorithm := by
    have signs : w.algorithm.family.isSignature = true := by rw [family]; rfl
    exact if_pos signs
  rw [Verifies, verify, admitted]
  simp only [Except.ok_bind, Bucket.checkAlgorithm_eq_ok_iff.mpr (.inr named), checked]

end Cose.Sign1
