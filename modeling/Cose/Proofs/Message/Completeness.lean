import Cose.Proofs.Message.Prepared
import Cose.Proofs.Message.RoundTrip
import Cose.Proofs.Registry

/-!
# What was signed is accepted

Signing is complete: if it answers, the message has an encoded form, what is decoded from it has
the same payload, and checking it with matching keys succeeds, as does checking the message itself.
Three things have to go together for that: signing leaves a message that passes the rules for
headers, what the signature covers stays on the way, and the keys lead to a matching agent on the
other side.

## Main definitions

* `Agent.Matches`, `Keys.Matches`: agents and keys that accept what others have signed
* `Sign1.Signing`, `Mac0.Tagging`: the steps of signing and tagging
* `Sign.Verifies`, `Sign1.Verifies`, `Mac0.Authenticates`: checking succeeds

## Main results

* `Sign.verifyAll_eq_ok`: all entries of a run are accepted, in order
* `Keys.Matches.resolver`: matching keys lead to matching agents
* `Sign.verifies_of_sign`, `Sign1.verifies_of_sign`, `Mac0.authenticates_of_createTag`: what was
  signed is accepted
-/

namespace Cose

open Cbor (maxDepth)

/-! ## Agents that match -/

/-- **An agent accepts what another one has signed or tagged**: both work with one algorithm, which
is registered, and no signature or tag is empty. -/
structure Agent.Matches (a v : Agent) : Prop where
  algorithm : v.algorithm = a.algorithm
  registered : ∀ alg, a.algorithm = .ok alg → alg ∈ Registry.standard.algorithms
  sign : ∀ b s, a.sign b = .ok s → s ≠ [] ∧ v.verify b (.bytes s) = .ok ()
  createTag : ∀ b t, a.createTag b = .ok t → t ≠ [] ∧ v.authenticateTag b (.bytes t) = .ok ()

/-- The algorithms of the registry are found by their identifiers. -/
theorem Algorithm.lookup_of_mem {a : Algorithm} (h : a ∈ Registry.standard.algorithms) :
    Algorithm.lookup (.int a.value) = .ok a :=
  (Registry.consistent_standard.lookup_of_mem h).2.1

namespace Agent

variable {a v : Agent} {alg : Algorithm} {shape : Shape}

theorem signatureAlgorithm_eq_ok (h : a.signatureAlgorithm shape = .ok alg) :
    a.algorithm = .ok alg := by
  obtain ⟨alg', own, h⟩ := Except.bind_eq_ok.mp h
  split at h <;> cases h
  exact own

theorem macAlgorithm_eq_ok (h : a.macAlgorithm = .ok alg) : a.algorithm = .ok alg := by
  obtain ⟨alg', own, h⟩ := Except.bind_eq_ok.mp h
  split at h <;> cases h
  exact own

theorem marking_matches (h : alg ∈ Registry.standard.algorithms) (mark : UInt8) :
    (marking alg mark).Matches (marking alg mark) where
  algorithm := rfl
  registered b hb := by
    cases hb
    exact h
  sign b s hs := by
    cases hs
    exact ⟨List.cons_ne_nil _ _, if_pos rfl⟩
  createTag b t ht := by
    cases ht
    exact ⟨List.cons_ne_nil _ _, if_pos rfl⟩

theorem Matches.signatureAlgorithm (h : a.Matches v) :
    v.signatureAlgorithm shape = a.signatureAlgorithm shape := by
  rw [Agent.signatureAlgorithm, Agent.signatureAlgorithm, h.algorithm]

theorem Matches.macAlgorithm (h : a.Matches v) : v.macAlgorithm = a.macAlgorithm := by
  rw [Agent.macAlgorithm, Agent.macAlgorithm, h.algorithm]

theorem Matches.lookup (h : a.Matches v) (own : a.algorithm = .ok alg) :
    Algorithm.lookup (.int alg.value) = .ok alg :=
  Algorithm.lookup_of_mem (h.registered alg own)

end Agent

theorem Value.isTruthy_bytes {b : Bytes} (h : b ≠ []) : (Value.bytes b).isTruthy = true := by
  cases b with
  | nil => exact absurd rfl h
  | cons => rfl

/-! ## One signature -/

namespace Sign1

variable {m m' : Sign1} {a v : Agent} {aad : Value} {keys : List Value → Prop}

/-- The steps of signing a message with one signer. -/
structure Signing (m : Sign1) (a : Agent) (aad : Value) where
  algorithm : Algorithm
  prepared : m.toLayer.Prepared algorithm
  covered : Bytes
  signature : Bytes
  algorithm_eq : a.signatureAlgorithm .sign1 = .ok algorithm
  checked : m.check = .ok ()
  covered_eq : m.structureFor prepared.bytes aad = .ok covered
  signature_eq : a.sign covered = .ok signature

/-- The message with its signature. -/
def Signing.after (w : m.Signing a aad) : Sign1 :=
  { w.prepared.layer with payload := m.payload, signature := .bytes w.signature, state := .signed }

/-- What is settled before a message is signed. -/
theorem prepare_eq_ok {prot : Bucket} {line : LogLine} (h : m.prepare a = .ok (prot, line)) :
    ∃ alg, a.signatureAlgorithm .sign1 = .ok alg ∧ m.check = .ok () ∧
      m.withAlgorithm (.algorithm alg) = .ok prot ∧ prot.validate = .ok () := by
  rw [prepare] at h
  split at h
  · cases h
  obtain ⟨alg, algorithm_eq, h⟩ := Except.bind_eq_ok.mp h
  obtain ⟨_, checked, h⟩ := Except.bind_eq_ok.mp h
  obtain ⟨bucket, bucket_eq, h⟩ := Except.bind_eq_ok.mp h
  obtain ⟨_, valid, h⟩ := Except.bind_eq_ok.mp h
  obtain ⟨line', -, h⟩ := Except.bind_eq_ok.mp h
  cases h
  exact ⟨alg, algorithm_eq, checked, bucket_eq, valid⟩

theorem sign_eq_ok (h : (m.sign a aad).result = .ok ()) :
    ∃ w : m.Signing a aad, (m.sign a aad).after = w.after := by
  rw [sign] at h ⊢
  split at h
  · cases h
  next prot line prepared =>
  obtain ⟨alg, algorithm_eq, checked, bucket_eq, valid⟩ := prepare_eq_ok prepared
  simp only [Step.logging_result, Step.logging_after] at h ⊢
  split at h
  · cases h
  next signature signed =>
  obtain ⟨bytes, bytes_eq, signed⟩ := Except.bind_eq_ok.mp signed
  obtain ⟨covered, covered_eq, signature_eq⟩ := Except.bind_eq_ok.mp signed
  let w : m.Signing a aad := ⟨alg, ⟨prot, bytes, bucket_eq, valid, bytes_eq⟩, covered, signature,
    algorithm_eq, checked, covered_eq, signature_eq⟩
  refine ⟨w, ?_⟩
  have fixed : prot.finalize = .ok (w.prepared.fixed, bytes) := w.prepared.finalize_eq
  rw [attach] at h ⊢
  split at h
  · cases h
  next present =>
  rw [if_neg present]
  simp only [Option.getD_some, fixed]
  rfl

/-- Checking a message succeeds: it is verified then, and stays the same otherwise. -/
def Verifies (m : Sign1) (v : Agent) (aad : Value) : Prop :=
  m.verify v aad = ⟨{ m with state := .verified }, .ok (), []⟩

theorem Signing.wellFormed (w : m.Signing a aad) (wf : m.WellFormed) : w.after.WellFormed :=
  ⟨w.prepared.wellFormed wf.layer, wf.payload, .bytes _⟩

/-- A message that has what the signature covers, and the signature, is accepted. -/
theorem Signing.verifies (w : m.Signing a aad) (matching : a.Matches v)
    (kept : w.prepared.Kept m'.toLayer) (payload : m'.payload = m.payload)
    (signature : m'.signature = .bytes w.signature) : m'.Verifies v aad := by
  obtain ⟨nonempty, accepted⟩ := matching.sign _ _ w.signature_eq
  have covered : m'.structureFor w.prepared.bytes aad = .ok w.covered := by
    rw [structureFor, payload]
    exact w.covered_eq
  have checked : m'.checkSignature v aad = .ok () := by
    rw [checkSignature, signature, Value.isTruthy_bytes nonempty, kept.encoded]
    simp only [Bool.not_true, Bool.false_eq_true, if_false, Except.ok_bind, covered, accepted]
  rw [Verifies, verify, matching.signatureAlgorithm, w.algorithm_eq]
  simp only [Except.ok_bind, kept.agrees, checked]

/-- **What was signed is accepted**, at once and after it was sent. -/
theorem verifies_of_sign (wf : m.WellFormed) (plain : m.toLayer.Plain keys (maxDepth - 3))
    (simple : ∀ ks, Value.SimpleKeys ks → keys ks) (matching : a.Matches v)
    (h : (m.sign a aad).result = .ok ()) :
    (m.sign a aad).after.Verifies v aad ∧ ∃ b, (m.sign a aad).after.encode = .ok b ∧
      (b.length < 2 ^ 64 → ∃ m', decode (.bytes b) = .ok m' ∧ m'.payload = m.payload ∧
        m'.Verifies v aad) := by
  obtain ⟨w, after⟩ := sign_eq_ok h
  rw [after]
  have labelled := wf.layer.prot.labelled
  have signed := w.wellFormed wf
  have plain_after : w.after.toLayer.Plain keys (maxDepth - 3) := w.prepared.plain labelled plain
  have kept : w.prepared.Kept w.after.toLayer :=
    w.prepared.kept labelled (matching.lookup (Agent.signatureAlgorithm_eq_ok w.algorithm_eq))
  obtain ⟨b, encoded⟩ := exists_encode signed plain_after simple
    (w.prepared.check labelled w.checked) w.prepared.layer_encode
  refine ⟨w.verifies matching kept rfl rfl, b, encoded, fun fits => ?_⟩
  obtain ⟨p, m', decoded, back, payload, signature, -⟩ :=
    decode_encode signed plain_after simple encoded fits
  exact ⟨m', decoded, payload,
    w.verifies matching (kept.readBack signed.layer back) payload signature⟩

end Sign1

/-! ## One tag -/

namespace Mac0

variable {m m' : Mac0} {a v : Agent} {aad : Value} {keys : List Value → Prop}

/-- The steps of tagging a message. -/
structure Tagging (m : Mac0) (a : Agent) (aad : Value) where
  algorithm : Algorithm
  prepared : m.toLayer.Prepared algorithm
  covered : Bytes
  tag : Bytes
  algorithm_eq : a.macAlgorithm = .ok algorithm
  checked : m.check = .ok ()
  covered_eq : m.structureFor prepared.bytes aad = .ok covered
  tag_eq : a.createTag covered = .ok tag

/-- The message with its tag. -/
def Tagging.after (w : m.Tagging a aad) : Mac0 :=
  { w.prepared.layer with payload := m.payload, tag := .bytes w.tag, state := .signed }

/-- What is settled before a message is tagged. -/
theorem prepare_eq_ok {prot : Bucket} {line : LogLine} (h : m.prepare a = .ok (prot, line)) :
    ∃ alg, a.macAlgorithm = .ok alg ∧ m.check = .ok () ∧
      m.withAlgorithm (.algorithm alg) = .ok prot ∧ prot.validate = .ok () := by
  rw [prepare] at h
  split at h
  · cases h
  obtain ⟨alg, algorithm_eq, h⟩ := Except.bind_eq_ok.mp h
  obtain ⟨_, checked, h⟩ := Except.bind_eq_ok.mp h
  obtain ⟨bucket, bucket_eq, h⟩ := Except.bind_eq_ok.mp h
  obtain ⟨_, valid, h⟩ := Except.bind_eq_ok.mp h
  obtain ⟨line', -, h⟩ := Except.bind_eq_ok.mp h
  cases h
  exact ⟨alg, algorithm_eq, checked, bucket_eq, valid⟩

theorem createTag_eq_ok (h : (m.createTag a aad).result = .ok ()) :
    ∃ w : m.Tagging a aad, (m.createTag a aad).after = w.after := by
  rw [createTag] at h ⊢
  split at h
  · cases h
  next prot line prepared =>
  obtain ⟨alg, algorithm_eq, checked, bucket_eq, valid⟩ := prepare_eq_ok prepared
  simp only [Step.logging_result, Step.logging_after] at h ⊢
  split at h
  · cases h
  next tag tagged =>
  obtain ⟨bytes, bytes_eq, tagged⟩ := Except.bind_eq_ok.mp tagged
  obtain ⟨covered, covered_eq, tag_eq⟩ := Except.bind_eq_ok.mp tagged
  let w : m.Tagging a aad := ⟨alg, ⟨prot, bytes, bucket_eq, valid, bytes_eq⟩, covered, tag,
    algorithm_eq, checked, covered_eq, tag_eq⟩
  refine ⟨w, ?_⟩
  have fixed : prot.finalize = .ok (w.prepared.fixed, bytes) := w.prepared.finalize_eq
  simp only [fixed]
  rfl

/-- Checking the tag of a message succeeds: the message is verified then, and stays the same
otherwise. -/
def Authenticates (m : Mac0) (v : Agent) (aad : Value) : Prop :=
  m.authenticateTag v aad = ⟨{ m with state := .verified }, .ok (), []⟩

theorem Tagging.wellFormed (w : m.Tagging a aad) (wf : m.WellFormed) : w.after.WellFormed :=
  ⟨w.prepared.wellFormed wf.layer, wf.payload, .bytes _⟩

/-- A message that has what the tag covers, and the tag, is accepted. -/
theorem Tagging.authenticates (w : m.Tagging a aad) (matching : a.Matches v)
    (kept : w.prepared.Kept m'.toLayer) (payload : m'.payload = m.payload)
    (tag : m'.tag = .bytes w.tag) : m'.Authenticates v aad := by
  obtain ⟨-, accepted⟩ := matching.createTag _ _ w.tag_eq
  have covered : m'.structureFor w.prepared.bytes aad = .ok w.covered := by
    rw [structureFor, payload]
    exact w.covered_eq
  rw [Authenticates, authenticateTag, matching.macAlgorithm, w.algorithm_eq]
  simp only [Except.ok_bind, kept.agrees, kept.encoded, covered, tag, accepted]

/-- **What was tagged is accepted**, at once and after it was sent. -/
theorem authenticates_of_createTag (wf : m.WellFormed)
    (plain : m.toLayer.Plain keys (maxDepth - 3)) (simple : ∀ ks, Value.SimpleKeys ks → keys ks)
    (matching : a.Matches v) (h : (m.createTag a aad).result = .ok ()) :
    (m.createTag a aad).after.Authenticates v aad ∧ ∃ b, (m.createTag a aad).after.encode = .ok b ∧
      (b.length < 2 ^ 64 → ∃ m', decode (.bytes b) = .ok m' ∧ m'.payload = m.payload ∧
        m'.Authenticates v aad) := by
  obtain ⟨w, after⟩ := createTag_eq_ok h
  rw [after]
  have labelled := wf.layer.prot.labelled
  have tagged := w.wellFormed wf
  have plain_after : w.after.toLayer.Plain keys (maxDepth - 3) := w.prepared.plain labelled plain
  have kept : w.prepared.Kept w.after.toLayer :=
    w.prepared.kept labelled (matching.lookup (Agent.macAlgorithm_eq_ok w.algorithm_eq))
  have present : w.after.tag.isTruthy = true :=
    Value.isTruthy_bytes (matching.createTag _ _ w.tag_eq).1
  obtain ⟨b, encoded⟩ := exists_encode tagged plain_after simple present
    (w.prepared.check labelled w.checked) w.prepared.layer_encode
  refine ⟨w.authenticates matching kept rfl rfl, b, encoded, fun fits => ?_⟩
  obtain ⟨p, m', decoded, back, payload, tag, -⟩ :=
    decode_encode tagged plain_after simple encoded fits
  exact ⟨m', decoded, payload,
    w.authenticates matching (kept.readBack tagged.layer back) payload tag⟩

end Mac0

/-! ## One entry -/

namespace Entry

variable {s s' : Entry} {a v : Agent} {body payload aad : Value}

/-- An entry on the other side: the entry itself, or what has come back from its encoded
form. -/
def Arrives (s s' : Entry) : Prop :=
  s' = s ∨ s.ReadBack s'

/-- An entry that an agent has signed, here or on the other side. -/
def SignedBy (a : Agent) (s s' : Entry) : Prop :=
  ∃ (body payload aad : Value) (w : s.Signing a body payload aad), w.after.Arrives s'

namespace Signing

variable (w : s.Signing a body payload aad)

theorem wellFormed (wf : s.WellFormed) : w.after.WellFormed :=
  ⟨w.prepared.wellFormed wf.layer, .bytes _⟩

theorem exists_encode (wf : s.WellFormed) (checked : s.check = .ok ()) :
    ∃ elements, w.after.encode = .ok elements :=
  ⟨_, encode_of_check (w.prepared.check wf.layer.prot.labelled checked) w.prepared.layer_encode⟩

/-- What the signature covers, and the signature, arrive. -/
theorem kept_of_arrives (wf : s.WellFormed) (matching : a.Matches v) (h : w.after.Arrives s') :
    w.prepared.Kept s'.toLayer ∧ s'.signature = .bytes w.signature := by
  have kept : w.prepared.Kept w.after.toLayer := w.prepared.kept wf.layer.prot.labelled
    (matching.lookup (Agent.signatureAlgorithm_eq_ok w.algorithm_eq))
  rcases h with rfl | ⟨⟨p, back⟩, signature⟩
  · exact ⟨kept, rfl⟩
  · exact ⟨kept.readBack (w.wellFormed wf).layer back, signature⟩

/-- An entry that has what the signature covers, and the signature, is accepted. -/
theorem verify_eq_ok (matching : a.Matches v) (kept : w.prepared.Kept s'.toLayer)
    (signature : s'.signature = .bytes w.signature) : s'.verify v body payload aad = .ok () := by
  obtain ⟨nonempty, accepted⟩ := matching.sign _ _ w.signature_eq
  have present : s'.isSigned = true := by
    rw [isSigned, signature]
    exact Value.isTruthy_bytes nonempty
  have covered : toBeSigned s'.prot body payload aad = .ok w.covered := by
    rw [toBeSigned, kept.encoded]
    exact w.covered_eq
  rw [verify, matching.signatureAlgorithm, w.algorithm_eq, Except.ok_bind, kept.agrees,
    Except.ok_bind, present, covered, signature]
  exact accepted

end Signing

end Entry

/-! ## Keys that match

The keys on the other side are looked up in the entries that arrive there, and need not be supplied
in the way of the signers. Keys by key identifier and keys in order know nothing else about an
entry; a function may look at all of it. -/

/-- Keys lead to an agent for an entry of a message with a number of entries. -/
def Keys.LeadsTo (keys : Keys) (count index : Nat) (s : Entry) (a : Agent) : Prop :=
  ∃ resolve, keys.resolver count = .ok resolve ∧ resolve index s = .ok a

/-- **Keys that accept what others have signed** in the given entries: for every entry there is an
agent that matches the one that signs it. -/
inductive Keys.Matches (entries : List Entry) (signers : Keys) : Keys → Prop
  | byKid {verifiers : List (Value × Agent)}
      (each : ∀ i s a, entries[i]? = some s → signers.LeadsTo entries.length i s a →
        s.kid ≠ .null ∧ ∃ v, findAgent? s.kid verifiers = some v ∧ a.Matches v) :
      Matches entries signers (.byKid verifiers)
  | inOrder {verifiers : List Agent} (count : verifiers.length = entries.length)
      (each : ∀ i s a, entries[i]? = some s → signers.LeadsTo entries.length i s a →
        ∃ v, verifiers[i]? = some v ∧ a.Matches v) :
      Matches entries signers (.inOrder verifiers)
  | byFunction {find : Nat → Entry → Except Error (Option Agent)}
      (each : ∀ i s a, entries[i]? = some s → signers.LeadsTo entries.length i s a →
        ∀ s', s.SignedBy a s' → ∃ v, find i s' = .ok (some v) ∧ a.Matches v) :
      Matches entries signers (.byFunction find)

namespace Keys

variable {entries : List Entry} {signers verifiers : Keys} {resolve : Resolver}

theorem resolveByKid_eq_ok {keys : List (Value × Agent)} {i : Nat} {s : Entry} {a : Agent} :
    resolveByKid keys i s = .ok a ↔
      s.kid ≠ .null ∧ s.kid.isHashable = true ∧ findAgent? s.kid keys = some a := by
  have unresolved :
      ((do throw (.noSignerFound (.keyId i (← s.kid.literal?)))) : Except Error Agent) ≠ .ok a := by
    intro h
    obtain ⟨_, -, h⟩ := Except.bind_eq_ok.mp h
    cases h
  rw [resolveByKid]
  split
  · next e => exact ⟨fun h => absurd h unresolved, fun h => absurd e h.1⟩
  · next present =>
    cases hashable : s.kid.isHashable with
    | false => simp
    | true =>
      cases found : findAgent? s.kid keys with
      | none => simpa using unresolved
      | some b => simpa using fun _ => present

theorem resolveInOrder_eq_ok {keys : List Agent} {i : Nat} {s : Entry} {a : Agent} :
    resolveInOrder keys i s = .ok a ↔ keys[i]? = some a := by
  rw [resolveInOrder]
  cases keys[i]? <;> simp

/-- Agents in order match agents in order. -/
theorem Matches.of_forall₂ {as vs : List Agent} (count : vs.length = entries.length)
    (each : List.Forall₂ Agent.Matches as vs) : Matches entries (.inOrder as) (.inOrder vs) := by
  refine .inOrder count ?_
  rintro i s a _ ⟨resolve, resolved, found⟩
  rw [Keys.resolver, if_pos (each.length_eq.trans count)] at resolved
  cases resolved
  exact Forall₂.exists_getElem? each (resolveInOrder_eq_ok.mp found)

/-- **Matching keys lead to matching agents** for entries that pass the rules for headers. -/
theorem Matches.resolver (h : Matches entries signers verifiers)
    (resolved : signers.resolver entries.length = .ok resolve) :
    ∃ resolve', verifiers.resolver entries.length = .ok resolve' ∧
      ∀ i s a, entries[i]? = some s → s.WellFormed → s.check = .ok () → resolve i s = .ok a →
        ∀ s', s.SignedBy a s' → ∃ v, resolve' i s' = .ok v ∧ a.Matches v := by
  cases h with
  | byKid each =>
    refine ⟨_, rfl, ?_⟩
    intro i s a at_i wf checked found s' signed
    obtain ⟨present, v, found', matching⟩ := each i s a at_i ⟨resolve, resolved, found⟩
    obtain ⟨body, payload, aad, w, arrives⟩ := signed
    have same := (w.kept_of_arrives wf matching arrives).1.kid_eq
    have hashable : s.kid.isHashable = true := by
      rcases Layer.kid_cases checked with e | ⟨k, e⟩ <;> rw [e] <;> rfl
    exact ⟨v, resolveByKid_eq_ok.mpr (same ▸ ⟨present, hashable, found'⟩), matching⟩
  | inOrder count each =>
    refine ⟨_, if_pos count, ?_⟩
    intro i s a at_i _ _ found s' _
    obtain ⟨v, found', matching⟩ := each i s a at_i ⟨resolve, resolved, found⟩
    exact ⟨v, resolveInOrder_eq_ok.mpr found', matching⟩
  | byFunction each =>
    refine ⟨_, rfl, ?_⟩
    intro i s a at_i _ _ found s' signed
    obtain ⟨v, found', matching⟩ := each i s a at_i ⟨resolve, resolved, found⟩ s' signed
    exact ⟨v, by rw [resolveByFunction, found']; rfl, matching⟩

end Keys

/-! ## Several signatures -/

namespace Sign

section Run

variable {resolve resolve' : Resolver} {body payload aad : Value} {index : Nat}
  {ss ts ts' : List Entry}

/-- What stands behind an entry of a run. -/
theorem SignedFrom.exists_signing (h : SignedFrom resolve body payload aad index ss ts) {t : Entry}
    (ht : t ∈ ts) :
    ∃ s ∈ ss, s.check = .ok () ∧
      ∃ (a : Agent) (w : s.Signing a body payload aad), t = w.after := by
  induction h with
  | nil => cases ht
  | cons _ checked w _ ih =>
    rcases List.mem_cons.mp ht with rfl | ht
    · exact ⟨_, List.mem_cons_self .., checked, _, w, rfl⟩
    · obtain ⟨s, hs, others⟩ := ih ht
      exact ⟨s, List.mem_cons_of_mem _ hs, others⟩

theorem approach_of_kid (what : String) {s : Entry} {a : Agent} {alg : Algorithm}
    (resolved : resolve index s = .ok a) (own : a.algorithm = .ok alg)
    (kid : s.kid = .null ∨ ∃ k, s.kid = .bytes k) :
    ∃ line, approach what resolve index s = .ok (a, line) := by
  have writable : s.kid.isWritable = true := by
    rcases kid with e | ⟨k, e⟩ <;> rw [e] <;> rfl
  obtain ⟨line, approached⟩ := approach_of_isWritable writable index what alg
  exact ⟨line, approached resolve a resolved own⟩

/-- **All entries of a run are accepted** on the other side, in order. -/
theorem verifyAll_eq_ok (run : SignedFrom resolve body payload aad index ss ts)
    (arrived : List.Forall₂ Entry.Arrives ts ts') (wf : ∀ s ∈ ss, s.WellFormed)
    (matching : ∀ i s a, ss[i]? = some s → s.check = .ok () → resolve (index + i) s = .ok a →
      ∀ s', s.SignedBy a s' → ∃ v, resolve' (index + i) s' = .ok v ∧ a.Matches v) :
    (verifyAll resolve' body payload aad index ts').1 =
      .ok ((List.range' index ss.length).map fun i => ⟨i, none⟩) := by
  -- The run fixes the place of each entry, so the agents are those that signed at these places.
  induction run generalizing ts' with
  | nil =>
    cases arrived
    rfl
  | @cons index a s ss ts resolved checked w rest ih =>
    rcases arrived with _ | ⟨arrives, arrived⟩
    next s' ts' =>
    rw [List.forall_mem_cons] at wf
    obtain ⟨v, resolved', accepts⟩ :=
      matching 0 s a rfl checked resolved s' ⟨_, _, _, w, arrives⟩
    rw [Nat.add_zero] at resolved'
    obtain ⟨kept, signature⟩ := w.kept_of_arrives wf.1 accepts arrives
    have own : v.algorithm = .ok w.algorithm := by
      rw [accepts.algorithm, Agent.signatureAlgorithm_eq_ok w.algorithm_eq]
    have kid := kept.kid_eq ▸ Layer.kid_cases checked
    obtain ⟨line, approached⟩ := approach_of_kid "Verifying" resolved' own kid
    have others := ih arrived wf.2 (by
      intro i s a at_i checked resolved s' signed
      rw [Nat.add_right_comm] at resolved ⊢
      exact matching (i + 1) s a at_i checked resolved s' signed)
    rw [verifyAll, approached]
    simp only [w.verify_eq_ok accepts kept signature, refusalOf, others]
    rfl

end Run

/-- Checking a message succeeds: every entry is reported as valid, in order, and the message is
verified then and stays the same otherwise. -/
def Verifies (m : Sign) (keys : Keys) (aad : Value) : Prop :=
  (m.verify keys aad).result = .ok ((List.range m.entries.length).map fun i => ⟨i, none⟩) ∧
    (m.verify keys aad).after = { m with state := .verified }

variable {m m' : Sign} {signers verifiers : Keys} {aad : Value} {resolve : Resolver} {body : Bytes}
  {entries : List Entry} {keys : List Value → Prop}

/-- A message whose entries have arrived from a run is accepted. -/
theorem verifies_of_run (nonempty : m.entries ≠ []) (wf : ∀ s ∈ m.entries, s.WellFormed)
    (matching : signers.Matches m.entries verifiers)
    (resolved : signers.resolver m.entries.length = .ok resolve)
    (run : SignedFrom resolve (.bytes body) m.payload aad 0 m.entries entries)
    (arrived : List.Forall₂ Entry.Arrives entries m'.entries)
    (encoded : m'.prot.encode = .ok body) (payload : m'.payload = m.payload) :
    m'.Verifies verifiers aad := by
  have count : m'.entries.length = m.entries.length := by rw [← arrived.length_eq, run.length_eq]
  have nonempty : m'.entries.isEmpty = false := by
    rw [← Bool.not_eq_true, List.isEmpty_iff_length_eq_zero, count]
    exact fun h => nonempty (List.eq_nil_of_length_eq_zero h)
  obtain ⟨resolve', resolved', matches'⟩ := matching.resolver resolved
  have agents : ∀ i s a, m.entries[i]? = some s → s.check = .ok () → resolve (0 + i) s = .ok a →
      ∀ s', s.SignedBy a s' → ∃ v, resolve' (0 + i) s' = .ok v ∧ a.Matches v := by
    intro i s a at_i checked found s' signed
    rw [Nat.zero_add] at found ⊢
    exact matches' i s a at_i (wf s (List.mem_of_getElem? at_i)) checked found s' signed
  have outcomes := verifyAll_eq_ok run arrived wf agents
  rw [← payload, ← count, ← List.range_eq_range'] at outcomes
  have accepted (n : Nat) : ((List.range n).map fun i => (⟨i, none⟩ : Outcome)).all
      (fun o => o.refusal.isNone) = true := by
    simp
  rw [Verifies, verify, nonempty, count, resolved', encoded]
  simp only [Bool.false_eq_true, if_false, Except.ok_bind, Except.pure_eq, Step.logging_result,
    Step.logging_after, outcomes, accepted, if_true, count]
  trivial

/-! What signing leaves is well formed, has plain values and passes the rules again, so it has an
encoded form. -/

/-- The message that signing leaves, with the bytes of its protected bucket and its entries. -/
def committed (m : Sign) (body : Bytes) (entries : List Entry) : Sign :=
  { m with prot := m.prot.fix body, entries, state := .signed }

section Committed

variable (wf : m.WellFormed) (body_eq : m.prot.encode = .ok body)
  (run : SignedFrom resolve (.bytes body) m.payload aad 0 m.entries entries)

include wf

theorem committed_encode : (m.committed body entries).prot.encode = .ok body :=
  Bucket.encode_fix wf.layer.isProtected body

include run

theorem committed_plain (plain : m.Plain keys) : (m.committed body entries).Plain keys := by
  refine ⟨⟨plain.layer.prot, plain.layer.unprot⟩, ?_⟩
  intro t ht
  obtain ⟨s, hs, -, a, w, rfl⟩ := run.exists_signing ht
  exact w.prepared.plain (wf.entries s hs).layer.prot.labelled (plain.entries s hs)

include body_eq

theorem committed_wellFormed : (m.committed body entries).WellFormed := by
  refine ⟨⟨wf.layer.prot.fixed_encode body_eq, wf.layer.unprot, wf.layer.isProtected,
    wf.layer.isUnprotected⟩, wf.payload, ?_⟩
  intro t ht
  obtain ⟨s, hs, -, a, w, rfl⟩ := run.exists_signing ht
  exact w.wellFormed (wf.entries s hs)

theorem exists_encode_committed (nonempty : m.entries ≠ []) (checked : m.check = .ok ())
    (plain : m.Plain keys) (simple : ∀ ks, Value.SimpleKeys ks → keys ks) :
    ∃ b, (m.committed body entries).encode = .ok b := by
  have some_left : (m.committed body entries).entries ≠ [] := by
    rw [← List.length_pos_iff] at nonempty ⊢
    exact run.length_eq ▸ nonempty
  refine exists_encode (committed_wellFormed wf body_eq run) (committed_plain wf run plain) simple
    some_left checked (committed_encode wf) ?_
  intro t ht
  obtain ⟨s, hs, checked, a, w, rfl⟩ := run.exists_signing ht
  exact w.exists_encode (wf.entries s hs) checked

end Committed

/-- **What was signed is accepted**, at once and after it was sent. -/
theorem verifies_of_sign (wf : m.WellFormed) (plain : m.Plain keys)
    (simple : ∀ ks, Value.SimpleKeys ks → keys ks) (matching : signers.Matches m.entries verifiers)
    (h : (m.sign signers aad).result = .ok ()) :
    (m.sign signers aad).after.Verifies verifiers aad ∧
      ∃ b, (m.sign signers aad).after.encode = .ok b ∧
        (b.length < 2 ^ 64 → ∃ m', decode (.bytes b) = .ok m' ∧ m'.payload = m.payload ∧
          m'.entries.length = m.entries.length ∧ m'.Verifies verifiers aad) := by
  rcases sign_cases m signers aad with
    ⟨e, failed, -⟩ |
    ⟨nonempty, -, checked, -, resolve, body, entries, resolved, body_eq, run, after⟩
  · exact absurd (failed.symm.trans h) (by simp)
  have after : (m.sign signers aad).after = m.committed body entries := after
  rw [after]
  obtain ⟨b, encoded⟩ := exists_encode_committed wf body_eq run nonempty checked plain simple
  refine ⟨?_, b, encoded, ?_⟩
  · have here : List.Forall₂ Entry.Arrives entries entries :=
      List.forall₂_same.mpr fun t _ => .inl rfl
    exact verifies_of_run nonempty wf.entries matching resolved run here (committed_encode wf) rfl
  · intro fits
    obtain ⟨p, m', decoded, back, payload, backs, -⟩ := decode_encode
      (committed_wellFormed wf body_eq run) (committed_plain wf run plain) simple encoded fits
    have p_eq : p = body := Except.ok.inj (back.encoded.symm.trans (committed_encode wf))
    have there : List.Forall₂ Entry.Arrives entries m'.entries :=
      backs.imp fun t t' back => .inr back
    have count : m'.entries.length = m.entries.length := by rw [← there.length_eq, run.length_eq]
    exact ⟨m', decoded, payload, count, verifies_of_run nonempty wf.entries matching resolved run
      there (p_eq ▸ back.prot_encode) payload⟩

end Sign

/-- The layer without parameters whose protected bucket is finalized. -/
def Layer.bare : Layer where
  prot := { isProtected := true, fixed := some [] }
  unprot := { isProtected := false }

theorem Layer.bare_wellFormed : Layer.bare.WellFormed where
  prot := ⟨Bucket.labelled_empty _ _, fun p hp => by cases hp; exact ⟨rfl, .inl rfl⟩⟩
  unprot := (Bucket.labelled_empty _ _).wellFormed rfl
  isProtected := rfl
  isUnprotected := rfl

end Cose
