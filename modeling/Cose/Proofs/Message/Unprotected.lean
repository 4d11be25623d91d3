import Cose.Proofs.Header.Legible
import Cose.Proofs.Message.Single
import Cose.Proofs.Message.Visits

/-!
# Unprotected headers have no say

The unprotected bucket of a message is read in many places: by the rules for headers, in the line
for the log, and to see which label is free for the algorithm. All of these can make an operation
fail before a key is used, and none of them changes what a signature covers. So messages that differ
in their unprotected buckets only are verified with the same outcome; and where both are signed, the
keys get the same bytes and the same protected buckets are kept.

What a key gets is told by what it could do with it: an operation hands bytes to a key if the
answers of the key to these bytes, and no other answers of it, decide the operation.

## Main definitions

* `Hands`: an operation hands bytes to a key
* `Sign1.Alike`, `Mac0.Alike`, `Sign.Alike`: messages that differ in unprotected buckets only

## Main results

* `Hands.unique`: an operation that answers hands out one piece of bytes at most
* `Sign1.hands`, `Mac0.hands`, `Sign.hands`: what is handed out is what the signature covers
* `unprotected_has_no_say`: all operations
-/

namespace Cose

/-! ## What a key gets -/

/-- **An operation hands bytes to a key.** No other answer of the key counts than the one for these
bytes, and the operation fails with what the key fails with. -/
structure Hands {σ : Type} (op : (Bytes → Except Error Bytes) → Step σ Unit)
    (answer : Bytes → Except Error Bytes) (covered : Bytes) : Prop where
  only : ∀ f, f covered = answer covered → op f = op answer
  asked : ∀ f e, f covered = .error e → (op f).result = .error e

/-- An operation that depends on what the key answers for some bytes hands out these bytes. -/
theorem Hands.of_factors {σ : Type} {op : (Bytes → Except Error Bytes) → Step σ Unit}
    {answer : Bytes → Except Error Bytes} {covered : Bytes}
    (factors : ∀ f, op f = op fun _ => f covered)
    (fails : ∀ e, (op fun _ => .error e).result = .error e) : Hands op answer covered := by
  refine ⟨fun f same => ?_, fun f e refuses => ?_⟩
  · rw [factors f, same, ← factors]
  · rw [factors, refuses, fails]

/-- An operation that answers hands out one piece of bytes at most. -/
theorem Hands.unique {σ : Type} {op : (Bytes → Except Error Bytes) → Step σ Unit}
    {answer : Bytes → Except Error Bytes} {b b' : Bytes} (h : Hands op answer b)
    (h' : Hands op answer b') (answered : (op answer).result = .ok ()) : b' = b := by
  by_contra other
  -- A key that refuses the one and answers the other as before would have to fail and to answer.
  let f : Bytes → Except Error Bytes := fun x => if x = b then .error (.fault .value) else answer x
  have refuses : f b = .error (.fault .value) := if_pos rfl
  have same : f b' = answer b' := if_neg other
  have failed := h.asked f _ refuses
  rw [h'.only f same, answered] at failed
  cases failed

namespace Layer

variable {h h' : Layer} {a : Algorithm}

/-- The bucket that is signed depends on the protected bucket only, if there is one. -/
theorem withAlgorithm_congr {alg : Value} {prot prot' : Bucket} (same : h'.prot = h.prot)
    (e : h.withAlgorithm alg = .ok prot) (e' : h'.withAlgorithm alg = .ok prot') :
    prot' = prot := by
  obtain ⟨_, -, e⟩ := Except.bind_eq_ok.mp e
  obtain ⟨_, -, e'⟩ := Except.bind_eq_ok.mp e'
  have keeps : h'.keepsBucket = h.keepsBucket := by rw [keepsBucket, keepsBucket, same]
  rw [keeps, same] at e'
  split at e
  · next kept =>
    rw [if_pos kept] at e'
    cases e
    cases e'
    rfl
  · next copies =>
    rw [if_neg copies] at e'
    obtain ⟨copy, copied, e⟩ := Except.bind_eq_ok.mp e
    obtain ⟨copy', copied', e'⟩ := Except.bind_eq_ok.mp e'
    cases copied.symm.trans copied'
    obtain ⟨filled, set, e⟩ := Except.bind_eq_ok.mp e
    obtain ⟨filled', set', e'⟩ := Except.bind_eq_ok.mp e'
    cases set.symm.trans set'
    obtain ⟨_, -, e⟩ := Except.bind_eq_ok.mp e
    obtain ⟨_, -, e'⟩ := Except.bind_eq_ok.mp e'
    cases e
    cases e'
    rfl

/-- What is signed depends on the bucket only. -/
theorem Prepared.same {a' : Algorithm} (p : h.Prepared a) (p' : h'.Prepared a')
    (bucket : p'.bucket = p.bucket) : p'.bytes = p.bytes ∧ p'.fixed = p.fixed := by
  have bytes : p'.bytes = p.bytes := by
    have encoded := p'.bytes_eq
    rw [bucket, p.bytes_eq] at encoded
    exact (Except.ok.inj encoded).symm
  exact ⟨bytes, by rw [Prepared.fixed, Prepared.fixed, bucket, bytes]⟩

end Layer

/-! ## One signature -/

namespace Sign1

variable {m m' : Sign1} {agent : Agent} {aad : Value}

/-- Messages that differ in the unprotected bucket only. -/
structure Alike (m m' : Sign1) : Prop where
  prot : m'.prot = m.prot
  payload : m'.payload = m.payload
  signature : m'.signature = m.signature
  state : m'.state = m.state

theorem Alike.structureFor (alike : m.Alike m') (p : Bytes) (aad : Value) :
    m'.structureFor p aad = m.structureFor p aad := by
  rw [Sign1.structureFor, Sign1.structureFor, alike.payload]

/-- Verification does not look at the unprotected bucket. -/
theorem Alike.verify (alike : m.Alike m') (agent : Agent) (aad : Value) :
    (m'.verify agent aad).result = (m.verify agent aad).result ∧
      (m.verify agent aad).after.Alike (m'.verify agent aad).after := by
  have checked : m'.checkSignature agent aad = m.checkSignature agent aad := by
    rw [checkSignature, checkSignature, alike.signature, alike.prot]
    simp only [alike.structureFor]
  rw [Sign1.verify, Sign1.verify, alike.prot, checked]
  split
  · exact ⟨rfl, alike⟩
  split
  · exact ⟨rfl, alike.prot, alike.payload, alike.signature, rfl⟩
  split
  · exact ⟨rfl, alike.prot, alike.payload, alike.signature, rfl⟩
  · exact ⟨rfl, alike⟩

/-- **Signing hands out what the signature covers.** -/
theorem hands (answered : (m.sign agent aad).result = .ok ()) :
    ∃ w : m.Signing agent aad, (m.sign agent aad).after = w.after ∧
      Hands (fun f => m.sign { agent with sign := f } aad) agent.sign w.covered := by
  obtain ⟨w, after⟩ := sign_eq_ok answered
  refine ⟨w, after, ?_⟩
  rcases prepared : m.prepare agent with e | ⟨prot, line⟩
  · rw [sign, prepared] at answered
    cases answered
  obtain ⟨alg, own, -, bucket, -⟩ := prepare_eq_ok prepared
  cases own.symm.trans w.algorithm_eq
  cases bucket.symm.trans w.prepared.bucket_eq
  have prepared (f : Bytes → Except Error Bytes) :
      m.prepare { agent with sign := f } = .ok (w.prepared.bucket, line) := prepared
  refine .of_factors (fun f => ?_) fun e => ?_ <;>
    simp only [sign, prepared, w.prepared.bytes_eq, Except.ok_bind, w.covered_eq]
  rfl

/-- A key gets the same bytes where the bucket and the payload are the same. -/
theorem Signing.same (w : m.Signing agent aad) (w' : m'.Signing agent aad)
    (payload : m'.payload = m.payload) (bucket : w'.prepared.bucket = w.prepared.bucket) :
    w'.covered = w.covered ∧ w'.after.prot = w.after.prot := by
  obtain ⟨bytes, fixed⟩ := w.prepared.same w'.prepared bucket
  have covers := w'.covered_eq
  rw [bytes, structureFor, payload, ← structureFor, w.covered_eq] at covers
  exact ⟨(Except.ok.inj covers).symm, fixed⟩

theorem Alike.signing (alike : m.Alike m') (w : m.Signing agent aad) (w' : m'.Signing agent aad) :
    w'.covered = w.covered ∧ w'.after.prot = w.after.prot := by
  have alg : w'.algorithm = w.algorithm :=
    Except.ok.inj (w'.algorithm_eq.symm.trans w.algorithm_eq)
  refine w.same w' alike.payload ?_
  exact Layer.withAlgorithm_congr alike.prot w.prepared.bucket_eq (alg ▸ w'.prepared.bucket_eq)

/-- Where both are signed, the key gets the same bytes, and the same protected bucket is
kept. -/
theorem Alike.sign (alike : m.Alike m') (answered : (m.sign agent aad).result = .ok ())
    (answered' : (m'.sign agent aad).result = .ok ()) :
    ∃ covered, Hands (fun f => m.sign { agent with sign := f } aad) agent.sign covered ∧
      Hands (fun f => m'.sign { agent with sign := f } aad) agent.sign covered ∧
      (m'.sign agent aad).after.prot = (m.sign agent aad).after.prot := by
  obtain ⟨w, after, hands⟩ := hands answered
  obtain ⟨w', after', hands'⟩ := Sign1.hands answered'
  obtain ⟨covered, fixed⟩ := alike.signing w w'
  refine ⟨w.covered, hands, covered ▸ hands', ?_⟩
  rw [after, after', fixed]

end Sign1

/-! ## A tag -/

namespace Mac0

variable {m m' : Mac0} {agent : Agent} {aad : Value}

/-- Messages with a tag that differ in the unprotected bucket only. -/
structure Alike (m m' : Mac0) : Prop where
  prot : m'.prot = m.prot
  payload : m'.payload = m.payload
  tag : m'.tag = m.tag
  state : m'.state = m.state

theorem Alike.structureFor (alike : m.Alike m') (p : Bytes) (aad : Value) :
    m'.structureFor p aad = m.structureFor p aad := by
  rw [Mac0.structureFor, Mac0.structureFor, alike.payload]

/-- Authentication does not look at the unprotected bucket. -/
theorem Alike.authenticateTag (alike : m.Alike m') (agent : Agent) (aad : Value) :
    (m'.authenticateTag agent aad).result = (m.authenticateTag agent aad).result ∧
      (m.authenticateTag agent aad).after.Alike (m'.authenticateTag agent aad).after := by
  rw [Mac0.authenticateTag, Mac0.authenticateTag, alike.prot, alike.tag]
  simp only [alike.structureFor]
  split
  · exact ⟨rfl, alike⟩
  split
  · exact ⟨rfl, alike.prot, alike.payload, rfl, rfl⟩
  split
  · exact ⟨rfl, alike.prot, alike.payload, rfl, rfl⟩
  · exact ⟨rfl, alike⟩

/-- **Tagging hands out what the tag covers.** -/
theorem hands (answered : (m.createTag agent aad).result = .ok ()) :
    ∃ w : m.Tagging agent aad, (m.createTag agent aad).after = w.after ∧
      Hands (fun f => m.createTag { agent with createTag := f } aad) agent.createTag w.covered := by
  obtain ⟨w, after⟩ := createTag_eq_ok answered
  refine ⟨w, after, ?_⟩
  rcases prepared : m.prepare agent with e | ⟨prot, line⟩
  · rw [createTag, prepared] at answered
    cases answered
  obtain ⟨alg, own, -, bucket, -⟩ := prepare_eq_ok prepared
  cases own.symm.trans w.algorithm_eq
  cases bucket.symm.trans w.prepared.bucket_eq
  have prepared (f : Bytes → Except Error Bytes) :
      m.prepare { agent with createTag := f } = .ok (w.prepared.bucket, line) := prepared
  refine .of_factors (fun f => ?_) fun e => ?_ <;>
    simp only [createTag, prepared, w.prepared.bytes_eq, Except.ok_bind, w.covered_eq]
  rfl

/-- A key gets the same bytes where the bucket and the payload are the same. -/
theorem Tagging.same (w : m.Tagging agent aad) (w' : m'.Tagging agent aad)
    (payload : m'.payload = m.payload) (bucket : w'.prepared.bucket = w.prepared.bucket) :
    w'.covered = w.covered ∧ w'.after.prot = w.after.prot := by
  obtain ⟨bytes, fixed⟩ := w.prepared.same w'.prepared bucket
  have covers := w'.covered_eq
  rw [bytes, structureFor, payload, ← structureFor, w.covered_eq] at covers
  exact ⟨(Except.ok.inj covers).symm, fixed⟩

theorem Alike.tagging (alike : m.Alike m') (w : m.Tagging agent aad) (w' : m'.Tagging agent aad) :
    w'.covered = w.covered ∧ w'.after.prot = w.after.prot := by
  have alg : w'.algorithm = w.algorithm :=
    Except.ok.inj (w'.algorithm_eq.symm.trans w.algorithm_eq)
  refine w.same w' alike.payload ?_
  exact Layer.withAlgorithm_congr alike.prot w.prepared.bucket_eq (alg ▸ w'.prepared.bucket_eq)

/-- Where both are tagged, the key gets the same bytes, and the same protected bucket is
kept. -/
theorem Alike.createTag (alike : m.Alike m') (answered : (m.createTag agent aad).result = .ok ())
    (answered' : (m'.createTag agent aad).result = .ok ()) :
    ∃ covered,
      Hands (fun f => m.createTag { agent with createTag := f } aad) agent.createTag covered ∧
      Hands (fun f => m'.createTag { agent with createTag := f } aad) agent.createTag covered ∧
      (m'.createTag agent aad).after.prot = (m.createTag agent aad).after.prot := by
  obtain ⟨w, after, hands⟩ := hands answered
  obtain ⟨w', after', hands'⟩ := Mac0.hands answered'
  obtain ⟨covered, fixed⟩ := alike.tagging w w'
  refine ⟨w.covered, hands, covered ▸ hands', ?_⟩
  rw [after, after', fixed]

end Mac0

/-! ## Entries -/

/-- The key identifiers of a layer are byte strings, in either bucket. -/
structure Layer.KeyIdBytes (h : Layer) : Prop where
  prot : ∀ v, h.prot.find? .kid = some v → v.isBytes = true
  unprot : ∀ v, h.unprot.find? .kid = some v → v.isBytes = true

theorem Layer.KeyIdBytes.isWritable_kid {h : Layer} (bytes : h.KeyIdBytes) :
    h.kid.isWritable = true := by
  have writable {v : Value} (isBytes : v.isBytes = true) : v.isWritable = true := by
    cases v with
    | bytes b => rfl
    | _ => cases isBytes
  exact Layer.isWritable_kid (fun v found => writable (bytes.prot v found))
    (fun v found => writable (bytes.unprot v found))

namespace Entry

variable {s s' : Entry} {agent : Agent} {body payload aad : Value}

/-- Entries that differ in the unprotected bucket only. -/
structure Alike (s s' : Entry) : Prop where
  prot : s'.prot = s.prot
  signature : s'.signature = s.signature

theorem Alike.verify (alike : s.Alike s') :
    s'.verify agent body payload aad = s.verify agent body payload aad := by
  rw [Entry.verify, Entry.verify, isSigned, isSigned, alike.prot, alike.signature]

/-- A key gets the same bytes where the bucket is the same, and returns the same signature. -/
theorem Signing.same (w : s.Signing agent body payload aad)
    (w' : s'.Signing agent body payload aad) (bucket : w'.prepared.bucket = w.prepared.bucket) :
    w'.covered = w.covered ∧ w'.after.prot = w.after.prot ∧ w'.signature = w.signature := by
  obtain ⟨bytes, fixed⟩ := w.prepared.same w'.prepared bucket
  have covers := w'.covered_eq
  rw [bytes, w.covered_eq] at covers
  have covered : w'.covered = w.covered := (Except.ok.inj covers).symm
  have made := w'.signature_eq
  rw [covered, w.signature_eq] at made
  exact ⟨covered, fixed, (Except.ok.inj made).symm⟩

theorem Alike.signing {body' payload' : Value} (alike : s.Alike s') (same_body : body' = body)
    (same_payload : payload' = payload) (w : s.Signing agent body payload aad)
    (w' : s'.Signing agent body' payload' aad) :
    w'.covered = w.covered ∧ w'.after.prot = w.after.prot := by
  subst same_body same_payload
  have alg : w'.algorithm = w.algorithm :=
    Except.ok.inj (w'.algorithm_eq.symm.trans w.algorithm_eq)
  obtain ⟨covered, fixed, -⟩ := w.same w' <|
    Layer.withAlgorithm_congr alike.prot w.prepared.bucket_eq (alg ▸ w'.prepared.bucket_eq)
  exact ⟨covered, fixed⟩

/-- Computing the signature of an entry comes down to what the key answers. -/
theorem Signing.compute_eq (w : s.Signing agent body payload aad)
    (f : Bytes → Except Error Bytes) :
    s.compute { agent with sign := f } body payload aad =
      (f w.covered).map (w.prepared.bucket, ·) := by
  have own : ({ agent with sign := f } : Agent).signatureAlgorithm .sign = .ok w.algorithm :=
    w.algorithm_eq
  have covers : toBeSigned w.prepared.bucket body payload aad = .ok w.covered := by
    rw [toBeSigned, w.prepared.bytes_eq]
    exact w.covered_eq
  rw [compute, own, Except.ok_bind, w.prepared.bucket_eq, Except.ok_bind, w.prepared.valid,
    Except.ok_bind, covers, Except.ok_bind]
  show (do let signature ← f w.covered; pure (w.prepared.bucket, signature)) = _
  cases f w.covered <;> rfl

end Entry

/-! ## All entries -/

namespace Keys

variable {keys : List Agent} {agent : Agent} {i j : Nat} {t : Entry}

theorem resolveInOrder_set_self (bound : i < keys.length) :
    resolveInOrder (keys.set i agent) i t = .ok agent :=
  resolveInOrder_eq_ok.mpr (List.getElem?_set_self bound)

theorem resolveInOrder_set_of_ne (other : j ≠ i) :
    resolveInOrder (keys.set i agent) j t = resolveInOrder keys j t := by
  rw [resolveInOrder, resolveInOrder, List.getElem?_set_ne (Ne.symm other)]

/-- Keys in order have to be as many as the entries. -/
theorem resolver_inOrder_eq_ok {count : Nat} {resolve : Resolver} :
    (inOrder keys).resolver count = .ok resolve ↔
      keys.length = count ∧ resolve = resolveInOrder keys := by
  rw [resolver]
  split
  · next fits => simp [fits, eq_comm]
  · next other => simp [other]

end Keys

namespace Sign

variable {m m' : Sign} {keys : List Agent} {agent : Agent} {aad : Value} {i : Nat}

/-- Messages with several signers that differ in unprotected buckets only, their own ones and
those of their entries. -/
structure Alike (m m' : Sign) : Prop where
  prot : m'.prot = m.prot
  payload : m'.payload = m.payload
  state : m'.state = m.state
  entries : List.Forall₂ Entry.Alike m.entries m'.entries

/-- Keys in order do not look at an entry, and the key identifier is for the log only. -/
theorem verifyVisit_alike {s s' : Entry} (alike : s.Alike s') (bytes : s.KeyIdBytes)
    (bytes' : s'.KeyIdBytes) (keys : List Agent) (body payload aad : Value) (i : Nat) :
    (verifyVisit (Keys.resolveInOrder keys) body payload aad i s').1 =
      (verifyVisit (Keys.resolveInOrder keys) body payload aad i s).1 := by
  cases found : keys[i]? with
  | none => simp only [verifyVisit, approach, Keys.resolveInOrder, found, Except.error_bind]
  | some agent =>
    rcases own : agent.algorithm with e | a
    · simp only [verifyVisit, approach, Keys.resolveInOrder, found, own, Except.ok_bind,
        Except.error_bind]
    · have resolved (t : Entry) : Keys.resolveInOrder keys i t = .ok agent :=
        Keys.resolveInOrder_eq_ok.mpr found
      obtain ⟨line, approached⟩ := approach_of_isWritable bytes.isWritable_kid i "Verifying" a
      obtain ⟨line', approached'⟩ := approach_of_isWritable bytes'.isWritable_kid i "Verifying" a
      simp only [verifyVisit, approached _ agent (resolved s) own,
        approached' _ agent (resolved s') own, alike.verify]

/-- Verification does not look at the unprotected buckets if the keys are supplied in order. -/
theorem Alike.verify (alike : m.Alike m') (bytes : ∀ s ∈ m.entries, s.KeyIdBytes)
    (bytes' : ∀ s ∈ m'.entries, s.KeyIdBytes) (keys : List Agent) (aad : Value) :
    (m'.verify (.inOrder keys) aad).result = (m.verify (.inOrder keys) aad).result ∧
      (m.verify (.inOrder keys) aad).after.Alike (m'.verify (.inOrder keys) aad).after := by
  have count : m'.entries.length = m.entries.length := alike.entries.length_eq.symm
  have runs (resolve : Resolver) (inOrder : resolve = Keys.resolveInOrder keys) (body : Bytes) :
      (verifyAll resolve (.bytes body) m'.payload aad 0 m'.entries).1 =
        (verifyAll resolve (.bytes body) m.payload aad 0 m.entries).1 := by
    rw [verifyAll_eq_visitAll, verifyAll_eq_visitAll, alike.payload, inOrder]
    refine visitAll_result_congr (Forall₂.imp_of_mem alike.entries fun s hs s' hs' same i => ?_)
    exact verifyVisit_alike same (bytes s hs) (bytes' s' hs') keys _ _ _ i
  have empty : m'.entries.isEmpty = m.entries.isEmpty := by
    rw [Bool.eq_iff_iff, List.isEmpty_iff_length_eq_zero, List.isEmpty_iff_length_eq_zero, count]
  rw [Sign.verify, Sign.verify, empty, count, alike.prot]
  split
  · exact ⟨rfl, alike⟩
  rcases resolved : (Keys.inOrder keys).resolver m.entries.length with e | resolve
  · exact ⟨rfl, alike⟩
  rcases m.prot.encode with e | body
  · exact ⟨rfl, alike⟩
  have same := runs resolve (Keys.resolver_inOrder_eq_ok.mp resolved).2 body
  simp only [Except.ok_bind, Except.pure_eq, Step.logging_result, Step.logging_after, same]
  split
  · exact ⟨rfl, alike⟩
  · split
    · exact ⟨rfl, alike.prot, alike.payload, rfl, alike.entries⟩
    · exact ⟨rfl, alike.prot, alike.payload, rfl, alike.entries⟩

section Hands

variable {s t : Entry} {body payload : Value} {j : Nat}

/-- The visit of an entry comes down to the answer of its key. -/
theorem signVisit_set (at_i : keys[i]? = some agent) (w : s.Signing agent body payload aad)
    {r : Bucket × Bytes}
    (visited : (signVisit (Keys.resolveInOrder keys) body payload aad i s).1 = .ok r) :
    ∃ line, ∀ f,
      signVisit (Keys.resolveInOrder (keys.set i { agent with sign := f })) body payload aad i s =
        ((f w.covered).map (w.prepared.bucket, ·), [line]) := by
  obtain ⟨checked, agent', line, approached, -⟩ := signVisit_eq_ok visited
  cases at_i.symm.trans (Keys.resolveInOrder_eq_ok.mp (approach_eq_ok approached))
  refine ⟨line, fun f => ?_⟩
  have bound : i < keys.length := (List.getElem?_eq_some_iff.mp at_i).1
  have found := @Keys.resolveInOrder_set_self keys { agent with sign := f } i s bound
  simp only [signVisit, approach_of_algorithm approached found rfl, checked, Except.ok_bind,
    w.compute_eq f]

/-- No other visit knows that key. -/
theorem signVisit_set_of_ne (other : j ≠ i) :
    signVisit (Keys.resolveInOrder (keys.set i agent)) body payload aad j t =
      signVisit (Keys.resolveInOrder keys) body payload aad j t := by
  simp only [signVisit, approach, Keys.resolveInOrder_set_of_ne other]

theorem Ready.set {bytes : Bytes}
    (ready : m.Ready (.inOrder keys) (Keys.resolveInOrder keys) bytes) (i : Nat) (agent : Agent) :
    m.Ready (.inOrder (keys.set i agent)) (Keys.resolveInOrder (keys.set i agent)) bytes := by
  have fits := (Keys.resolver_inOrder_eq_ok.mp ready.resolved).1
  refine { ready with resolved := Keys.resolver_inOrder_eq_ok.mpr ⟨?_, rfl⟩ }
  rw [List.length_set, fits]

/-- **A run of visits that do not fail hands out what the signature of an entry covers.** -/
theorem Ready.hands {bytes : Bytes}
    (ready : m.Ready (.inOrder keys) (Keys.resolveInOrder keys) bytes)
    (passes : ∀ (j : Nat) (t : Entry), m.entries[j]? = some t →
      ∃ r, (signVisit (Keys.resolveInOrder keys) (.bytes bytes) m.payload aad j t).1 = .ok r)
    (there : m.entries[i]? = some s) (at_i : keys[i]? = some agent)
    (w : s.Signing agent (.bytes bytes) m.payload aad) :
    Hands (fun f => m.sign (.inOrder (keys.set i { agent with sign := f })) aad) agent.sign
      w.covered := by
  obtain ⟨r, visited⟩ := passes i s there
  obtain ⟨line, here⟩ := signVisit_set at_i w visited
  refine ⟨fun f same => ?_, fun f e refuses => ?_⟩
  · have resolved := (ready.set i { agent with sign := f }).resolved
    refine sign_congr (ready.set i agent).resolved resolved fun body encoded j t at_j => ?_
    cases ready.encoded.symm.trans encoded
    by_cases place : j = i
    · subst place
      cases there.symm.trans at_j
      rw [here f, here agent.sign, same]
    · rw [signVisit_set_of_ne place, signVisit_set_of_ne place]
  · have refused : (signVisit (Keys.resolveInOrder (keys.set i { agent with sign := f }))
        (.bytes bytes) m.payload aad (0 + i) s).1 = .error e := by
      rw [Nat.zero_add, here, refuses]
      rfl
    obtain ⟨e', ends, rfl | ⟨j, t, before, at_j, failed⟩⟩ := visitAll_eq_error there refused
    · exact (ready.set i { agent with sign := f }).sign_result ends
    · obtain ⟨r, passed⟩ := passes j t at_j
      rw [Nat.zero_add, signVisit_set_of_ne (Nat.ne_of_lt before), passed] at failed
      cases failed

end Hands

/-- **Signing hands out, for each entry, what its signature covers.** -/
theorem hands (answered : (m.sign (.inOrder keys) aad).result = .ok ())
    (at_i : keys[i]? = some agent) :
    ∃ s body, m.entries[i]? = some s ∧ m.prot.encode = .ok body ∧
      (m.sign (.inOrder keys) aad).after.prot = m.prot.fix body ∧
      ∃ w : s.Signing agent (.bytes body) m.payload aad,
        (m.sign (.inOrder keys) aad).after.entries[i]? = some w.after ∧
        Hands (fun f => m.sign (.inOrder (keys.set i { agent with sign := f })) aad) agent.sign
          w.covered := by
  obtain ⟨resolve, body, ready, passes⟩ := ready_of_sign answered
  obtain ⟨fits, rfl⟩ := Keys.resolver_inOrder_eq_ok.mp ready.resolved
  obtain ⟨s, there⟩ : ∃ s, m.entries[i]? = some s := by
    have bound : i < m.entries.length := fits ▸ (List.getElem?_eq_some_iff.mp at_i).1
    exact ⟨_, List.getElem?_eq_getElem bound⟩
  rcases sign_cases m (.inOrder keys) aad with
    ⟨e, failed, -⟩ | ⟨-, -, -, -, resolve₀, body₀, entries, resolved₀, encoded₀, run, after⟩
  · exact absurd (failed.symm.trans answered) (by simp)
  cases ready.resolved.symm.trans resolved₀
  cases ready.encoded.symm.trans encoded₀
  obtain ⟨agent₀, found, w, signed⟩ := run.getElem? there
  rw [Nat.zero_add] at found
  cases at_i.symm.trans (Keys.resolveInOrder_eq_ok.mp found)
  exact ⟨s, body, there, ready.encoded, by rw [after], w, by rw [after]; exact signed,
    ready.hands passes there at_i w⟩

/-- Where both are signed, the keys get the same bytes, and the same protected buckets are
kept. -/
theorem Alike.sign (alike : m.Alike m') (answered : (m.sign (.inOrder keys) aad).result = .ok ())
    (answered' : (m'.sign (.inOrder keys) aad).result = .ok ()) (at_i : keys[i]? = some agent) :
    ∃ covered,
      Hands (fun f => m.sign (.inOrder (keys.set i { agent with sign := f })) aad) agent.sign
        covered ∧
      Hands (fun f => m'.sign (.inOrder (keys.set i { agent with sign := f })) aad) agent.sign
        covered ∧
      (m'.sign (.inOrder keys) aad).after.prot = (m.sign (.inOrder keys) aad).after.prot ∧
      ∃ t t', (m.sign (.inOrder keys) aad).after.entries[i]? = some t ∧
        (m'.sign (.inOrder keys) aad).after.entries[i]? = some t' ∧ t'.prot = t.prot := by
  obtain ⟨s, body, there, encoded, prot, w, after, hands⟩ := hands answered at_i
  obtain ⟨s', body', there', encoded', prot', w', after', hands'⟩ := Sign.hands answered' at_i
  obtain ⟨_, at_i', same⟩ := Forall₂.exists_getElem? alike.entries there
  cases there'.symm.trans at_i'
  rw [alike.prot] at encoded' prot'
  cases encoded.symm.trans encoded'
  obtain ⟨covered, fixed⟩ := same.signing rfl alike.payload w w'
  exact ⟨w.covered, hands, covered ▸ hands', prot'.trans prot.symm, w.after, w'.after, after,
    after', fixed⟩

end Sign

/-! ## All operations -/

/-- **Unprotected headers have no say.** Two messages may differ in their unprotected buckets, in
any way and whether they break a rule or not; in a message with several signers, the key identifiers
of the entries are byte strings. With the same keys, given in the order of the entries, both are
verified with the same answer or error, and come to the same state. If both are signed, each key
gets the same bytes from both, and the protected buckets that are kept are the same. -/
theorem unprotected_has_no_say (aad : Value) :
    (∀ (m m' : Sign1) (agent : Agent), m.Alike m' →
      ((m'.verify agent aad).result = (m.verify agent aad).result ∧
        (m'.verify agent aad).after.state = (m.verify agent aad).after.state) ∧
      ((m.sign agent aad).result = .ok () → (m'.sign agent aad).result = .ok () → ∃ covered,
        Hands (fun f => m.sign { agent with sign := f } aad) agent.sign covered ∧
        Hands (fun f => m'.sign { agent with sign := f } aad) agent.sign covered ∧
        (m'.sign agent aad).after.prot = (m.sign agent aad).after.prot)) ∧
    (∀ (m m' : Mac0) (agent : Agent), m.Alike m' →
      ((m'.authenticateTag agent aad).result = (m.authenticateTag agent aad).result ∧
        (m'.authenticateTag agent aad).after.state = (m.authenticateTag agent aad).after.state) ∧
      ((m.createTag agent aad).result = .ok () →
        (m'.createTag agent aad).result = .ok () → ∃ covered,
        Hands (fun f => m.createTag { agent with createTag := f } aad) agent.createTag covered ∧
        Hands (fun f => m'.createTag { agent with createTag := f } aad) agent.createTag covered ∧
        (m'.createTag agent aad).after.prot = (m.createTag agent aad).after.prot)) ∧
    ∀ (m m' : Sign) (keys : List Agent), m.Alike m' →
      ((∀ s ∈ m.entries, s.KeyIdBytes) → (∀ s ∈ m'.entries, s.KeyIdBytes) →
        (m'.verify (.inOrder keys) aad).result = (m.verify (.inOrder keys) aad).result ∧
        (m'.verify (.inOrder keys) aad).after.state = (m.verify (.inOrder keys) aad).after.state) ∧
      ((m.sign (.inOrder keys) aad).result = .ok () →
        (m'.sign (.inOrder keys) aad).result = .ok () →
        ∀ (i : Nat) (agent : Agent), keys[i]? = some agent → ∃ covered,
          Hands (fun f => m.sign (.inOrder (keys.set i { agent with sign := f })) aad)
            agent.sign covered ∧
          Hands (fun f => m'.sign (.inOrder (keys.set i { agent with sign := f })) aad)
            agent.sign covered ∧
          (m'.sign (.inOrder keys) aad).after.prot = (m.sign (.inOrder keys) aad).after.prot ∧
          ∃ t t', (m.sign (.inOrder keys) aad).after.entries[i]? = some t ∧
            (m'.sign (.inOrder keys) aad).after.entries[i]? = some t' ∧ t'.prot = t.prot) := by
  refine ⟨fun m m' agent alike => ⟨?_, alike.sign⟩, fun m m' agent alike => ⟨?_, alike.createTag⟩,
    fun m m' keys alike => ⟨fun bytes bytes' => ?_, fun answered answered' i agent at_i => ?_⟩⟩
  · obtain ⟨result, after⟩ := alike.verify agent aad
    exact ⟨result, after.state⟩
  · obtain ⟨result, after⟩ := alike.authenticateTag agent aad
    exact ⟨result, after.state⟩
  · obtain ⟨result, after⟩ := alike.verify bytes bytes' keys aad
    exact ⟨result, after.state⟩
  · exact alike.sign answered answered' at_i

/-- The same message without unprotected headers, and with a key identifier. Both are signed, and
the key gets the same bytes. A message with two entries, of which one is signed, is judged the same
with and without them. -/
theorem unprotected_has_no_say_kid :
    let prot : Bucket := { isProtected := true, fixed := some [] }
    let identified : Bucket := { isProtected := false, entries := [(.kid, .bytes [7])] }
    let signer : Agent := .marking .es256 1
    let m : Sign1 := { prot, unprot := { isProtected := false }, payload := .bytes [0],
                       signature := .bytes [], state := .unsigned }
    let m' : Sign1 := { m with unprot := identified }
    let pair : Sign := { Sign.halfSignedPair with
      entries := Sign.halfSignedPair.entries.map fun s => { s with unprot := identified } }
    (∃ covered, Hands (fun f => m.sign { signer with sign := f } (.bytes [])) signer.sign covered ∧
      Hands (fun f => m'.sign { signer with sign := f } (.bytes [])) signer.sign covered) ∧
    (pair.verify (.inOrder [signer, signer])).result =
      (Sign.halfSignedPair.verify (.inOrder [signer, signer])).result := by
  intro prot identified signer m m' pair
  obtain ⟨single, -, several⟩ := unprotected_has_no_say (.bytes [])
  constructor
  · obtain ⟨covered, hands, hands', -⟩ :=
      (single m m' signer ⟨rfl, rfl, rfl, rfl⟩).2 (by rfl) (by rfl)
    exact ⟨covered, hands, hands'⟩
  · have alike : Sign.halfSignedPair.Alike pair :=
      ⟨rfl, rfl, rfl, .cons ⟨rfl, rfl⟩ (.cons ⟨rfl, rfl⟩ .nil)⟩
    refine ((several _ _ [signer, signer] alike).1 ?_ ?_).1
    · intro s mem
      have bare : s.prot.entries = [] ∧ s.unprot.entries = [] := by
        simp [Sign.halfSignedPair, Sign.unsignedPair] at mem
        rcases mem with rfl | rfl <;> exact ⟨rfl, rfl⟩
      constructor <;> simp [Bucket.find?, bare]
    · intro s mem
      have only : s.prot.entries = [] ∧ s.unprot = identified := by
        simp [pair, Sign.halfSignedPair, Sign.unsignedPair] at mem
        rcases mem with rfl | rfl <;> exact ⟨rfl, rfl⟩
      constructor
      · simp [Bucket.find?, only]
      · intro v found
        rw [only.2] at found
        cases found
        rfl

end Cose
