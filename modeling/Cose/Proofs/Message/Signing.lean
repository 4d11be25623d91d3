import Cose.Message.Sign
import Cose.Proofs.Header.Labels

/-!
# Signing every entry or none

Signing a message with several signers runs through its entries in order. Nothing is written before
the last signature is there, and writing repeats what has been computed already, so it cannot fail.
An entry is a value here: it stands for an object of its own.

## Main definitions

* `Layer.Prepared`: the protected bucket that a signature covers, and its bytes
* `Entry.Signing`: the steps of signing an entry
* `Sign.SignedFrom`: a run through entries in order

## Main results

* `Sign.computeAll_eq_ok`: what computing and committing the signatures of all entries leaves
* `Sign.sign_cases`: what signing a message leaves
-/

namespace Cose

/-- An agent whose signatures and tags are the data behind a mark. -/
def Agent.marking (a : Algorithm) (mark : UInt8) : Agent where
  algorithm := .ok a
  sign b := .ok (mark :: b)
  verify b v := if v.bytes? = some (mark :: b) then .ok () else .error (.verification .noSignature)
  createTag b := .ok (mark :: b)
  authenticateTag b v :=
    if v.bytes? = some (mark :: b) then .ok () else .error (.verification .authentication)

/-! ## One entry -/

namespace Layer

/-- The protected bucket that is signed with an algorithm. -/
def signedBucket (h : Layer) (a : Algorithm) : Bucket :=
  if h.keepsBucket then h.prot else h.filled a

/-- **What is settled before a layer is signed**: the protected bucket and its bytes. -/
structure Prepared (h : Layer) (a : Algorithm) where
  bucket : Bucket
  bytes : Bytes
  bucket_eq : h.withAlgorithm (.algorithm a) = .ok bucket
  valid : bucket.validate = .ok ()
  bytes_eq : bucket.encode = .ok bytes

namespace Prepared

variable {h : Layer} {a : Algorithm}

/-- What is settled is settled by the layer and the algorithm. -/
instance : Subsingleton (h.Prepared a) where
  allEq := by
    rintro ⟨bucket, bytes, bucket_eq, -, bytes_eq⟩ ⟨bucket', bytes', bucket_eq', -, bytes_eq'⟩
    cases bucket_eq.symm.trans bucket_eq'
    cases bytes_eq.symm.trans bytes_eq'
    rfl

/-- The protected bucket that is kept: its bytes are fixed. -/
def fixed (p : h.Prepared a) : Bucket := p.bucket.fix p.bytes

theorem finalize_eq (p : h.Prepared a) : p.bucket.finalize = .ok (p.fixed, p.bytes) :=
  Bucket.finalize_of_encode p.bytes_eq

theorem bucket_eq_signedBucket (p : h.Prepared a) (labelled : h.prot.Labelled) :
    p.bucket = h.signedBucket a := by
  rw [signedBucket]
  obtain ⟨-, ⟨keeps, e⟩ | ⟨copies, e, -⟩⟩ := withAlgorithm_eq_ok labelled p.bucket_eq
  · rw [if_pos keeps, e]
  · rw [if_neg (by simp [copies]), e]

end Prepared

end Layer

namespace Entry

/-- The steps of signing an entry, up to the signature that the agent returns for the bytes that
are covered. -/
structure Signing (s : Entry) (agent : Agent) (body payload aad : Value) where
  algorithm : Algorithm
  prepared : s.Prepared algorithm
  covered : Bytes
  signature : Bytes
  algorithm_eq : agent.signatureAlgorithm .sign = .ok algorithm
  covered_eq :
    sigStructure Context.signature.text body (.bytes prepared.bytes) aad payload = .ok covered
  signature_eq : agent.sign covered = .ok signature

variable {s : Entry} {agent : Agent} {body payload aad : Value}

/-- An agent signs an entry in one way. -/
instance : Subsingleton (s.Signing agent body payload aad) where
  allEq := by
    rintro ⟨a, p, covered, signature, algorithm_eq, covered_eq, signature_eq⟩
      ⟨a', p', covered', signature', algorithm_eq', covered_eq', signature_eq'⟩
    cases algorithm_eq.symm.trans algorithm_eq'
    cases Subsingleton.elim p p'
    cases covered_eq.symm.trans covered_eq'
    cases signature_eq.symm.trans signature_eq'
    rfl

/-- The entry with its signature. -/
def Signing.after (w : s.Signing agent body payload aad) : Entry :=
  { s with prot := w.prepared.fixed, signature := .bytes w.signature }

theorem compute_eq_ok {prot : Bucket} {signature : Bytes}
    (h : s.compute agent body payload aad = .ok (prot, signature)) :
    ∃ w : s.Signing agent body payload aad, w.prepared.bucket = prot ∧ w.signature = signature := by
  obtain ⟨alg, algorithm_eq, h⟩ := Except.bind_eq_ok.mp h
  obtain ⟨bucket, bucket_eq, h⟩ := Except.bind_eq_ok.mp h
  obtain ⟨_, valid, h⟩ := Except.bind_eq_ok.mp h
  obtain ⟨covered, covers, h⟩ := Except.bind_eq_ok.mp h
  obtain ⟨bytes, bytes_eq, covered_eq⟩ := Except.bind_eq_ok.mp covers
  obtain ⟨signature, signature_eq, h⟩ := Except.bind_eq_ok.mp h
  cases h
  exact ⟨⟨alg, ⟨prot, bytes, bucket_eq, valid, bytes_eq⟩, covered, signature, algorithm_eq,
    covered_eq, signature_eq⟩, rfl, rfl⟩

theorem Signing.commit_eq (w : s.Signing agent body payload aad) :
    s.commit w.prepared.bucket (.bytes w.signature) = ⟨w.after, .ok (), []⟩ := by
  rw [commit, w.prepared.finalize_eq]
  rfl

end Entry

/-! ## All entries -/

namespace Sign

/-- A run through entries in order, the first of them at the given place: each is found an
agent, passes the rules for headers and is signed. -/
inductive SignedFrom (resolve : Resolver) (body payload aad : Value) :
    Nat → List Entry → List Entry → Prop
  | nil (index : Nat) : SignedFrom resolve body payload aad index [] []
  | cons {index : Nat} {agent : Agent} {s : Entry} {ss ts : List Entry}
      (resolved : resolve index s = .ok agent) (checked : s.check = .ok ())
      (w : s.Signing agent body payload aad)
      (rest : SignedFrom resolve body payload aad (index + 1) ss ts) :
      SignedFrom resolve body payload aad index (s :: ss) (w.after :: ts)

section Run

variable {resolve : Resolver} {body payload aad : Value} {index : Nat} {ss ts : List Entry}

theorem SignedFrom.length_eq (h : SignedFrom resolve body payload aad index ss ts) :
    ts.length = ss.length := by
  induction h with
  | nil => rfl
  | cons _ _ _ _ ih => rw [List.length_cons, List.length_cons, ih]

/-- What a run leaves at each place. -/
theorem SignedFrom.getElem? (h : SignedFrom resolve body payload aad index ss ts) {i : Nat}
    {s : Entry} (at_i : ss[i]? = some s) :
    ∃ agent, resolve (index + i) s = .ok agent ∧
      ∃ w : s.Signing agent body payload aad, ts[i]? = some w.after := by
  induction h generalizing i with
  | nil => cases at_i
  | cons resolved _ w _ ih =>
    cases i with
    | zero =>
      cases at_i
      exact ⟨_, resolved, w, rfl⟩
    | succ i =>
      obtain ⟨agent, resolved, w, at_i⟩ := ih at_i
      refine ⟨agent, ?_, w, at_i⟩
      rwa [Nat.add_right_comm] at resolved

theorem approach_eq_ok {what : String} {s : Entry} {agent : Agent} {line : LogLine}
    (h : approach what resolve index s = .ok (agent, line)) : resolve index s = .ok agent := by
  obtain ⟨agent', resolved, h⟩ := Except.bind_eq_ok.mp h
  obtain ⟨alg, -, h⟩ := Except.bind_eq_ok.mp h
  obtain ⟨line', -, h⟩ := Except.bind_eq_ok.mp h
  cases h
  exact resolved

/-- An agent that is found is approached if the key identifier can be written. The line for the log
is the same for all agents with its algorithm. -/
theorem approach_of_isWritable {s : Entry} (writable : s.kid.isWritable = true) (index : Nat)
    (what : String) (a : Algorithm) : ∃ line, ∀ (resolve : Resolver) (agent : Agent),
      resolve index s = .ok agent → agent.algorithm = .ok a →
        approach what resolve index s = .ok (agent, line) := by
  obtain ⟨line, written⟩ : ∃ line, operationLine s!"{what} signature {index}" a s.kid = .ok line := by
    rw [operationLine, Value.literal?, if_pos writable]
    exact ⟨_, rfl⟩
  refine ⟨line, fun resolve agent found own => ?_⟩
  rw [approach, found, Except.ok_bind, own, Except.ok_bind, written]
  rfl

/-- Another agent with the same algorithm is approached with the same line for the log. -/
theorem approach_of_algorithm {what : String} {s : Entry} {agent agent' : Agent} {line : LogLine}
    {resolve' : Resolver} (approached : approach what resolve index s = .ok (agent, line))
    (found : resolve' index s = .ok agent') (same : agent'.algorithm = agent.algorithm) :
    approach what resolve' index s = .ok (agent', line) := by
  obtain ⟨agent₀, -, approached⟩ := Except.bind_eq_ok.mp approached
  obtain ⟨alg, own, approached⟩ := Except.bind_eq_ok.mp approached
  obtain ⟨line₀, written, approached⟩ := Except.bind_eq_ok.mp approached
  cases approached
  rw [approach, found, Except.ok_bind, same, own, Except.ok_bind, written]
  rfl

/-- Once all signatures are computed, committing them goes through. -/
theorem computeAll_eq_ok {results : List (Bucket × Bytes)}
    (h : (computeAll resolve body payload aad index ss).1 = .ok results) :
    ∃ ts, SignedFrom resolve body payload aad index ss ts ∧
      (commitAll ss results).after = ts ∧ (commitAll ss results).result = .ok () := by
  induction ss generalizing index results with
  | nil =>
    cases h
    exact ⟨[], .nil index, rfl, rfl⟩
  | cons s ss ih =>
    rw [computeAll] at h
    split at h
    · cases h
    next agent line approached =>
    simp only at h
    split at h
    · cases h
    next result computed =>
    obtain ⟨rest, hrest, rfl⟩ := Except.map_eq_ok.mp h
    obtain ⟨_, checked, computed⟩ := Except.bind_eq_ok.mp computed
    obtain ⟨w, hb, hs⟩ := Entry.compute_eq_ok computed
    obtain ⟨ts, run, after, ok⟩ := ih hrest
    obtain ⟨prot, signature⟩ := result
    cases hb
    cases hs
    refine ⟨w.after :: ts, .cons (approach_eq_ok approached) checked w run, ?_, ?_⟩
    · simp only [commitAll, w.commit_eq, Step.within_after, after]
    · simp only [commitAll, w.commit_eq, Step.within_result, ok]

end Run

/-! ## The message -/

/-- **Signing a message** fails and leaves it as it was, or fixes its protected bucket and leaves
its entries signed in order. -/
theorem sign_cases (m : Sign) (keys : Keys) (aad : Value) :
    (∃ e, (m.sign keys aad).result = .error e ∧ (m.sign keys aad).after = m) ∨
      m.entries ≠ [] ∧ m.state = .unsigned ∧ m.check = .ok () ∧
        (m.sign keys aad).result = .ok () ∧
        ∃ resolve body entries, keys.resolver m.entries.length = .ok resolve ∧
          m.prot.encode = .ok body ∧
          SignedFrom resolve (.bytes body) m.payload aad 0 m.entries entries ∧
          (m.sign keys aad).after =
            { m with prot := m.prot.fix body, entries, state := .signed } := by
  rw [sign]
  split
  · exact .inl ⟨_, rfl, rfl⟩
  next nonempty =>
  have nonempty : m.entries ≠ [] := by simpa using nonempty
  split
  · exact .inl ⟨_, rfl, rfl⟩
  next unsigned =>
  have unsigned : m.state = .unsigned := not_not.mp unsigned
  have restored : { m with state := .unsigned } = m := by rw [← unsigned]
  split
  · exact .inl ⟨_, rfl, rfl⟩
  next checked =>
  simp only
  split
  · exact .inl ⟨_, rfl, restored⟩
  next resolve body settled =>
  obtain ⟨resolve', resolved, settled⟩ := Except.bind_eq_ok.mp settled
  obtain ⟨body', body_eq, settled⟩ := Except.bind_eq_ok.mp settled
  cases settled
  simp only [Step.logging_after, Step.logging_result]
  split
  · exact .inl ⟨_, rfl, restored⟩
  next results computed =>
  -- From here on entries are written, and nothing can fail any more.
  obtain ⟨entries, run, after, ok⟩ := computeAll_eq_ok computed
  rw [Bucket.finalize_of_encode body_eq]
  simp only [Step.within_after, Step.within_result, ok, after]
  exact .inr ⟨nonempty, unsigned, checked, trivial, resolve, body, entries, resolved, body_eq, run,
    rfl⟩

/-- A message with two entries that are not signed yet. -/
def unsignedPair : Sign where
  prot := { isProtected := true }
  unprot := { isProtected := false }
  payload := .bytes [0]
  entries :=
    let s : Entry :=
      { prot := { isProtected := true, fixed := some [] }, unprot := { isProtected := false },
        signature := .bytes [] }
    [s, s]
  state := .unsigned

end Sign

end Cose
