import Cose.Proofs.Message.Attaching

/-!
# Asking for the bytes to be signed

A caller who signs elsewhere asks a message for the bytes to be signed, and may give the algorithm
that will be used. An unsigned message whose protected bucket names none gets that algorithm first,
and only then its headers are checked and the bytes are put together. So a request can fail with the
algorithm left behind, and then no key of another algorithm signs the message any more. Every other
request that fails leaves the message as it was.

## Main definitions

* `Sign1.Uncovered`: why a message has no bytes to be signed
* `Sign1.LeavesAlgorithm`: the requests that fail after the algorithm has been filled in

## Main results

* `Layer.withAlgorithm_of_copies`: the bucket that an algorithm is filled in
* `Sign1.toBeSigned_failed`: what a request that fails leaves
-/

namespace Cose

/-- **The bucket that an algorithm is filled in**: a copy of the protected one that has the
algorithm stored, behind the entries that were there. -/
theorem Layer.withAlgorithm_of_copies {h : Layer} {alg : Value} {prot : Bucket}
    (copies : h.keepsBucket = false) (filled : h.withAlgorithm alg = .ok prot) :
    ∃ v, normalizeAlgorithm alg = .ok v ∧ prot.find? .alg = some v ∧
      (h.prot.Labelled →
        prot = { isProtected := true, entries := h.prot.entries ++ [(.alg, v)] }) := by
  have absent : h.prot.has .alg = false := (Bool.or_eq_false_iff.mp copies).1
  obtain ⟨-, -, filled⟩ := Except.bind_eq_ok.mp filled
  rw [if_neg (by simp [copies])] at filled
  obtain ⟨copy, copied, filled⟩ := Except.bind_eq_ok.mp filled
  obtain ⟨named, set, filled⟩ := Except.bind_eq_ok.mp filled
  obtain ⟨-, -, ⟨⟩⟩ := Except.bind_eq_ok.mp filled
  obtain ⟨-, l, v, ⟨⟩, rfl, ⟨-, normal⟩ | ⟨other, -⟩⟩ := Bucket.set_cases set
  · refine ⟨v, normal, Bucket.lookup_storeEntry copy.entries, fun labelled => ?_⟩
    rw [labelled.ofSource_bucket absent] at copied
    cases copied
    have fresh : Label.alg ∉ h.prot.entries.map Prod.fst := Bucket.has_eq_false_iff.mp absent
    exact Bucket.eq_of_fields rfl (storeEntry_of_not_mem fresh) rfl
  · exact absurd rfl other

namespace Sign1

variable {m : Sign1} {aad alg : Value} {e : Error}

/-- **Why a message has no bytes to be signed**: its headers break a rule, its protected bucket has
no encoding, or the external data or the payload is no byte string. -/
inductive Uncovered (m : Sign1) (aad : Value) : Error → Prop
  | headers {e : Error} (failed : m.check = .error e) : Uncovered m aad e
  | encoding {e : Error} (checked : m.check = .ok ()) (failed : m.prot.encode = .error e) :
      Uncovered m aad e
  | field {e : Error} {prot : Bytes} (checked : m.check = .ok ())
      (encoded : m.prot.encode = .ok prot) (failed : m.structureFor prot aad = .error e) :
      Uncovered m aad e

/-- A request leaves the algorithm behind: the message is unsigned, its protected bucket neither
names an algorithm nor has its bytes fixed, and the one that is given can be filled in, but the
message has no bytes to be signed then. -/
structure LeavesAlgorithm (m : Sign1) (aad alg : Value) (e : Error) : Prop where
  unsigned : m.state = .unsigned
  given : alg ≠ .null
  copies : m.keepsBucket = false
  exists_uncovered : ∃ named, m.withAlgorithm alg = .ok named ∧
    Uncovered { m with prot := named } aad e

theorem uncovered_iff : (do m.check; m.structureFor (← m.prot.encode) aad) = .error e ↔
    m.Uncovered aad e := by
  constructor
  · intro failed
    rcases checked : m.check with e' | ⟨⟩
    · rw [checked] at failed
      cases failed
      exact .headers checked
    rcases encoded : m.prot.encode with e' | prot
    · rw [checked, encoded] at failed
      cases failed
      exact .encoding checked encoded
    · rw [checked, encoded] at failed
      exact .field checked encoded failed
  · rintro (failed | ⟨checked, failed⟩ | ⟨checked, encoded, failed⟩)
    · rw [failed, Except.error_bind]
    · rw [checked, failed, Except.ok_bind, Except.error_bind]
    · rw [checked, encoded, Except.ok_bind, Except.ok_bind, failed]

/-- A request with an algorithm that an unsigned message can take. -/
theorem toBeSigned_of_withAlgorithm {named : Bucket} (unsigned : m.state = .unsigned)
    (given : alg ≠ .null) (filled : m.withAlgorithm alg = .ok named) (aad : Value) :
    m.toBeSigned aad alg = .pure { m with prot := named }
      (do Layer.check { m.toLayer with prot := named }
          Sign1.structureFor { m with prot := named } (← named.encode) aad) := by
  rw [toBeSigned.eq_def]
  split
  · exact absurd rfl given
  · simp only [if_pos unsigned, filled]

/-- A request that fails leaves the message as it was, or with the algorithm in a copy of its
protected bucket. -/
theorem toBeSigned_cases (failed : (m.toBeSigned aad alg).result = .error e) :
    (m.toBeSigned aad alg).after = m ∧ ¬ m.LeavesAlgorithm aad alg e ∨
      m.LeavesAlgorithm aad alg e ∧ ∃ named, m.withAlgorithm alg = .ok named ∧
        (m.toBeSigned aad alg).after = { m with prot := named } := by
  by_cases given : alg = .null
  · subst given
    exact .inl ⟨rfl, fun leaves => leaves.given rfl⟩
  by_cases unsigned : m.state = .unsigned
  · rcases filled : m.withAlgorithm alg with e' | named
    · refine .inl ⟨?_, fun ⟨_, _, _, _, filled', _⟩ => by cases filled.symm.trans filled'⟩
      rw [toBeSigned.eq_def]
      split
      · rfl
      · simp only [if_pos unsigned, filled, Step.fail_after]
    · have asked := toBeSigned_of_withAlgorithm unsigned given filled aad
      cases keeps : m.keepsBucket with
      | true =>
        refine .inl ⟨?_, fun leaves => by cases keeps.symm.trans leaves.copies⟩
        obtain ⟨-, -, same⟩ := Except.bind_eq_ok.mp filled
        rw [if_pos keeps] at same
        cases same
        rw [asked]
        rfl
      | false =>
        rw [asked] at failed
        exact .inr ⟨⟨unsigned, given, keeps, named, filled, uncovered_iff.mp failed⟩, named, rfl,
          by rw [asked]; rfl⟩
  · refine .inl ⟨?_, fun leaves => unsigned leaves.unsigned⟩
    rw [toBeSigned.eq_def]
    split
    · rfl
    · simp only [if_neg unsigned]
      rfl

/-- A message whose protected bucket names an algorithm is not signed by a key of another one. -/
theorem sign_of_other_algorithm {v : Value} {agent : Agent} {b : Algorithm}
    (named : m.prot.find? .alg = some v) (own : agent.algorithm = .ok b)
    (other : Algorithm.lookup v ≠ .ok b) (aad : Value) :
    ∃ e, (m.sign agent aad).result = .error e := by
  rcases answered : (m.sign agent aad).result with e | ⟨⟩
  · exact ⟨e, rfl⟩
  obtain ⟨w, -, -⟩ := exists_signing answered
  have same : w.algorithm = b :=
    Except.ok.inj ((Agent.signatureAlgorithm_eq_ok w.algorithm_eq).symm.trans own)
  rcases (Layer.withAlgorithm_cases w.prepared.bucket_eq).1 with absent | agrees
  · rw [Bucket.has, named] at absent
    cases absent
  · rw [Bucket.algorithm, named] at agrees
    obtain ⟨a, found, ⟨⟩⟩ := Except.map_eq_ok.mp agrees
    exact absurd (found.trans (congrArg _ same)) other

/-- **What a failed request for the bytes to be signed leaves.** The state, the payload, the
signature and the unprotected bucket are as they were, and so is the protected one, unless the
algorithm that was given is left behind. In that case it stands behind the entries that were there,
and no key of another algorithm signs the message afterwards. -/
theorem toBeSigned_failed (m : Sign1) (aad alg : Value) (e : Error)
    (failed : (m.toBeSigned aad alg).result = .error e) :
    (m.toBeSigned aad alg).after = { m with prot := (m.toBeSigned aad alg).after.prot } ∧
      ((m.toBeSigned aad alg).after = m ↔ ¬ m.LeavesAlgorithm aad alg e) ∧
      (m.LeavesAlgorithm aad alg e → ∃ v, normalizeAlgorithm alg = .ok v ∧
        (m.toBeSigned aad alg).after.prot.find? .alg = some v ∧
        (m.prot.Labelled → (m.toBeSigned aad alg).after.prot =
          { isProtected := true, entries := m.prot.entries ++ [(.alg, v)] }) ∧
        ∀ (agent : Agent) (b : Algorithm) (aad' : Value), agent.algorithm = .ok b →
          Algorithm.lookup v ≠ .ok b →
          ∃ e', ((m.toBeSigned aad alg).after.sign agent aad').result = .error e') := by
  rcases toBeSigned_cases failed with ⟨after, keeps⟩ | ⟨leaves, named, filled, after⟩
  · exact ⟨by rw [after], iff_of_true after keeps, fun leaves => absurd leaves keeps⟩
  obtain ⟨v, normal, stored, entries⟩ := Layer.withAlgorithm_of_copies leaves.copies filled
  refine ⟨by rw [after], iff_of_false (fun same => ?_) (not_not.mpr leaves), fun _ => ?_⟩
  · have absent : m.prot.has .alg = false := (Bool.or_eq_false_iff.mp leaves.copies).1
    have same : named = m.prot := congrArg (fun m : Sign1 => m.prot) (after.symm.trans same)
    rw [← same, Bucket.has, stored] at absent
    cases absent
  · rw [after]
    exact ⟨v, normal, stored, entries, fun agent b aad' own other =>
      sign_of_other_algorithm stored own other aad'⟩

/-- A truth value is no algorithm and is refused before anything is changed; external data that is
no byte string is refused afterwards. -/
theorem toBeSigned_failed_bare :
    (unsignedBare.toBeSigned (.bytes []) (.bool true)).after = unsignedBare ∧
      (unsignedBare.toBeSigned (.int 5) (.algorithm .es256)).after.prot.find? .alg =
        some (.int (-7)) := by
  constructor
  · refine (toBeSigned_failed unsignedBare (.bytes []) (.bool true) (.header .algorithmType)
      (by rfl)).2.1.mpr ?_
    rintro ⟨-, -, -, named, filled, -⟩
    cases filled
  · obtain ⟨-, -, left⟩ := toBeSigned_failed unsignedBare (.int 5) (.algorithm .es256)
      (.argument (.fieldType "external_aad" "int")) (by rfl)
    obtain ⟨v, ⟨⟩, stored, -⟩ := left ⟨rfl, nofun, rfl, _, rfl, uncovered_iff.mp (by rfl)⟩
    exact stored

/-- A request that fails leaves a trace: a key that would have signed the message before does not
sign it any more. -/
theorem toBeSigned_failed_trace :
    let asked := unsignedBare.toBeSigned (.int 5) (.algorithm .es256)
    let signer : Agent := .marking .es384 1
    asked.result = .error (.argument (.fieldType "external_aad" "int")) ∧
      asked.after ≠ unsignedBare ∧ (unsignedBare.sign signer).result = .ok () ∧
      ∃ e, (asked.after.sign signer).result = .error e := by
  intro asked signer
  have stored : asked.after.prot.find? .alg = some (.int (-7)) := by rfl
  have other : Algorithm.lookup (.int (-7)) ≠ .ok .es384 := by decide
  refine ⟨by rfl, fun same => ?_, by rfl, sign_of_other_algorithm stored rfl other _⟩
  rw [same] at stored
  cases stored

end Sign1

end Cose
