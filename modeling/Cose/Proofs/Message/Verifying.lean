import Cose.Proofs.Errors
import Cose.Proofs.Message.Signing

/-!
# Verifying every entry

Verification of a message with several signers runs through its entries in order. A signature that
is refused is noted as the outcome of its entry, and the run goes on; every other error ends the run
and is the error of the whole. So each outcome is about its own entry alone, or there are no
outcomes at all.

## Main definitions

* `Entry.Admitted`, `Entry.Accepted`: an entry whose signature is looked at, and one that passes
* `Entry.Aborts`, `Entry.Judged`: the errors that end a run at an entry, and its outcome otherwise
* `Sign.Ends`: the first entry that ends a run
* `Sign.Aborts`: the errors of verifying a message that are not about a signature

## Main results

* `Entry.verdict_eq_error_iff`, `Entry.verdict_eq_ok_iff`: what one step of a run comes to
* `Sign.verifyAll_eq_error_iff`, `Sign.getElem?_of_verifyAll`: what a whole run comes to
* `Sign.verify_outcomes`: what verifying a message answers and leaves
-/

namespace Cose

/-! ## One entry -/

namespace Entry

/-- **An entry is admitted**: an agent is found for it, whose algorithm signs and agrees with the
header. -/
structure Admitted (resolve : Resolver) (index : Nat) (s : Entry) (agent : Agent) : Prop where
  found : ∃ line, Sign.approach "Verifying" resolve index s = .ok (agent, line)
  agrees : ∃ alg, agent.signatureAlgorithm .sign = .ok alg ∧
    s.prot.checkAlgorithm (.algorithm alg) = .ok ()

/-- An entry is accepted by an agent: it has a signature, and the agent accepts that signature
for the structure of the body's protected bytes, its own, the external data and the payload. -/
def Accepted (agent : Agent) (body payload aad : Value) (s : Entry) : Prop :=
  s.isSigned = true ∧
    ∃ own covered, s.prot.encode = .ok own ∧
      sigStructure Context.signature.text body (.bytes own) aad payload = .ok covered ∧
      agent.verify covered s.signature = .ok ()

/-- The errors that end a run at an entry, in the order in which they are met: no agent is
found, or its algorithm cannot be told; the algorithm does not sign; the header disagrees; there are
no bytes to be signed; the agent fails for another reason than the signature. -/
inductive Aborts (resolve : Resolver) (body payload aad : Value) (index : Nat) (s : Entry) :
    Error → Prop
  | key {e : Error} (failed : Sign.approach "Verifying" resolve index s = .error e) :
      Aborts resolve body payload aad index s e
  | family {e : Error} {agent : Agent} {line : LogLine}
      (found : Sign.approach "Verifying" resolve index s = .ok (agent, line))
      (failed : agent.signatureAlgorithm .sign = .error e) :
      Aborts resolve body payload aad index s e
  | algorithm {e : Error} {agent : Agent} {line : LogLine} {alg : Algorithm}
      (found : Sign.approach "Verifying" resolve index s = .ok (agent, line))
      (signs : agent.signatureAlgorithm .sign = .ok alg)
      (failed : s.prot.checkAlgorithm (.algorithm alg) = .error e) :
      Aborts resolve body payload aad index s e
  | encoding {e : Error} {agent : Agent} (admitted : s.Admitted resolve index agent)
      (signed : s.isSigned = true) (failed : toBeSigned s.prot body payload aad = .error e) :
      Aborts resolve body payload aad index s e
  | agent {e : Error} {agent : Agent} {covered : Bytes} (admitted : s.Admitted resolve index agent)
      (signed : s.isSigned = true) (covers : toBeSigned s.prot body payload aad = .ok covered)
      (failed : agent.verify covered s.signature = .error e) (other : e.refusal? = none) :
      Aborts resolve body payload aad index s e

/-- The outcome of checking the signature of an entry: there is none, it is refused, or it is
accepted. -/
inductive Judged (agent : Agent) (body payload aad : Value) (s : Entry) : Option Refusal → Prop
  | unsigned (absent : s.isSigned = false) :
      Judged agent body payload aad s (some .noEntrySignature)
  | refused {e : Error} {r : Refusal} {covered : Bytes} (signed : s.isSigned = true)
      (covers : toBeSigned s.prot body payload aad = .ok covered)
      (failed : agent.verify covered s.signature = .error e) (refusal : e.refusal? = some r) :
      Judged agent body payload aad s (some r)
  | accepted (accepted : s.Accepted agent body payload aad) :
      Judged agent body payload aad s none

/-- What checking an entry comes to: the errors that end a run, or its outcome. -/
def verdict (resolve : Resolver) (body payload aad : Value) (index : Nat) (s : Entry) :
    Except Error (Option Refusal) := do
  let (agent, _) ← Sign.approach "Verifying" resolve index s
  refusalOf (s.verify agent body payload aad)

section

variable {resolve : Resolver} {body payload aad : Value} {index : Nat} {s : Entry} {agent : Agent}
  {r : Option Refusal} {e : Error}

theorem toBeSigned_eq_ok_iff {prot : Bucket} {covered : Bytes} :
    toBeSigned prot body payload aad = .ok covered ↔
      ∃ own, prot.encode = .ok own ∧
        sigStructure Context.signature.text body (.bytes own) aad payload = .ok covered :=
  Except.bind_eq_ok

/-- There is no refusal exactly if the entry is accepted. -/
theorem Judged.eq_none_iff (h : s.Judged agent body payload aad r) :
    r = none ↔ s.Accepted agent body payload aad := by
  cases h with
  | unsigned absent =>
    refine iff_of_false (by simp) ?_
    rintro ⟨signed, -⟩
    exact absurd signed (by simp [absent])
  | refused signed covers failed refusal =>
    refine iff_of_false (by simp) ?_
    rintro ⟨-, own, covered, own_eq, covers', ok⟩
    cases covers.symm.trans (toBeSigned_eq_ok_iff.mpr ⟨own, own_eq, covers'⟩)
    exact absurd (failed.symm.trans ok) (by simp)
  | accepted accepted => exact iff_of_true rfl accepted

theorem toBeSigned_technical (prot : Bucket) (body payload aad : Value) :
    Technical (toBeSigned prot body payload aad) :=
  (Bucket.technical_encode prot).bind fun _ => sigStructure_technical _ _ _ _ _

/-- Once an agent is found, only the family of its algorithm can be at fault. -/
theorem signatureAlgorithm_technical {what : String} {line : LogLine}
    (found : Sign.approach what resolve index s = .ok (agent, line)) (shape : Shape) :
    Technical (agent.signatureAlgorithm shape) := by
  obtain ⟨agent', -, found⟩ := Except.bind_eq_ok.mp found
  obtain ⟨alg, known, found⟩ := Except.bind_eq_ok.mp found
  obtain ⟨line', -, found⟩ := Except.bind_eq_ok.mp found
  cases found
  exact Agent.technical_signatureAlgorithm (known ▸ .ok _) shape

theorem refusalOf_error_of_none (h : e.refusal? = none) :
    refusalOf (.error e) = .error e := by
  rw [refusalOf, h]

theorem refusalOf_error_of_some {f : Refusal} (h : e.refusal? = some f) :
    refusalOf (.error e) = .ok (some f) := by
  rw [refusalOf, h]

theorem verdict_of_approach {line : LogLine}
    (found : Sign.approach "Verifying" resolve index s = .ok (agent, line)) :
    s.verdict resolve body payload aad index = refusalOf (s.verify agent body payload aad) := by
  rw [verdict, found]
  rfl

/-- Verifying an admitted entry comes down to its signature. -/
theorem Admitted.verdict_eq (h : s.Admitted resolve index agent) :
    s.verdict resolve body payload aad index =
      refusalOf (if s.isSigned then do
        let covered ← toBeSigned s.prot body payload aad
        agent.verify covered s.signature
      else .error (.verification .noEntrySignature)) := by
  obtain ⟨line, found⟩ := h.found
  obtain ⟨alg, signs, agrees⟩ := h.agrees
  rw [verdict_of_approach found, verify, signs]
  simp only [Except.ok_bind, agrees]
  cases s.isSigned <;> rfl

/-- What ends a run at an entry is what checking it comes to. -/
theorem Aborts.verdict_eq (h : s.Aborts resolve body payload aad index e) :
    s.verdict resolve body payload aad index = .error e := by
  cases h with
  | key failed => rw [verdict, failed, Except.error_bind]
  | family found failed =>
    have other := Error.refusal?_of_isTechnical (signatureAlgorithm_technical found .sign e failed)
    rw [verdict_of_approach found, verify, failed, Except.error_bind, refusalOf_error_of_none other]
  | algorithm found signs failed =>
    have other := Error.refusal?_of_isTechnical (Bucket.technical_checkAlgorithm _ _ e failed)
    rw [verdict_of_approach found, verify, signs, Except.ok_bind, failed, Except.error_bind,
      refusalOf_error_of_none other]
  | encoding admitted signed failed =>
    have other := Error.refusal?_of_isTechnical (toBeSigned_technical _ _ _ _ e failed)
    rw [admitted.verdict_eq, if_pos signed, failed, Except.error_bind,
      refusalOf_error_of_none other]
  | agent admitted signed covers failed other =>
    rw [admitted.verdict_eq, if_pos signed, covers, Except.ok_bind, failed,
      refusalOf_error_of_none other]

theorem Judged.verdict_eq (admitted : s.Admitted resolve index agent)
    (h : s.Judged agent body payload aad r) :
    s.verdict resolve body payload aad index = .ok r := by
  rw [admitted.verdict_eq]
  cases h with
  | unsigned absent =>
    rw [absent]
    rfl
  | refused signed covers failed refusal =>
    rw [if_pos signed, covers, Except.ok_bind, failed, refusalOf_error_of_some refusal]
  | accepted accepted =>
    obtain ⟨signed, own, covered, own_eq, covers, ok⟩ := accepted
    rw [if_pos signed, toBeSigned_eq_ok_iff.mpr ⟨own, own_eq, covers⟩, Except.ok_bind, ok, refusalOf]

/-- Checking an entry ends the run, or finds an agent that judges it. -/
theorem aborts_or_judged (resolve : Resolver) (body payload aad : Value) (index : Nat) (s : Entry) :
    (∃ e, s.Aborts resolve body payload aad index e) ∨
      ∃ agent r, s.Admitted resolve index agent ∧ s.Judged agent body payload aad r := by
  rcases found : Sign.approach "Verifying" resolve index s with e | ⟨agent, line⟩
  · exact .inl ⟨e, .key found⟩
  rcases signs : agent.signatureAlgorithm .sign with e | alg
  · exact .inl ⟨e, .family found signs⟩
  rcases agrees : s.prot.checkAlgorithm (.algorithm alg) with e | ⟨⟩
  · exact .inl ⟨e, .algorithm found signs agrees⟩
  have admitted : s.Admitted resolve index agent := ⟨⟨line, found⟩, alg, signs, agrees⟩
  cases signed : s.isSigned with
  | false => exact .inr ⟨agent, _, admitted, .unsigned signed⟩
  | true =>
    rcases covers : toBeSigned s.prot body payload aad with e | covered
    · exact .inl ⟨e, .encoding admitted signed covers⟩
    rcases checked : agent.verify covered s.signature with e | ⟨⟩
    · cases refusal : e.refusal? with
      | none => exact .inl ⟨e, .agent admitted signed covers checked refusal⟩
      | some f => exact .inr ⟨agent, _, admitted, .refused signed covers checked refusal⟩
    · obtain ⟨own, own_eq, covers⟩ := toBeSigned_eq_ok_iff.mp covers
      exact .inr ⟨agent, _, admitted, .accepted ⟨signed, own, covered, own_eq, covers, checked⟩⟩

theorem verdict_eq_error_iff :
    s.verdict resolve body payload aad index = .error e ↔
      s.Aborts resolve body payload aad index e := by
  refine ⟨fun failed => ?_, Aborts.verdict_eq⟩
  rcases aborts_or_judged resolve body payload aad index s with
    ⟨e', aborts⟩ | ⟨agent, r, admitted, judged⟩
  · cases failed.symm.trans aborts.verdict_eq
    exact aborts
  · cases failed.symm.trans (judged.verdict_eq admitted)

theorem verdict_eq_ok_iff :
    s.verdict resolve body payload aad index = .ok r ↔
      ∃ agent, s.Admitted resolve index agent ∧ s.Judged agent body payload aad r := by
  constructor
  · intro decided
    rcases aborts_or_judged resolve body payload aad index s with
      ⟨e, aborts⟩ | ⟨agent, r', admitted, judged⟩
    · cases decided.symm.trans aborts.verdict_eq
    · cases decided.symm.trans (judged.verdict_eq admitted)
      exact ⟨agent, admitted, judged⟩
  · rintro ⟨agent, admitted, judged⟩
    exact judged.verdict_eq admitted

end

end Entry

/-! ## All entries -/

namespace Sign

section Run

variable {resolve : Resolver} {body payload aad : Value} {index : Nat} {ss : List Entry}

/-- One step of a run: what the first entry comes to, then the others. -/
theorem verifyAll_cons (s : Entry) :
    (verifyAll resolve body payload aad index (s :: ss)).1 = (do
      let r ← s.verdict resolve body payload aad index
      ((verifyAll resolve body payload aad (index + 1) ss).1).map (⟨index, r⟩ :: ·)) := by
  rw [verifyAll, Entry.verdict]
  cases approach "Verifying" resolve index s with
  | error e => rfl
  | ok found =>
    obtain ⟨agent, line⟩ := found
    simp only [Except.ok_bind]
    cases refusalOf (s.verify agent body payload aad) <;> rfl

/-- **A run that answers has one outcome for each entry**, in its place. -/
theorem getElem?_of_verifyAll {outcomes : List Outcome}
    (h : (verifyAll resolve body payload aad index ss).1 = .ok outcomes) :
    outcomes.length = ss.length ∧ ∀ (i : Nat) (s : Entry), ss[i]? = some s →
      ∃ r, s.verdict resolve body payload aad (index + i) = .ok r ∧
        outcomes[i]? = some ⟨index + i, r⟩ := by
  induction ss generalizing index outcomes with
  | nil =>
    cases h
    exact ⟨rfl, fun i s at_i => by cases at_i⟩
  | cons t ss ih =>
    rw [verifyAll_cons] at h
    obtain ⟨r, decided, h⟩ := Except.bind_eq_ok.mp h
    obtain ⟨rest, checked, rfl⟩ := Except.map_eq_ok.mp h
    obtain ⟨length_eq, each⟩ := ih checked
    refine ⟨by rw [List.length_cons, List.length_cons, length_eq], fun i s at_i => ?_⟩
    cases i with
    | zero =>
      cases at_i
      exact ⟨r, decided, rfl⟩
    | succ i =>
      have at_later := each i s at_i
      rwa [Nat.add_assoc, Nat.add_comm 1 i] at at_later

/-- The error of the first entry that ends a run, if there is one. -/
def Ends (resolve : Resolver) (body payload aad : Value) (index : Nat) (ss : List Entry)
    (e : Error) : Prop :=
  ∃ (i : Nat) (s : Entry), ss[i]? = some s ∧ s.Aborts resolve body payload aad (index + i) e ∧
    ∀ (j : Nat) (t : Entry), j < i → ss[j]? = some t →
      ∀ e', ¬ t.Aborts resolve body payload aad (index + j) e'

theorem ends_nil_iff {e : Error} : ¬ Ends resolve body payload aad index [] e := by
  rintro ⟨i, s, at_i, -⟩
  cases at_i

theorem ends_cons_iff {s : Entry} {e : Error} :
    Ends resolve body payload aad index (s :: ss) e ↔
      s.Aborts resolve body payload aad index e ∨
        (∀ e', ¬ s.Aborts resolve body payload aad index e') ∧
          Ends resolve body payload aad (index + 1) ss e := by
  have place (i : Nat) : index + 1 + i = index + (i + 1) := by omega
  simp only [Ends, place]
  constructor
  · rintro ⟨_ | i, t, at_i, ends, first⟩
    · cases at_i
      exact .inl ends
    · exact .inr ⟨first 0 s i.succ_pos rfl, i, t, at_i, ends, fun j u before at_j =>
        first (j + 1) u (Nat.succ_lt_succ before) at_j⟩
  · rintro (ends | ⟨passes, i, t, at_i, ends, first⟩)
    · exact ⟨0, s, rfl, ends, by simp⟩
    · refine ⟨i + 1, t, at_i, ends, ?_⟩
      rintro (_ | j) u before at_j
      · cases at_j
        exact passes
      · exact first j u (Nat.lt_of_succ_lt_succ before) at_j

/-- **A run fails** exactly with the error of the first entry that ends it. -/
theorem verifyAll_eq_error_iff {e : Error} :
    (verifyAll resolve body payload aad index ss).1 = .error e ↔
      Ends resolve body payload aad index ss e := by
  induction ss generalizing index with
  | nil => exact iff_of_false (by rintro ⟨⟩) ends_nil_iff
  | cons s ss ih =>
    rw [verifyAll_cons, ends_cons_iff, ← ih]
    simp only [← Entry.verdict_eq_error_iff]
    rcases s.verdict resolve body payload aad index with e' | r
    · simp
    · cases (verifyAll resolve body payload aad (index + 1) ss).1 <;> simp [Except.map]

end Run

/-! ## The message -/

/-- The errors of verifying a message that are not about a signature: the keys suit no message
of this kind, the protected bucket has no bytes, or an entry ends the run. -/
inductive Aborts (m : Sign) (keys : Keys) (aad : Value) : Error → Prop
  | keys {e : Error} (failed : keys.resolver m.entries.length = .error e) : Aborts m keys aad e
  | encoding {e : Error} {resolve : Resolver}
      (resolved : keys.resolver m.entries.length = .ok resolve)
      (failed : m.prot.encode = .error e) : Aborts m keys aad e
  | entry {e : Error} {resolve : Resolver} {body : Bytes}
      (resolved : keys.resolver m.entries.length = .ok resolve)
      (body_eq : m.prot.encode = .ok body)
      (ends : Ends resolve (.bytes body) m.payload aad 0 m.entries e) : Aborts m keys aad e

section Message

variable (m : Sign) (keys : Keys) (aad : Value)

/-- Verifying a message that has entries: an error that is not about a signature, or a run that
answers, whose outcomes decide. -/
theorem verify_cases (nonempty : m.entries ≠ []) :
    (∃ e, m.Aborts keys aad e ∧ (m.verify keys aad).result = .error e ∧
        (m.verify keys aad).after = m) ∨
      ∃ resolve body outcomes, keys.resolver m.entries.length = .ok resolve ∧
        m.prot.encode = .ok body ∧
        (verifyAll resolve (.bytes body) m.payload aad 0 m.entries).1 = .ok outcomes ∧
        (m.verify keys aad).result = (if outcomes.all fun o => o.refusal.isNone then .ok outcomes
          else .error (.verificationFailed outcomes)) ∧
        (m.verify keys aad).after =
          { m with state := if outcomes.all fun o => o.refusal.isNone then .verified
            else .verificationFailed } := by
  have present : ¬ m.entries.isEmpty = true := by simpa using nonempty
  rw [verify, if_neg present]
  rcases resolved : keys.resolver m.entries.length with e | resolve
  · exact .inl ⟨e, .keys resolved, rfl, rfl⟩
  rcases body_eq : m.prot.encode with e | body
  · exact .inl ⟨e, .encoding resolved body_eq, rfl, rfl⟩
  simp only [Except.ok_bind, Except.pure_eq, Step.logging_result, Step.logging_after]
  rcases checked : (verifyAll resolve (.bytes body) m.payload aad 0 m.entries).1 with e | outcomes
  · exact .inl ⟨e, .entry resolved body_eq (verifyAll_eq_error_iff.mp checked), rfl, rfl⟩
  · refine .inr ⟨resolve, body, outcomes, rfl, rfl, checked, ?_⟩
    by_cases passed : (outcomes.all fun o => o.refusal.isNone) = true
    · simp only [if_pos passed, and_self]
    · simp only [if_neg passed, Step.fail_result, Step.fail_after, and_self]

theorem verify_of_aborts {e : Error} (nonempty : m.entries ≠ []) (aborts : m.Aborts keys aad e) :
    (m.verify keys aad).result = .error e ∧ (m.verify keys aad).after = m := by
  have present : ¬ m.entries.isEmpty = true := by simpa using nonempty
  rw [verify, if_neg present]
  cases aborts with
  | keys failed =>
    rw [failed]
    exact ⟨rfl, rfl⟩
  | encoding resolved failed =>
    rw [resolved, failed]
    exact ⟨rfl, rfl⟩
  | entry resolved body_eq ends =>
    rw [resolved, body_eq]
    simp only [Except.ok_bind, Except.pure_eq, Step.logging_result, Step.logging_after,
      verifyAll_eq_error_iff.mpr ends]
    exact ⟨rfl, rfl⟩

/-- **Every entry is judged on its own, or none is.** Verification changes the state of a message at
most. An error that is not about a signature is the error of the whole, and leaves the state as it
was. Otherwise there is one outcome for each entry, in its place, without a refusal exactly if the
agent of that entry accepts its signature; if one has a refusal, the outcomes are the error. -/
theorem verify_outcomes (nonempty : m.entries ≠ []) :
    (m.verify keys aad).after = { m with state := (m.verify keys aad).after.state } ∧
      (∀ e, m.Aborts keys aad e →
        (m.verify keys aad).result = .error e ∧ (m.verify keys aad).after.state = m.state) ∧
      ((∀ e, ¬ m.Aborts keys aad e) →
        ∃ resolve body outcomes, keys.resolver m.entries.length = .ok resolve ∧
          m.prot.encode = .ok body ∧
          outcomes.length = m.entries.length ∧
          (∀ (i : Nat) (s : Entry), m.entries[i]? = some s →
            ∃ agent refusal, resolve i s = .ok agent ∧ outcomes[i]? = some ⟨i, refusal⟩ ∧
              (refusal = none ↔ s.Accepted agent (.bytes body) m.payload aad)) ∧
          ((∀ o ∈ outcomes, o.refusal = none) →
            (m.verify keys aad).result = .ok outcomes ∧
              (m.verify keys aad).after.state = .verified) ∧
          ((∃ o ∈ outcomes, o.refusal ≠ none) →
            (m.verify keys aad).result = .error (.verificationFailed outcomes) ∧
              (m.verify keys aad).after.state = .verificationFailed) ∧
          (Outcome.failures outcomes).Sublist outcomes ∧
          ∀ o, o ∈ Outcome.failures outcomes ↔ o ∈ outcomes ∧ o.refusal ≠ none) := by
  rcases verify_cases m keys aad nonempty with
    ⟨e, aborts, failed, after⟩ | ⟨resolve, body, outcomes, resolved, body_eq, checked, result, after⟩
  · refine ⟨by rw [after], fun e' aborts' => ?_, fun none => absurd aborts (none e)⟩
    obtain ⟨failed', after'⟩ := verify_of_aborts m keys aad nonempty aborts'
    exact ⟨failed', by rw [after']⟩
  · refine ⟨by rw [after], fun e aborts => ?_, fun _ => ?_⟩
    · obtain ⟨failed, after⟩ := verify_of_aborts m keys aad nonempty aborts
      exact ⟨failed, by rw [after]⟩
    obtain ⟨length_eq, each⟩ := getElem?_of_verifyAll checked
    refine ⟨resolve, body, outcomes, resolved, body_eq, length_eq, fun i s at_i => ?_, ?_, ?_,
      List.filter_sublist, fun o => ?_⟩
    · obtain ⟨r, decided, at_i⟩ := each i s at_i
      obtain ⟨agent, admitted, judged⟩ := Entry.verdict_eq_ok_iff.mp decided
      obtain ⟨line, found⟩ := admitted.found
      rw [Nat.zero_add] at found at_i
      exact ⟨agent, r, approach_eq_ok found, at_i, judged.eq_none_iff⟩
    · intro passed
      have passed : (outcomes.all fun o => o.refusal.isNone) = true := by simpa using passed
      rw [result, after, if_pos passed]
      exact ⟨rfl, if_pos passed⟩
    · intro failing
      have failing : ¬ (outcomes.all fun o => o.refusal.isNone) = true := by simpa using failing
      rw [result, after, if_neg failing]
      exact ⟨rfl, if_neg failing⟩
    · rw [Outcome.failures, List.mem_filter, Option.isSome_iff_ne_none]

end Message

/-- A message with two entries, of which only the first one is signed. -/
def halfSignedPair : Sign :=
  let covered := encodeStructure .signature [[], [], [], [0]]
  { unsignedPair with
    entries := unsignedPair.entries.modify 0 fun s => { s with signature := .bytes (1 :: covered) } }

/-- A message of which one entry is signed: the outcomes of both entries are the error, unless there
is no agent for the other one. -/
theorem verify_outcomes_half :
    let signer : Agent := .marking .es256 1
    halfSignedPair.entries ≠ [] ∧
      (halfSignedPair.verify (.inOrder [signer, .nobody])).result = .error (.fault .attribute) ∧
      (∀ e, ¬ halfSignedPair.Aborts (.inOrder [signer, signer]) (.bytes []) e) ∧
      ∃ outcomes, (halfSignedPair.verify (.inOrder [signer, signer])).result =
        .error (.verificationFailed outcomes) ∧
        (Outcome.failures outcomes).map Outcome.index = [1] := by
  intro signer
  have nonempty : halfSignedPair.entries ≠ [] := by simp [halfSignedPair, unsignedPair]
  have judged : ∀ e, ¬ halfSignedPair.Aborts (.inOrder [signer, signer]) (.bytes []) e := by
    intro e aborts
    have kept := ((verify_outcomes halfSignedPair _ _ nonempty).2.1 e aborts).2
    exact absurd kept (by decide)
  refine ⟨nonempty, ?_, judged, ?_⟩
  · refine ((verify_outcomes halfSignedPair _ _ nonempty).2.1 _ (.entry rfl rfl ?_)).1
    exact verifyAll_eq_error_iff.mp rfl
  · exact ⟨[⟨0, none⟩, ⟨1, some .noEntrySignature⟩], by rfl, by rfl⟩

end Sign

end Cose
