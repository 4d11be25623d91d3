import Cose.Proofs.Header.Agreement
import Cose.Proofs.Message.Unprotected

/-!
# Keys and the algorithms that headers name

A key works with one algorithm, and so does a header that names one. Whoever signs or verifies with
a key of another family, or with a key whose algorithm is not the one in the header, gets an error
before the key is used: whatever the key would answer, nothing changes and the error is the same.

A message with one signature and an entry take the families that sign, a message with a tag takes
the one that tags. When a message with several signers is signed or verified as a whole, its entries
come in order: an entry whose key does not agree with its header ends the whole run, unless an entry
before it has ended it already.

## Main definitions

* `SigningAgrees`, `CheckingAgrees`: operations that use a key only if the header agrees
* `Sign.SameBut`: keys of which one entry has another one, with the same algorithm
* `Sign.FailsBefore`, `Sign.Refuses`: the errors that precede the use of the key of an entry, and
  those that precede any use of the keys
* `Sign.SigningAgreesAt`, `Sign.CheckingAgreesAt`: the same of an entry when the message is signed
  or verified as a whole

## Main results

* `Sign.sign_fails`, `Sign.verify_fails`: an entry that a run does not get past
* `Sign1.signing_agrees`, `Mac0.tagging_agrees`, `Entry.signing_agrees`, `Sign.signing_agrees_at`:
  operations that sign, and `checking_agrees` for those that check
-/

namespace Cose

/-! ## Operations that use a key -/

/-- An operation does not ask a key: it does the same with any other one that works with the same
algorithm. -/
def Unasked {σ α : Type} (op : Agent → Step σ α) (agent : Agent) : Prop :=
  ∀ agent', agent'.algorithm = agent.algorithm → op agent' = op agent

/-- An operation that hands bytes to a key asks it. -/
theorem Hands.not_unasked {σ : Type} {op : Agent → Step σ Unit} {agent : Agent}
    {answer : Bytes → Except Error Bytes} {b : Bytes} (key : (Bytes → Except Error Bytes) → Agent)
    (h : Hands (fun f => op (key f)) answer b) (same : ∀ f, (key f).algorithm = agent.algorithm) :
    ¬ Unasked op agent := by
  intro unasked
  have first := h.asked (fun _ => .error (.fault .value)) _ rfl
  have second := h.asked (fun _ => .error (.fault .type)) _ rfl
  rw [unasked _ (same _)] at first second
  cases first.symm.trans second

/-- **An operation signs only what agrees with its key.** Once it answers, the family is right and
the protected bucket names the algorithm of the key, if it could be changed. If it cannot come to
that, the operation fails without asking the key, and changes nothing. -/
structure SigningAgrees {σ : Type} (layer : σ → Layer) (suits : Family → Bool)
    (op : Agent → Step σ Unit) (s : σ) (a : Algorithm) : Prop where
  answers : ∀ agent, agent.algorithm = .ok a → (op agent).result = .ok () →
    suits a.family = true ∧ (layer s).prot.Binds a (layer (op agent).after).prot
  refuses : ¬ (suits a.family = true ∧ (layer s).Takes a) →
    ∃ e, e.isCose = true ∧ ∀ agent, agent.algorithm = .ok a →
      op agent = .fail s e ∧ Unasked op agent

/-- An operation accepts only what agrees with its key. -/
structure CheckingAgrees {σ : Type} (layer : σ → Layer) (suits : Family → Bool)
    (op : Agent → Step σ Unit) (s : σ) (a : Algorithm) : Prop where
  answers : ∀ agent, agent.algorithm = .ok a → (op agent).result = .ok () →
    suits a.family = true ∧ (layer s).prot.Allows a
  refuses : ¬ (suits a.family = true ∧ (layer s).prot.Allows a) →
    ∃ e, e.isCose = true ∧ ∀ agent, agent.algorithm = .ok a →
      op agent = .fail s e ∧ Unasked op agent

/-- An operation that fails with all keys of an algorithm does not ask them. -/
theorem and_unasked_of_fails {σ α : Type} {op : Agent → Step σ α} {s : σ} {a : Algorithm} {e : Error}
    (fails : ∀ agent : Agent, agent.algorithm = .ok a → op agent = .fail s e) (agent : Agent)
    (own : agent.algorithm = .ok a) : op agent = .fail s e ∧ Unasked op agent :=
  ⟨fails agent own, fun agent' same =>
    (fails agent' (same.trans own)).trans (fails agent own).symm⟩

/-- What is refused does not answer. -/
theorem CheckingAgrees.of_refuses {σ : Type} {layer : σ → Layer} {suits : Family → Bool}
    {op : Agent → Step σ Unit} {s : σ} {a : Algorithm}
    (refuses : ¬ (suits a.family = true ∧ (layer s).prot.Allows a) →
      ∃ e, e.isCose = true ∧ ∀ agent, agent.algorithm = .ok a → op agent = .fail s e) :
    CheckingAgrees layer suits op s a := by
  refine ⟨fun agent own answered => ?_, fun other => ?_⟩
  · by_contra other
    obtain ⟨e, -, failed⟩ := refuses other
    rw [failed agent own] at answered
    cases answered
  · obtain ⟨e, isCose, failed⟩ := refuses other
    exact ⟨e, isCose, and_unasked_of_fails failed⟩

variable {a : Algorithm} {agent : Agent}

namespace Agent

theorem signatureAlgorithm_of_family (own : agent.algorithm = .ok a) {shape : Shape}
    (suits : a.family.isSignature = true) : agent.signatureAlgorithm shape = .ok a := by
  rw [signatureAlgorithm, own, Except.ok_bind, if_pos suits]
  rfl

theorem signatureAlgorithm_of_not_family (own : agent.algorithm = .ok a) {shape : Shape}
    (other : ¬ a.family.isSignature = true) :
    agent.signatureAlgorithm shape = .error (.algorithmMismatch (.mac a.name shape)) := by
  rw [signatureAlgorithm, own, Except.ok_bind, if_neg other]
  rfl

theorem macAlgorithm_of_family (own : agent.algorithm = .ok a) (suits : a.family.isMac = true) :
    agent.macAlgorithm = .ok a := by
  rw [macAlgorithm, own, Except.ok_bind, if_pos suits]
  rfl

theorem macAlgorithm_of_not_family (own : agent.algorithm = .ok a)
    (other : ¬ a.family.isMac = true) :
    agent.macAlgorithm = .error (.algorithmMismatch (.notMac a.name)) := by
  rw [macAlgorithm, own, Except.ok_bind, if_neg other]
  rfl

/-- An agent has one algorithm. -/
theorem eq_of_signatureAlgorithm (own : agent.algorithm = .ok a) {shape : Shape} {alg : Algorithm}
    (h : agent.signatureAlgorithm shape = .ok alg) : alg = a ∧ a.family.isSignature = true := by
  by_cases suits : a.family.isSignature = true
  · rw [signatureAlgorithm_of_family own suits] at h
    cases h
    exact ⟨rfl, suits⟩
  · rw [signatureAlgorithm_of_not_family own suits] at h
    cases h

theorem eq_of_macAlgorithm (own : agent.algorithm = .ok a) {alg : Algorithm}
    (h : agent.macAlgorithm = .ok alg) : alg = a ∧ a.family.isMac = true := by
  by_cases suits : a.family.isMac = true
  · rw [macAlgorithm_of_family own suits] at h
    cases h
    exact ⟨rfl, suits⟩
  · rw [macAlgorithm_of_not_family own suits] at h
    cases h

end Agent

/-! ## An entry of a message -/

namespace Sign

/-- Keys of which one entry has another one: all other entries have the same agents, and the
agent of that entry has the same algorithm. -/
structure SameBut (m : Sign) (i : Nat) (keys keys' : Keys) : Prop where
  exists_resolvers : ∃ resolve resolve', keys.resolver m.entries.length = .ok resolve ∧
    keys'.resolver m.entries.length = .ok resolve' ∧
    (∀ (j : Nat) (t : Entry), j ≠ i → m.entries[j]? = some t → resolve' j t = resolve j t) ∧
    ∀ s, m.entries[i]? = some s → ∃ agent agent', resolve i s = .ok agent ∧
      resolve' i s = .ok agent' ∧ agent'.algorithm = agent.algorithm

/-- The key of an entry is not asked: all is the same with any other one of the same algorithm. -/
def UnaskedAt {α : Type} (m : Sign) (i : Nat) (op : Keys → Step Sign α) (keys : Keys) : Prop :=
  ∀ keys', m.SameBut i keys keys' → op keys' = op keys

/-- What precedes the visit of an entry fails: the protected bucket of the message has no bytes,
or the visit of an entry before comes to an error. -/
inductive FailsBefore {α : Type} (m : Sign) (visit : Resolver → Value → Value → Value → Visit α)
    (keys : Keys) (aad : Value) (i : Nat) : Error → Prop
  | body {e : Error} (failed : m.prot.encode = .error e) : FailsBefore m visit keys aad i e
  | entry {e : Error} {resolve : Resolver} {body : Bytes} {j : Nat} {t : Entry}
      (resolved : keys.resolver m.entries.length = .ok resolve)
      (encoded : m.prot.encode = .ok body) (before : j < i) (at_j : m.entries[j]? = some t)
      (failed : (visit resolve (.bytes body) m.payload aad j t).1 = .error e) :
      FailsBefore m visit keys aad i e

/-- Signing a message as a whole signs an entry only if that agrees with its key. Otherwise
signing fails and changes nothing, and the key of the entry is not asked. The error is of the family,
unless it is one that was met before. -/
structure SigningAgreesAt (m : Sign) (keys : Keys) (aad : Value) (i : Nat) (s : Entry)
    (a : Algorithm) : Prop where
  answers : (m.sign keys aad).result = .ok () → a.family.isSignature = true ∧
    ∃ s', (m.sign keys aad).after.entries[i]? = some s' ∧ s.prot.Binds a s'.prot
  refuses : ¬ (a.family.isSignature = true ∧ s.Takes a) →
    (∃ e, (m.sign keys aad).result = .error e ∧ (m.sign keys aad).after = m ∧
      (e.isCose = true ∨ m.FailsBefore signVisit keys aad i e)) ∧
    m.UnaskedAt i (m.sign · aad) keys

/-- Verifying a message as a whole judges an entry only if that agrees with its key. It is
judged if verification answers, or if there is no error that is not about a signature. -/
structure CheckingAgreesAt (m : Sign) (keys : Keys) (aad : Value) (i : Nat) (s : Entry)
    (a : Algorithm) : Prop where
  answers : (∃ outcomes, (m.verify keys aad).result = .ok outcomes) ∨
      (∀ e, ¬ m.Aborts keys aad e) → a.family.isSignature = true ∧ s.prot.Allows a
  refuses : ¬ (a.family.isSignature = true ∧ s.prot.Allows a) →
    (∃ e, (m.verify keys aad).result = .error e ∧ (m.verify keys aad).after = m ∧
      (e.isCose = true ∨ m.FailsBefore verifyVisit keys aad i e)) ∧
    m.UnaskedAt i (m.verify · aad) keys

section Message

variable {m : Sign} {keys keys' : Keys} {aad : Value} {resolve resolve' : Resolver} {i : Nat}
  {s : Entry}

/-- The checks of a message that precede signing its entries fail: it is signed already, or its
own headers break a rule. -/
inductive Refuses (m : Sign) : Error → Prop
  | state (other : m.state ≠ .unsigned) : Refuses m (.state (.signIn m.state))
  | headers {e : Error} (unsigned : m.state = .unsigned) (failed : m.check = .error e) : Refuses m e

theorem refuses_or_passes (m : Sign) :
    (∃ e, m.Refuses e) ∨ m.state = .unsigned ∧ m.check = .ok () := by
  by_cases unsigned : m.state = .unsigned
  · rcases checked : m.check with e | ⟨⟩
    · exact .inl ⟨e, .headers unsigned checked⟩
    · exact .inr ⟨unsigned, rfl⟩
  · exact .inl ⟨_, .state unsigned⟩

theorem Refuses.isCose {e : Error} (refuses : m.Refuses e) (legible : m.toLayer.Legible) :
    e.isCose = true := by
  cases refuses with
  | state => rfl
  | headers _ failed => exact legible.isCose_check e failed

/-- What a message refuses is refused before keys are looked at. -/
theorem Refuses.sign_eq {e : Error} (refuses : m.Refuses e) (nonempty : m.entries ≠ []) (keys : Keys)
    (aad : Value) : m.sign keys aad = .fail m e := by
  have present : ¬ m.entries.isEmpty = true := by simpa using nonempty
  cases refuses with
  | state other => rw [sign, if_neg present, if_pos other]
  | headers unsigned failed =>
    rw [sign, if_neg present, if_neg (not_not.mpr unsigned), failed]

variable {P : Error → Prop}

/-- Where the visit of an entry fails, the run fails in the same way, or with an error that was met
before. -/
theorem visitAll_fails {α : Type} {visit : Resolver → Value → Value → Value → Visit α}
    {body : Bytes} {e : Error} (resolved : keys.resolver m.entries.length = .ok resolve)
    (encoded : m.prot.encode = .ok body) (at_i : m.entries[i]? = some s) (fails : P e)
    (refused : (visit resolve (.bytes body) m.payload aad i s).1 = .error e) :
    ∃ e', (visitAll (visit resolve (.bytes body) m.payload aad) 0 m.entries).1 = .error e' ∧
      (P e' ∨ m.FailsBefore visit keys aad i e') := by
  rw [← Nat.zero_add i] at refused
  obtain ⟨e', failed, rfl | ⟨j, t, before, at_j, first⟩⟩ := visitAll_eq_error at_i refused
  · exact ⟨e', failed, .inl fails⟩
  · rw [Nat.zero_add] at first
    exact ⟨e', failed, .inr (.entry resolved encoded before at_j first)⟩

theorem sign_fails (resolved : keys.resolver m.entries.length = .ok resolve)
    (at_i : m.entries[i]? = some s)
    (refused : ∀ body, ∃ e, P e ∧ (signVisit resolve body m.payload aad i s).1 = .error e) :
    ∃ e, (m.sign keys aad).result = .error e ∧ (m.sign keys aad).after = m ∧
      (P e ∨ m.Refuses e ∨ m.FailsBefore signVisit keys aad i e) := by
  suffices ∃ e, (m.sign keys aad).result = .error e ∧
      (P e ∨ m.Refuses e ∨ m.FailsBefore signVisit keys aad i e) by
    obtain ⟨e, failed, which⟩ := this
    refine ⟨e, failed, ?_, which⟩
    rcases sign_cases m keys aad with ⟨-, -, after⟩ | ⟨-, -, -, answered, -⟩
    · exact after
    · cases failed.symm.trans answered
  have nonempty : m.entries ≠ [] := List.ne_nil_of_mem (List.mem_of_getElem? at_i)
  rcases m.refuses_or_passes with ⟨e, refuses⟩ | ⟨unsigned, checked⟩
  · rw [refuses.sign_eq nonempty]
    exact ⟨e, rfl, .inr (.inl refuses)⟩
  rcases encoded : m.prot.encode with e | body
  · have present : ¬ m.entries.isEmpty = true := by simpa using nonempty
    rw [sign, if_neg present, if_neg (not_not.mpr unsigned), checked, resolved, encoded]
    exact ⟨e, rfl, .inr (.inr (.body encoded))⟩
  · obtain ⟨e, fails, refused⟩ := refused (.bytes body)
    obtain ⟨e', failed, which⟩ := visitAll_fails resolved encoded at_i fails refused
    have ready : m.Ready keys resolve body := ⟨nonempty, unsigned, checked, resolved, encoded⟩
    exact ⟨e', ready.sign_result failed, which.imp_right .inr⟩

theorem verify_fails (resolved : keys.resolver m.entries.length = .ok resolve)
    (at_i : m.entries[i]? = some s)
    (refused : ∀ body, ∃ e, P e ∧ (verifyVisit resolve body m.payload aad i s).1 = .error e) :
    ∃ e, (m.verify keys aad).result = .error e ∧ (m.verify keys aad).after = m ∧
      (P e ∨ m.FailsBefore verifyVisit keys aad i e) := by
  have nonempty : ¬ m.entries.isEmpty = true := by
    simpa using List.ne_nil_of_mem (List.mem_of_getElem? at_i)
  rw [verify, if_neg nonempty, resolved]
  rcases encoded : m.prot.encode with e | body
  · exact ⟨e, rfl, rfl, .inr (.body encoded)⟩
  obtain ⟨e, fails, refused⟩ := refused (.bytes body)
  obtain ⟨e', failed, which⟩ := visitAll_fails resolved encoded at_i fails refused
  simp only [Except.ok_bind, Except.pure_eq, verifyAll_eq_visitAll, Step.logging_result,
    Step.logging_after, failed]
  exact ⟨e', rfl, rfl, which⟩

/-- Keys of which one entry has another one lead to the same visits, if that of this entry comes to
the same for all agents with its algorithm. -/
theorem SameBut.visits_eq {α : Type} {agent : Agent} (h : m.SameBut i keys keys')
    (visit : Value → Resolver → Visit α) (resolved : keys.resolver m.entries.length = .ok resolve)
    (at_i : m.entries[i]? = some s) (found : resolve i s = .ok agent)
    (own : agent.algorithm = .ok a)
    (here : ∀ body, ∃ r, ∀ (resolve : Resolver) (agent : Agent), resolve i s = .ok agent →
      agent.algorithm = .ok a → visit body resolve i s = r)
    (elsewhere : ∀ {body : Value} {resolve resolve' : Resolver} {j : Nat} {t : Entry},
      resolve' j t = resolve j t → visit body resolve' j t = visit body resolve j t) :
    ∃ resolve', keys'.resolver m.entries.length = .ok resolve' ∧
      ∀ (body : Value) (j : Nat) (t : Entry), m.entries[j]? = some t →
        visit body resolve' j t = visit body resolve j t := by
  obtain ⟨_, resolve', resolved₀, resolved', others, at_place⟩ := h.exists_resolvers
  cases resolved.symm.trans resolved₀
  obtain ⟨_, agent', found₀, found', same⟩ := at_place s at_i
  cases found.symm.trans found₀
  refine ⟨resolve', resolved', fun body j t at_j => ?_⟩
  by_cases place : j = i
  · subst place
    cases at_j.symm.trans at_i
    obtain ⟨r, here⟩ := here body
    rw [here resolve agent found own, here resolve' agent' found' (same.trans own)]
  · exact elsewhere (others j t place at_j)

end Message

end Sign

/-! ## Keys with a registered algorithm -/

section Registered

variable (registered : a ∈ Registry.standard.algorithms)

include registered

/-! ### One signature -/

namespace Sign1

variable {m : Sign1} (legible : m.toLayer.Legible) (aad : Value)

include legible

theorem signing_agrees :
    SigningAgrees (fun m : Sign1 => m.toLayer) Family.isSignature (m.sign · aad) m a := by
  refine ⟨fun agent own answered => ?_, fun other => ?_⟩
  · obtain ⟨w, after⟩ := sign_eq_ok answered
    obtain ⟨same, suits⟩ := Agent.eq_of_signatureAlgorithm own w.algorithm_eq
    refine ⟨suits, ?_⟩
    simp only [after]
    exact same ▸ w.prepared.binds (same ▸ registered)
  · have of_prepare {e : Error} (refused : ∀ agent : Agent, agent.algorithm = .ok a →
        m.prepare agent = .error e) : ∀ agent : Agent, agent.algorithm = .ok a →
        m.sign agent aad = .fail m e ∧ Unasked (m.sign · aad) agent :=
      and_unasked_of_fails fun agent own => by rw [sign, refused agent own]
    by_cases signed : (m.state ≠ .unsigned || m.signature.isTruthy) = true
    · refine ⟨.state .alreadySigned, rfl, of_prepare fun agent _ => ?_⟩
      rw [prepare, if_pos signed]
      rfl
    by_cases suits : a.family.isSignature = true
    · obtain ⟨e, isCose, refused⟩ := legible.exists_refusal_of_check registered fun takes =>
        other ⟨suits, takes⟩
      refine ⟨e, isCose, of_prepare fun agent own => ?_⟩
      rw [prepare, if_neg signed, Agent.signatureAlgorithm_of_family own suits, Except.ok_bind]
      exact refused _
    · refine ⟨.algorithmMismatch (.mac a.name .sign1), rfl, of_prepare fun agent own => ?_⟩
      rw [prepare, if_neg signed, Agent.signatureAlgorithm_of_not_family own suits,
        Except.error_bind]

theorem checking_agrees :
    CheckingAgrees (fun m : Sign1 => m.toLayer) Family.isSignature (m.verify · aad) m a := by
  refine .of_refuses fun other => ?_
  by_cases suits : a.family.isSignature = true
  · obtain ⟨e, isCose, -, refused⟩ := legible.prot.exists_refusal registered fun allows =>
      other ⟨suits, allows⟩
    refine ⟨e, isCose, fun agent own => ?_⟩
    rw [verify, Agent.signatureAlgorithm_of_family own suits]
    simp only [Except.ok_bind, refused]
  · refine ⟨.algorithmMismatch (.mac a.name .sign1), rfl, fun agent own => ?_⟩
    rw [verify, Agent.signatureAlgorithm_of_not_family own suits]
    rfl

end Sign1

/-! ### A tag -/

namespace Mac0

variable {m : Mac0} (legible : m.toLayer.Legible) (aad : Value)

include legible

theorem tagging_agrees :
    SigningAgrees (fun m : Mac0 => m.toLayer) Family.isMac (m.createTag · aad) m a := by
  refine ⟨fun agent own answered => ?_, fun other => ?_⟩
  · obtain ⟨w, after⟩ := createTag_eq_ok answered
    obtain ⟨same, suits⟩ := Agent.eq_of_macAlgorithm own w.algorithm_eq
    refine ⟨suits, ?_⟩
    simp only [after]
    exact same ▸ w.prepared.binds (same ▸ registered)
  · have of_prepare {e : Error} (refused : ∀ agent : Agent, agent.algorithm = .ok a →
        m.prepare agent = .error e) : ∀ agent : Agent, agent.algorithm = .ok a →
        m.createTag agent aad = .fail m e ∧ Unasked (m.createTag · aad) agent :=
      and_unasked_of_fails fun agent own => by rw [createTag, refused agent own]
    by_cases tagged : (m.state ≠ .unsigned || m.tag.isTruthy) = true
    · refine ⟨.state .alreadyTagged, rfl, of_prepare fun agent _ => ?_⟩
      rw [prepare, if_pos tagged]
      rfl
    by_cases suits : a.family.isMac = true
    · obtain ⟨e, isCose, refused⟩ := legible.exists_refusal_of_check registered fun takes =>
        other ⟨suits, takes⟩
      refine ⟨e, isCose, of_prepare fun agent own => ?_⟩
      rw [prepare, if_neg tagged, Agent.macAlgorithm_of_family own suits, Except.ok_bind]
      exact refused _
    · refine ⟨.algorithmMismatch (.notMac a.name), rfl, of_prepare fun agent own => ?_⟩
      rw [prepare, if_neg tagged, Agent.macAlgorithm_of_not_family own suits, Except.error_bind]

theorem authenticating_agrees :
    CheckingAgrees (fun m : Mac0 => m.toLayer) Family.isMac (m.authenticateTag · aad) m a := by
  refine .of_refuses fun other => ?_
  by_cases suits : a.family.isMac = true
  · obtain ⟨e, isCose, -, refused⟩ := legible.prot.exists_refusal registered fun allows =>
      other ⟨suits, allows⟩
    refine ⟨e, isCose, fun agent own => ?_⟩
    rw [authenticateTag, Agent.macAlgorithm_of_family own suits]
    simp only [Except.ok_bind, refused]
  · refine ⟨.algorithmMismatch (.notMac a.name), rfl, fun agent own => ?_⟩
    rw [authenticateTag, Agent.macAlgorithm_of_not_family own suits]
    rfl

end Mac0

/-! ### One entry -/

namespace Entry

variable {s : Entry} (legible : s.toLayer.Legible) (body payload aad : Value)

include legible

/-- What no signature is computed for, whatever the key does. -/
theorem compute_refuses (other : ¬ (a.family.isSignature = true ∧ s.Takes a)) :
    ∃ e, e.isCose = true ∧ ∀ agent : Agent, agent.algorithm = .ok a →
      s.compute agent body payload aad = .error e := by
  by_cases suits : a.family.isSignature = true
  · obtain ⟨e, isCose, refused⟩ := legible.exists_refusal registered fun takes =>
      other ⟨suits, takes⟩
    refine ⟨e, isCose, fun agent own => ?_⟩
    rw [compute, Agent.signatureAlgorithm_of_family own suits, Except.ok_bind, refused,
      Except.error_bind]
  · refine ⟨.algorithmMismatch (.mac a.name .sign), rfl, fun agent own => ?_⟩
    rw [compute, Agent.signatureAlgorithm_of_not_family own suits, Except.error_bind]

/-- What is not verified, whatever the key does; the error is none about a signature. -/
theorem verify_refuses (other : ¬ (a.family.isSignature = true ∧ s.prot.Allows a)) :
    ∃ e, e.isCose = true ∧ e.refusal? = none ∧ ∀ agent : Agent, agent.algorithm = .ok a →
      s.verify agent body payload aad = .error e := by
  by_cases suits : a.family.isSignature = true
  · obtain ⟨e, isCose, technical, refused⟩ := legible.prot.exists_refusal registered fun allows =>
      other ⟨suits, allows⟩
    refine ⟨e, isCose, technical, fun agent own => ?_⟩
    rw [verify, Agent.signatureAlgorithm_of_family own suits, Except.ok_bind, refused,
      Except.error_bind]
  · refine ⟨.algorithmMismatch (.mac a.name .sign), rfl, rfl, fun agent own => ?_⟩
    rw [verify, Agent.signatureAlgorithm_of_not_family own suits, Except.error_bind]

theorem signing_agrees : SigningAgrees (fun s : Entry => s.toLayer) Family.isSignature
    (s.sign · body payload aad) s a := by
  refine ⟨fun agent own answered => ?_, fun other => ?_⟩
  · rw [sign] at answered ⊢
    split at answered
    · cases answered
    next unsigned =>
    rcases computed : s.compute agent body payload aad with e | ⟨prot, signature⟩
    · simp only [computed] at answered
      cases answered
    · obtain ⟨w, rfl, rfl⟩ := compute_eq_ok computed
      obtain ⟨same, suits⟩ := Agent.eq_of_signatureAlgorithm own w.algorithm_eq
      refine ⟨suits, ?_⟩
      simp only [if_neg unsigned, w.commit_eq]
      exact same ▸ w.prepared.binds (same ▸ registered)
  · by_cases signed : s.isSigned = true
    · exact ⟨.state .entryAlreadySigned, rfl,
        and_unasked_of_fails fun agent _ => by rw [sign, if_pos signed]⟩
    · obtain ⟨e, isCose, refused⟩ := compute_refuses registered legible body payload aad other
      refine ⟨e, isCose, and_unasked_of_fails fun agent own => ?_⟩
      rw [sign, if_neg signed, refused agent own]

theorem checking_agrees : CheckingAgrees (fun s : Entry => s.toLayer) Family.isSignature
    (fun agent => .pure s (s.verify agent body payload aad)) s a := by
  refine .of_refuses fun other => ?_
  obtain ⟨e, isCose, -, refused⟩ := verify_refuses registered legible body payload aad other
  refine ⟨e, isCose, fun agent own => ?_⟩
  rw [refused agent own]
  rfl

end Entry

/-! ### An entry of a message -/

namespace Sign

section Visits

variable {s : Entry} (legible : s.toLayer.Legible) (i : Nat) (body payload aad : Value)

include legible

theorem signVisit_refused (other : ¬ (a.family.isSignature = true ∧ s.Takes a)) :
    ∃ e lines, e.isCose = true ∧ ∀ (resolve : Resolver) (agent : Agent),
      resolve i s = .ok agent → agent.algorithm = .ok a →
        signVisit resolve body payload aad i s = (.error e, lines) := by
  obtain ⟨line, approached⟩ := approach_of_isWritable legible.isWritable_kid i "Signing" a
  rcases checked : s.check with e | ⟨⟩
  · refine ⟨e, [line], legible.isCose_check e checked, fun resolve agent found own => ?_⟩
    simp only [signVisit, approached resolve agent found own, checked, Except.error_bind]
  · obtain ⟨e, isCose, refused⟩ := Entry.compute_refuses registered legible body payload aad other
    refine ⟨e, [line], isCose, fun resolve agent found own => ?_⟩
    simp only [signVisit, approached resolve agent found own, checked, Except.ok_bind,
      refused agent own]

theorem verifyVisit_refused (other : ¬ (a.family.isSignature = true ∧ s.prot.Allows a)) :
    ∃ e lines, e.isCose = true ∧ ∀ (resolve : Resolver) (agent : Agent),
      resolve i s = .ok agent → agent.algorithm = .ok a →
        verifyVisit resolve body payload aad i s = (.error e, lines) := by
  obtain ⟨line, approached⟩ := approach_of_isWritable legible.isWritable_kid i "Verifying" a
  obtain ⟨e, isCose, technical, refused⟩ :=
    Entry.verify_refuses registered legible body payload aad other
  refine ⟨e, [line], isCose, fun resolve agent found own => ?_⟩
  simp only [verifyVisit, approached resolve agent found own, refused agent own,
    Entry.refusalOf_error_of_none technical]
  rfl

end Visits

section Message

variable {m : Sign} {keys keys' : Keys} {aad : Value} {resolve resolve' : Resolver} {i : Nat}
  {s : Entry}

section At

variable {agent : Agent} (legible : s.toLayer.Legible) (at_i : m.entries[i]? = some s)
  (leads : keys.LeadsTo m.entries.length i s agent) (own : agent.algorithm = .ok a)

include legible at_i leads own

theorem signing_agrees_at (legible_body : m.toLayer.Legible) :
    m.SigningAgreesAt keys aad i s a := by
  obtain ⟨resolve, resolved, found⟩ := leads
  refine ⟨fun answered => ?_, fun other => ?_⟩
  · rcases sign_cases m keys aad with
      ⟨e, failed, -⟩ | ⟨-, -, -, -, resolve₀, body, entries, resolved₀, -, run, after⟩
    · exact absurd (failed.symm.trans answered) (by simp)
    cases resolved.symm.trans resolved₀
    obtain ⟨agent₀, found₀, w, signed⟩ := run.getElem? at_i
    rw [Nat.zero_add] at found₀
    cases found.symm.trans found₀
    obtain ⟨same, suits⟩ := Agent.eq_of_signatureAlgorithm own w.algorithm_eq
    refine ⟨suits, w.after, by rw [after]; exact signed, ?_⟩
    exact same ▸ w.prepared.binds (same ▸ registered)
  · have refused (body : Value) :=
      signVisit_refused registered legible i body m.payload aad other
    constructor
    · have fails (body : Value) : ∃ e, e.isCose = true ∧
          (signVisit resolve body m.payload aad i s).1 = .error e := by
        obtain ⟨e, lines, isCose, refused⟩ := refused body
        exact ⟨e, isCose, by rw [refused resolve agent found own]⟩
      obtain ⟨e, failed, after, which⟩ := sign_fails resolved at_i fails
      refine ⟨e, failed, after, ?_⟩
      rcases which with isCose | refuses | before
      · exact .inl isCose
      · exact .inl (refuses.isCose legible_body)
      · exact .inr before
    · intro keys' same
      obtain ⟨resolve', resolved', visits⟩ := same.visits_eq
        (fun body resolve => signVisit resolve body m.payload aad) resolved at_i found own
        (fun body => by
          obtain ⟨e, lines, -, refused⟩ := refused body
          exact ⟨_, refused⟩)
        (fun same => by simp only [signVisit, approach, same])
      exact sign_congr resolved resolved' fun body _ => visits (.bytes body)

theorem checking_agrees_at : m.CheckingAgreesAt keys aad i s a := by
  obtain ⟨resolve, resolved, found⟩ := leads
  refine ⟨fun judged => ?_, fun other => ?_⟩
  · have nonempty : m.entries ≠ [] := List.ne_nil_of_mem (List.mem_of_getElem? at_i)
    rcases verify_cases m keys aad nonempty with
      ⟨e, aborts, failed, -⟩ | ⟨resolve₀, body, outcomes, resolved₀, -, checked, -⟩
    · rcases judged with ⟨outcomes, answered⟩ | none
      · exact absurd (failed.symm.trans answered) (by simp)
      · exact absurd aborts (none e)
    cases resolved.symm.trans resolved₀
    obtain ⟨r, decided, -⟩ := (getElem?_of_verifyAll checked).2 i s at_i
    rw [Nat.zero_add] at decided
    obtain ⟨agent₀, admitted, -⟩ := Entry.verdict_eq_ok_iff.mp decided
    obtain ⟨line, found₀⟩ := admitted.found
    cases found.symm.trans (approach_eq_ok found₀)
    obtain ⟨alg, signs, agrees⟩ := admitted.agrees
    obtain ⟨rfl, suits⟩ := Agent.eq_of_signatureAlgorithm own signs
    exact ⟨suits, Bucket.checkAlgorithm_eq_ok_iff.mp agrees⟩
  · have refused (body : Value) :=
      verifyVisit_refused registered legible i body m.payload aad other
    constructor
    · have fails (body : Value) : ∃ e, e.isCose = true ∧
          (verifyVisit resolve body m.payload aad i s).1 = .error e := by
        obtain ⟨e, lines, isCose, refused⟩ := refused body
        exact ⟨e, isCose, by rw [refused resolve agent found own]⟩
      exact verify_fails resolved at_i fails
    · intro keys' same
      obtain ⟨resolve', resolved', visits⟩ := same.visits_eq
        (fun body resolve => verifyVisit resolve body m.payload aad) resolved at_i found own
        (fun body => by
          obtain ⟨e, lines, -, refused⟩ := refused body
          exact ⟨_, refused⟩)
        (fun same => by simp only [verifyVisit, approach, same])
      exact verify_congr resolved resolved' fun body _ => visits (.bytes body)

end At

end Message

end Sign

end Registered

end Cose
