import Cose.Message.Mac0
import Cose.Message.Sign1
import Cose.Proofs.Credential.Refusals
import Cose.Proofs.Message.Visits

/-!
# What the log shows

Signing, verifying and tagging write a line for each signature or tag, and verifying another one for
each signature that is refused. The lines name the place of the entry, the algorithm, the key identifier
and the reason of the refusal, and there is none behind the entry at which a run ends. All of this is
public: it follows from the headers, the algorithms, the lengths of the signatures, and from what the
primitives of the keys come to. So two runs that agree on these write the same, whatever payloads,
external data, keys, signatures and tags they have.

## Main definitions

* `Verdict`: what a primitive comes to
* `Entry.signing?`, `Entry.verifying?`: what the primitive for an entry comes to, if it is reached
* `Agent.Alike`, `Entry.LooksAlike`: keys and entries that cannot be told apart
* `Sign.SignAlike`, `Sign.VerifyAlike`, `Run.Alike`: runs that agree on what is public

## Main results

* `Sign.signVisit_looksAlike`, `Sign.verifyVisit_looksAlike`: the visit of one entry
* `Sign.SignAlike.log_eq`, `Sign.VerifyAlike.log_eq`: all visits of a message
* `Run.log_eq_of_alike`: two runs that are alike write the same log
-/

namespace Cose

/-! ## What the primitive of a key comes to -/

/-- **What a primitive comes to**: it accepts, or makes a signature; or it rejects the signature; or it
fails, also because there is nothing that it could be applied to. -/
inductive Verdict where
  | accepted
  | rejected
  | failed
  deriving DecidableEq, Repr

/-- The verdict that a result is. -/
def Verdict.of {α : Type} : Except Error α → Verdict
  | .ok _ => .accepted
  | .error e => if e.refusal?.isSome then .rejected else .failed

theorem Verdict.isOk_eq_of_eq {α β : Type} {x : Except Error α} {y : Except Error β}
    (same : of x = of y) : x.isOk = y.isOk := by
  rcases x with e | a <;> rcases y with f | b
  · rfl
  · rw [of, of] at same
    split at same <;> cases same
  · rw [of, of] at same
    split at same <;> cases same
  · rfl

/-- Two checks that refuse in the same way and come to the same verdict are judged alike, unless both
fail. -/
theorem Verdict.toOption_refusalOf {x y : Except Error Unit} {r : Refusal} (hx : Refuses r x)
    (hy : Refuses r y) (same : of x = of y) :
    (refusalOf x).toOption = (refusalOf y).toOption := by
  rcases x with e | ⟨⟩ <;> rcases y with f | ⟨⟩
  · have hx : e.refusal?.all (· == r) = true := hx e rfl
    have hy : f.refusal?.all (· == r) = true := hy f rfl
    rw [of, of] at same
    simp only [refusalOf]
    rcases refused : e.refusal? with - | re <;> rcases refused' : f.refusal? with - | rf <;>
      rw [refused] at hx same <;> rw [refused'] at hy same
    · rfl
    · cases same
    · cases same
    · rw [beq_iff_eq.mp hx, beq_iff_eq.mp hy]
  · cases isOk_eq_of_eq same
  · cases isOk_eq_of_eq same
  · rfl

/-- Two agents are alike, as far as they are found: they work with keys that factories have made for
the same algorithm. -/
inductive Agent.Alike : Except Error Agent → Except Error Agent → Prop
  | found {c c' : Credential} (made : c.Made) (made' : c'.Made) (same : c'.algorithm = c.algorithm) :
      Alike (.ok c.agent) (.ok c'.agent)
  | missing {e e' : Error} : Alike (.error e) (.error e')

/-- Two signatures have the same length, if there are any. -/
def Value.SameLength (v v' : Value) : Prop :=
  v'.isTruthy = v.isTruthy ∧ (v.isTruthy = true → v'.length? = v.length?)

theorem Value.sameLength_bytes {b b' : Bytes} (length : b'.length = b.length) :
    SameLength (.bytes b) (.bytes b') := by
  refine ⟨?_, fun _ => congrArg some length⟩
  cases b <;> cases b' <;> first | rfl | cases length

namespace Entry

/-- What precedes the signature of an entry: the protected bucket that it covers. -/
def admitSigning (s : Entry) (agent : Agent) : Except Error Bucket := do
  s.check
  let alg ← agent.signatureAlgorithm .sign
  let prot ← s.withAlgorithm (.algorithm alg)
  prot.validate
  return prot

/-- What precedes the check of the signature of an entry. -/
def admitVerifying (s : Entry) (agent : Agent) : Except Error Unit := do
  let alg ← agent.signatureAlgorithm .sign
  s.prot.checkAlgorithm (.algorithm alg)
  if !s.isSigned then throw (.verification .noEntrySignature)

/-- What signing an entry comes to, if nothing precedes it that fails. -/
def signing? (s : Entry) (agent : Agent) (body payload aad : Value) : Option Verdict :=
  (s.admitSigning agent).toOption.map fun prot =>
    .of (do agent.sign (← toBeSigned prot body payload aad))

/-- What the check of the signature of an entry comes to, if nothing precedes it that fails. -/
def verifying? (s : Entry) (agent : Agent) (body payload aad : Value) : Option Verdict :=
  (s.admitVerifying agent).toOption.map fun _ =>
    .of (do agent.verify (← toBeSigned s.prot body payload aad) s.signature)

variable {s s' : Entry} {agent agent' : Agent} {body payload aad body' payload' aad' : Value}

theorem check_compute_eq : (do s.check; s.compute agent body payload aad) = (do
    let prot ← s.admitSigning agent
    (do agent.sign (← toBeSigned prot body payload aad) : Except Error Bytes).map (prot, ·)) := by
  simp only [admitSigning, compute, bind_assoc, pure_bind]
  refine congrArg _ (funext fun _ => congrArg _ (funext fun alg => congrArg _ (funext fun prot => ?_)))
  refine congrArg _ (funext fun _ => ?_)
  cases toBeSigned prot body payload aad with
  | error e => rfl
  | ok covered => cases agent.sign covered <;> rfl

theorem verify_eq : s.verify agent body payload aad = (do
    s.admitVerifying agent
    agent.verify (← toBeSigned s.prot body payload aad) s.signature) := by
  simp only [admitVerifying, verify, bind_assoc]
  refine congrArg _ (funext fun alg => congrArg _ (funext fun _ => ?_))
  cases s.isSigned <;> rfl

section Alike

variable (headers : s'.toLayer = s.toLayer) (algorithm : agent'.algorithm = agent.algorithm)

include headers algorithm

theorem admitSigning_congr : s'.admitSigning agent' = s.admitSigning agent := by
  rw [admitSigning, admitSigning, headers, Agent.signatureAlgorithm, Agent.signatureAlgorithm,
    algorithm]

theorem admitVerifying_congr (signed : s'.signature.isTruthy = s.signature.isTruthy) :
    s'.admitVerifying agent' = s.admitVerifying agent := by
  rw [admitVerifying, admitVerifying, headers, Agent.signatureAlgorithm, Agent.signatureAlgorithm,
    algorithm, isSigned, isSigned, signed]

/-- Signing two entries answers or fails alike. -/
theorem isOk_compute
    (same : s'.signing? agent' body' payload' aad' = s.signing? agent body payload aad) :
    (do s'.check; s'.compute agent' body' payload' aad' : Except Error _).isOk =
      (do s.check; s.compute agent body payload aad : Except Error _).isOk := by
  rw [signing?, signing?, admitSigning_congr headers algorithm] at same
  rw [check_compute_eq, check_compute_eq, admitSigning_congr headers algorithm]
  rcases admitted : s.admitSigning agent with e | prot
  · rfl
  rw [admitted] at same
  simp only [Except.ok_bind, Except.isOk_map]
  exact Verdict.isOk_eq_of_eq (Option.some.inj same)

end Alike

/-- What is admitted has a signature, and an algorithm that signs. -/
theorem admitVerifying_eq_ok {c : Credential} (admitted : s.admitVerifying c.agent = .ok ()) :
    c.algorithm.family.isSignature = true ∧ s.signature.isTruthy = true := by
  obtain ⟨alg, own, admitted⟩ := Except.bind_eq_ok.mp admitted
  obtain ⟨-, -, admitted⟩ := Except.bind_eq_ok.mp admitted
  constructor
  · obtain ⟨a, ⟨⟩, own⟩ := Except.bind_eq_ok.mp own
    split at own
    · next signs => exact signs
    · cases own
  · split at admitted
    · cases admitted
    · next signed => simpa [isSigned] using signed

/-- The primitive refuses as the key does, since what is covered is no matter of the signature. -/
theorem refuses_primitive {c : Credential} {signature : Value} (made : c.Made)
    (signs : c.algorithm.family.isSignature = true) (signed : signature.isTruthy = true)
    (prot : Bucket) (body payload aad : Value) :
    Refuses (c.algorithm.refusal signature.length?)
      (do c.agent.verify (← toBeSigned prot body payload aad) signature) := by
  have present : signature ≠ .null := by
    rintro rfl
    cases signed
  have covers : Technical (toBeSigned prot body payload aad) :=
    (Bucket.technical_encode _).bind fun _ => sigStructure_technical _ _ _ _ _
  exact (covers.refuses _).bind fun covered => made.refuses signs present (.bytes covered)

/-- Verifying two entries whose signatures have the same length is judged alike, unless both fail. -/
theorem toOption_refusalOf_verify {c c' : Credential} (made : c.Made) (made' : c'.Made)
    (headers : s'.toLayer = s.toLayer) (algorithm : c'.algorithm = c.algorithm)
    (length : s.signature.SameLength s'.signature)
    (same : s'.verifying? c'.agent body' payload' aad' = s.verifying? c.agent body payload aad) :
    (refusalOf (s'.verify c'.agent body' payload' aad')).toOption =
      (refusalOf (s.verify c.agent body payload aad)).toOption := by
  have admits : s'.admitVerifying c'.agent = s.admitVerifying c.agent :=
    admitVerifying_congr headers (congrArg Except.ok algorithm) length.1
  rw [verifying?, verifying?, admits] at same
  rw [verify_eq, verify_eq, admits]
  rcases admitted : s.admitVerifying c.agent with e | ⟨⟩
  · rfl
  rw [admitted] at same
  obtain ⟨signs, signed⟩ := admitVerifying_eq_ok admitted
  have refuses := refuses_primitive made signs signed s.prot body payload aad
  have refuses' := refuses_primitive made' (algorithm ▸ signs) (length.1.trans signed) s'.prot body'
    payload' aad'
  rw [algorithm, length.2 signed] at refuses'
  exact Verdict.toOption_refusalOf refuses' refuses (Option.some.inj same)

end Entry

/-! ## Messages with several signers -/

namespace Entry

/-- Two entries are alike for two runs: they have the same headers, the agents that are found for
them are alike, and the primitives come to the same. -/
structure LooksAlike (found found' : Except Error Agent) (outcome outcome' : Agent → Option Verdict)
    (s s' : Entry) : Prop where
  headers : s'.toLayer = s.toLayer
  agents : Agent.Alike found found'
  outcome : ∀ agent agent', found = .ok agent → found' = .ok agent' → outcome' agent' = outcome agent

end Entry

namespace Sign

variable {m m' : Sign} {keys keys' : Keys} {aad aad' : Value} {resolve resolve' : Resolver}

section Visits

variable {s s' : Entry} {i : Nat} {body payload aad payload' aad' : Value}

/-- What precedes the work on two entries fails for both, or it leads to alike keys and to the same
line. -/
theorem approach_alike (what : String) (headers : s'.toLayer = s.toLayer)
    (agents : Agent.Alike (resolve i s) (resolve' i s')) :
    (∃ e e', approach what resolve i s = .error e ∧ approach what resolve' i s' = .error e') ∨
      ∃ (c c' : Credential) (line : LogLine), c.Made ∧ c'.Made ∧ c'.algorithm = c.algorithm ∧
        resolve i s = .ok c.agent ∧ resolve' i s' = .ok c'.agent ∧
        approach what resolve i s = .ok (c.agent, line) ∧
        approach what resolve' i s' = .ok (c'.agent, line) := by
  rw [approach, approach, headers]
  rcases found : resolve i s with e | agent <;> rcases found' : resolve' i s' with e' | agent' <;>
    rw [found, found'] at agents
  · exact .inl ⟨e, e', rfl, rfl⟩
  · cases agents
  · cases agents
  · cases agents with
    | @found c c' made made' same =>
      have algorithm : c.agent.algorithm = .ok c.algorithm := rfl
      have algorithm' : c'.agent.algorithm = .ok c.algorithm := congrArg Except.ok same
      simp only [Except.ok_bind, algorithm, algorithm']
      rcases operationLine s!"{what} signature {i}" c.algorithm s.kid with e | line
      · exact .inl ⟨e, e, rfl, rfl⟩
      · exact .inr ⟨c, c', line, made, made', same, rfl, rfl, rfl, rfl⟩

/-- **Signing two entries** that are alike writes the same to the log, and answers or fails alike. -/
theorem signVisit_looksAlike (alike : Entry.LooksAlike (resolve i s) (resolve' i s')
    (s.signing? · body payload aad) (s'.signing? · body payload' aad') s s') :
    (signVisit resolve' body payload' aad' i s').2 = (signVisit resolve body payload aad i s).2 ∧
      (signVisit resolve' body payload' aad' i s').1.isOk =
        (signVisit resolve body payload aad i s).1.isOk := by
  rw [signVisit, signVisit]
  rcases approach_alike "Signing" alike.headers alike.agents with
    ⟨e, e', failed, failed'⟩ | ⟨c, c', line, -, -, same, found, found', goes, goes'⟩
  · rw [failed, failed']
    exact ⟨rfl, rfl⟩
  · rw [goes, goes']
    refine ⟨rfl, ?_⟩
    exact Entry.isOk_compute alike.headers (congrArg Except.ok same)
      (alike.outcome _ _ found found')

/-- **Verifying two entries** that are alike, with signatures of the same length, writes the same to the
log, and answers or fails alike. -/
theorem verifyVisit_looksAlike (alike : Entry.LooksAlike (resolve i s) (resolve' i s')
      (s.verifying? · body payload aad) (s'.verifying? · body payload' aad') s s')
    (length : s.signature.SameLength s'.signature) :
    (verifyVisit resolve' body payload' aad' i s').2 = (verifyVisit resolve body payload aad i s).2 ∧
      (verifyVisit resolve' body payload' aad' i s').1.isOk =
        (verifyVisit resolve body payload aad i s).1.isOk := by
  rw [verifyVisit, verifyVisit]
  rcases approach_alike "Verifying" alike.headers alike.agents with
    ⟨e, e', failed, failed'⟩ | ⟨c, c', line, made, made', same, found, found', goes, goes'⟩
  · rw [failed, failed']
    exact ⟨rfl, rfl⟩
  · rw [goes, goes']
    have judged := Entry.toOption_refusalOf_verify made made' alike.headers same length
      (alike.outcome _ _ found found')
    simp only [Except.isOk_map]
    generalize refusalOf (s.verify c.agent body payload aad) = x at judged ⊢
    generalize refusalOf (s'.verify c'.agent body payload' aad') = x' at judged ⊢
    rcases x with e | refusal <;> rcases x' with e' | refusal' <;> cases judged <;>
      exact ⟨rfl, rfl⟩

end Visits

/-- Two messages look alike, with the keys for them: they have the same headers and as many entries,
and keys are supplied for both or for neither. -/
structure LooksAlike (m m' : Sign) (keys keys' : Keys) : Prop where
  headers : m'.toLayer = m.toLayer
  count : m'.entries.length = m.entries.length
  supplied : (keys'.resolver m'.entries.length).isOk = (keys.resolver m.entries.length).isOk

theorem LooksAlike.symm (h : LooksAlike m m' keys keys') : LooksAlike m' m keys' keys :=
  ⟨h.headers.symm, h.count.symm, h.supplied.symm⟩

/-! ### Verifying -/

/-- Verifying comes to visit the entries: nothing that precedes the visits fails. -/
structure Opens (m : Sign) (keys : Keys) (resolve : Resolver) (body : Bytes) : Prop where
  nonempty : m.entries ≠ []
  resolved : keys.resolver m.entries.length = .ok resolve
  encoded : m.prot.encode = .ok body

/-- Two runs of verifying are alike. The messages look alike, and so do the entries that the first
run comes to, with signatures of the same length. -/
structure VerifyAlike (m m' : Sign) (keys keys' : Keys) (aad aad' : Value) : Prop
    extends LooksAlike m m' keys keys' where
  entry : ∀ resolve resolve' body, m.Opens keys resolve body → m'.Opens keys' resolve' body →
    ∀ (i : Nat) (s s' : Entry), m.entries[i]? = some s → m'.entries[i]? = some s' →
      Reaches (verifyVisit resolve (.bytes body) m.payload aad) 0 m.entries i →
        Entry.LooksAlike (resolve i s) (resolve' i s') (s.verifying? · (.bytes body) m.payload aad)
          (s'.verifying? · (.bytes body) m'.payload aad') s s' ∧
        s.signature.SameLength s'.signature

/-- The log of verifying is that of visiting the entries. -/
theorem Opens.log_verify {body : Bytes} (h : m.Opens keys resolve body) (aad : Value) :
    (m.verify keys aad).log =
      (visitAll (verifyVisit resolve (.bytes body) m.payload aad) 0 m.entries).2 := by
  have present : ¬ m.entries.isEmpty = true := by simpa using h.nonempty
  rw [verify, if_neg present, h.resolved, h.encoded, ← verifyAll_eq_visitAll]
  simp only [Except.ok_bind, Except.pure_eq, Step.logging_log]
  refine List.append_right_eq_self.mpr ?_
  split
  · rfl
  split <;> rfl

/-- Verifying that does not come to visit the entries writes nothing. -/
theorem log_verify_of_not_opens (h : ∀ resolve body, ¬ m.Opens keys resolve body) (aad : Value) :
    (m.verify keys aad).log = [] := by
  rw [verify]
  split
  · rfl
  next nonempty =>
  simp only
  split
  · rfl
  next resolve body settled =>
  obtain ⟨resolve', resolved, settled⟩ := Except.bind_eq_ok.mp settled
  obtain ⟨body', encoded, ⟨⟩⟩ := Except.bind_eq_ok.mp settled
  exact absurd ⟨by simpa using nonempty, resolved, encoded⟩ (h resolve body)

/-- Whether verifying comes to visit the entries is seen from outside. -/
theorem Opens.exists_of_alike {body : Bytes} (h : m.Opens keys resolve body)
    (alike : LooksAlike m m' keys keys') : ∃ resolve', m'.Opens keys' resolve' body := by
  have supplied := alike.supplied
  rw [h.resolved] at supplied
  rcases resolved : keys'.resolver m'.entries.length with e | resolve'
  · rw [resolved] at supplied
    cases supplied
  · refine ⟨resolve', fun none => h.nonempty ?_, resolved,
      (congrArg (fun layer => layer.prot.encode) alike.headers).trans h.encoded⟩
    have count := alike.count
    rw [none] at count
    exact List.length_eq_zero_iff.mp count.symm

/-- **Alike runs of verifying** write the same log. -/
theorem VerifyAlike.log_eq (h : VerifyAlike m m' keys keys' aad aad') :
    (m'.verify keys' aad').log = (m.verify keys aad).log := by
  by_cases opens : ∃ resolve body, m.Opens keys resolve body
  · obtain ⟨resolve, body, opens⟩ := opens
    obtain ⟨resolve', opens'⟩ := opens.exists_of_alike h.toLooksAlike
    rw [opens.log_verify, opens'.log_verify]
    refine visitAll_log_congr h.count fun i s s' at_i at_i' reached => ?_
    rw [Nat.zero_add]
    obtain ⟨alike, length⟩ := h.entry resolve resolve' body opens opens' i s s' at_i at_i' reached
    exact verifyVisit_looksAlike alike length
  · rw [log_verify_of_not_opens fun resolve body here => opens ⟨resolve, body, here⟩,
      log_verify_of_not_opens fun resolve body here => opens ?_]
    obtain ⟨resolve', there⟩ := here.exists_of_alike h.toLooksAlike.symm
    exact ⟨resolve', body, there⟩

/-! ### Signing -/

/-- Two runs of signing are alike. The messages look alike, and both may be signed or neither; and
the entries that the first run comes to are alike. -/
structure SignAlike (m m' : Sign) (keys keys' : Keys) (aad aad' : Value) : Prop
    extends LooksAlike m m' keys keys' where
  unsigned : m'.state = .unsigned ↔ m.state = .unsigned
  entry : ∀ resolve resolve' body, m.Ready keys resolve body → m'.Ready keys' resolve' body →
    ∀ (i : Nat) (s s' : Entry), m.entries[i]? = some s → m'.entries[i]? = some s' →
      Reaches (signVisit resolve (.bytes body) m.payload aad) 0 m.entries i →
        Entry.LooksAlike (resolve i s) (resolve' i s') (s.signing? · (.bytes body) m.payload aad)
          (s'.signing? · (.bytes body) m'.payload aad') s s'

theorem log_commitAll (ss : List Entry) (rs : List (Bucket × Bytes)) : (commitAll ss rs).log = [] := by
  induction ss generalizing rs with
  | nil => rfl
  | cons s ss ih =>
    rcases rs with _ | ⟨⟨prot, signature⟩, rs⟩
    · rfl
    rw [commitAll]
    split
    · rfl
    · exact ih rs

/-- The log of signing is that of visiting the entries. -/
theorem Ready.log_sign {body : Bytes} (h : m.Ready keys resolve body) (aad : Value) :
    (m.sign keys aad).log =
      (visitAll (signVisit resolve (.bytes body) m.payload aad) 0 m.entries).2 := by
  have present : ¬ m.entries.isEmpty = true := by simpa using h.nonempty
  rw [sign, if_neg present, if_neg (not_not.mpr h.unsigned), h.checked, h.resolved, h.encoded,
    ← computeAll_eq_visitAll]
  simp only [Except.ok_bind, Except.pure_eq, Step.logging_log]
  refine List.append_right_eq_self.mpr ?_
  split
  · rfl
  split
  · rfl
  · exact log_commitAll _ _

/-- Signing that does not come to visit the entries writes nothing. -/
theorem log_sign_of_not_ready (h : ∀ resolve body, ¬ m.Ready keys resolve body) (aad : Value) :
    (m.sign keys aad).log = [] := by
  rw [sign]
  split
  · rfl
  next nonempty =>
  split
  · rfl
  next unsigned =>
  split
  · rfl
  next checked =>
  simp only
  split
  · rfl
  next resolve body settled =>
  obtain ⟨resolve', resolved, settled⟩ := Except.bind_eq_ok.mp settled
  obtain ⟨body', encoded, ⟨⟩⟩ := Except.bind_eq_ok.mp settled
  exact absurd ⟨by simpa using nonempty, not_not.mp unsigned, checked, resolved, encoded⟩
    (h resolve body)

/-- Whether signing comes to visit the entries is seen from outside. -/
theorem Ready.exists_of_alike {body : Bytes} (h : m.Ready keys resolve body)
    (alike : LooksAlike m m' keys keys') (unsigned : m'.state = .unsigned ↔ m.state = .unsigned) :
    ∃ resolve', m'.Ready keys' resolve' body := by
  have opens : m.Opens keys resolve body := ⟨h.nonempty, h.resolved, h.encoded⟩
  obtain ⟨resolve', opens'⟩ := opens.exists_of_alike alike
  exact ⟨resolve', opens'.nonempty, unsigned.mpr h.unsigned,
    (congrArg Layer.check alike.headers).trans h.checked, opens'.resolved, opens'.encoded⟩

/-- **Alike runs of signing** write the same log. -/
theorem SignAlike.log_eq (h : SignAlike m m' keys keys' aad aad') :
    (m'.sign keys' aad').log = (m.sign keys aad).log := by
  by_cases ready : ∃ resolve body, m.Ready keys resolve body
  · obtain ⟨resolve, body, ready⟩ := ready
    obtain ⟨resolve', ready'⟩ := ready.exists_of_alike h.toLooksAlike h.unsigned
    rw [ready.log_sign, ready'.log_sign]
    refine visitAll_log_congr h.count fun i s s' at_i at_i' reached => ?_
    rw [Nat.zero_add]
    exact signVisit_looksAlike (h.entry resolve resolve' body ready ready' i s s' at_i at_i' reached)
  · rw [log_sign_of_not_ready fun resolve body here => ready ⟨resolve, body, here⟩,
      log_sign_of_not_ready fun resolve body here => ready ?_]
    obtain ⟨resolve', there⟩ := here.exists_of_alike h.toLooksAlike.symm h.unsigned.symm
    exact ⟨resolve', body, there⟩

end Sign

/-! ## Messages with one key -/

section Single

variable {agent agent' : Agent} (algorithm : agent'.algorithm = agent.algorithm)

/-- Attaching a signature writes nothing. -/
theorem Sign1.log_attach (m : Sign1) (signature : Value) (prot : Option Bucket) :
    (m.attach signature prot).log = [] := by
  rw [attach]
  split
  · rfl
  simp only
  split <;> rfl

/-- Signing writes the line that is settled before the signature is computed. -/
theorem Sign1.log_sign (m : Sign1) (agent : Agent) (aad : Value) :
    (m.sign agent aad).log = ((m.prepare agent).toOption.map Prod.snd).toList := by
  rw [sign]
  rcases m.prepare agent with e | ⟨prot, line⟩
  · rfl
  simp only [Step.logging_log]
  refine List.append_right_eq_self.mpr ?_
  split
  · rfl
  · exact log_attach _ _ _

/-- Tagging writes the line that is settled before the tag is computed. -/
theorem Mac0.log_createTag (m : Mac0) (agent : Agent) (aad : Value) :
    (m.createTag agent aad).log = ((m.prepare agent).toOption.map Prod.snd).toList := by
  rw [createTag]
  rcases m.prepare agent with e | ⟨prot, line⟩
  · rfl
  simp only [Step.logging_log]
  refine List.append_right_eq_self.mpr ?_
  split
  · rfl
  split <;> rfl

include algorithm

/-- What precedes signing depends on the headers and the algorithm. -/
theorem Sign1.prepare_congr {m m' : Sign1} (headers : m'.toLayer = m.toLayer)
    (unsigned : m'.state = .unsigned ↔ m.state = .unsigned)
    (signed : m'.signature.isTruthy = m.signature.isTruthy) :
    m'.prepare agent' = m.prepare agent := by
  rw [prepare, prepare, headers, signed, Agent.signatureAlgorithm, Agent.signatureAlgorithm, algorithm]
  simp only [ne_eq, unsigned]

/-- What precedes tagging depends on the headers and the algorithm. -/
theorem Mac0.prepare_congr {m m' : Mac0} (headers : m'.toLayer = m.toLayer)
    (unsigned : m'.state = .unsigned ↔ m.state = .unsigned)
    (tagged : m'.tag.isTruthy = m.tag.isTruthy) :
    m'.prepare agent' = m.prepare agent := by
  rw [prepare, prepare, headers, tagged, Agent.macAlgorithm, Agent.macAlgorithm, algorithm]
  simp only [ne_eq, unsigned]

end Single

/-! ## All runs -/

/-- A run: signing or verifying a message with several signers, signing a message with one, or
tagging a message, with keys and external data. -/
inductive Run where
  | sign (m : Sign) (keys : Keys) (aad : Value)
  | verify (m : Sign) (keys : Keys) (aad : Value)
  | signOne (m : Sign1) (key : Credential) (aad : Value)
  | tag (m : Mac0) (key : Credential) (aad : Value)

namespace Run

/-- What a run writes to the log. -/
def log : Run → List LogLine
  | sign m keys aad => (m.sign keys aad).log
  | verify m keys aad => (m.verify keys aad).log
  | signOne m key aad => (m.sign key.agent aad).log
  | tag m key aad => (m.createTag key.agent aad).log

/-- Two runs are alike if they agree on what is public: the operation, the headers, the number of
entries, the algorithms of the keys, the lengths of the signatures, what the primitives come to, and
whether the message may be signed or tagged. Payloads, external data, keys, signatures and tags may
differ. -/
inductive Alike : Run → Run → Prop
  | sign {m m' : Sign} {keys keys' : Keys} {aad aad' : Value}
      (alike : Sign.SignAlike m m' keys keys' aad aad') : Alike (sign m keys aad) (sign m' keys' aad')
  | verify {m m' : Sign} {keys keys' : Keys} {aad aad' : Value}
      (alike : Sign.VerifyAlike m m' keys keys' aad aad') :
      Alike (verify m keys aad) (verify m' keys' aad')
  | signOne {m m' : Sign1} {key key' : Credential} {aad aad' : Value}
      (headers : m'.toLayer = m.toLayer) (unsigned : m'.state = .unsigned ↔ m.state = .unsigned)
      (length : m.signature.SameLength m'.signature) (same : key'.algorithm = key.algorithm) :
      Alike (signOne m key aad) (signOne m' key' aad')
  | tag {m m' : Mac0} {key key' : Credential} {aad aad' : Value}
      (headers : m'.toLayer = m.toLayer) (unsigned : m'.state = .unsigned ↔ m.state = .unsigned)
      (length : m.tag.SameLength m'.tag) (same : key'.algorithm = key.algorithm) :
      Alike (tag m key aad) (tag m' key' aad')

/-- **The log shows nothing but what is public.** Two runs that are alike write the same lines, at the
same levels, whatever payloads, external data, keys, signatures and tags they have. -/
theorem log_eq_of_alike {r r' : Run} (alike : Alike r r') : r'.log = r.log := by
  cases alike with
  | sign alike => exact alike.log_eq
  | verify alike => exact alike.log_eq
  | @signOne m m' key key' _ _ headers unsigned length same =>
    have algorithm : key'.agent.algorithm = key.agent.algorithm := congrArg Except.ok same
    rw [log, log, Sign1.log_sign, Sign1.log_sign,
      Sign1.prepare_congr algorithm headers unsigned length.1]
  | @tag m m' key key' _ _ headers unsigned length same =>
    have algorithm : key'.agent.algorithm = key.agent.algorithm := congrArg Except.ok same
    rw [log, log, Mac0.log_createTag, Mac0.log_createTag,
      Mac0.prepare_congr algorithm headers unsigned length.1]

/-- Two messages that name no algorithm, with different payloads, external data, keys and signatures of
one byte. Both signatures are refused, for their length, and the log tells so in the same words. -/
theorem log_eq_of_alike_refused :
    let prot : Bucket := { isProtected := true, fixed := some [] }
    let signed (payload signature : Bytes) : Sign :=
      { prot, unprot := { isProtected := false }, payload := .bytes payload, state := .signed,
        entries := [{ prot, unprot := { isProtected := false }, signature := .bytes signature }] }
    let keys (x y : Nat) : Keys := .inOrder [(Credential.ofPublic .es256 (.ec .p256 x y none)).agent]
    let r := Run.verify (signed [0] [1]) (keys 2 3) (.bytes [4])
    let r' := Run.verify (signed [5] [6]) (keys 7 8) (.bytes [9])
    Alike r r' ∧ r'.log = r.log ∧
      r.log = [⟨.debug, "Verifying signature 0 with ES256 (kid=None)"⟩,
        ⟨.warning,
          "Signature 0 failed verification: ES256: invalid signature length 1, expected 64"⟩] := by
  intro prot signed keys r r'
  have made (x y : Nat) : (Credential.ofPublic .es256 (.ec .p256 x y none)).Made := by
    have fits : (Key.ec .p256 x y none).Fits .es256 := ⟨rfl, rfl⟩
    have found : Algorithm.lookup (.text "ES256") = .ok .es256 := rfl
    exact .verifying (Credential.verifier_of_fits found fits)
  have supplied (x y : Nat) : ((keys x y).resolver 1).isOk = true := rfl
  have alike : Alike r r' := by
    refine .verify ⟨⟨rfl, rfl, (supplied 7 8).trans (supplied 2 3).symm⟩,
      fun resolve resolve' body opens opens' i s s' at_i at_i' _ => ?_⟩
    cases opens.resolved
    cases opens'.resolved
    cases opens.encoded
    obtain _ | i := i
    · cases at_i
      cases at_i'
      refine ⟨⟨rfl, .found (made _ _) (made _ _) rfl, ?_⟩, Value.sameLength_bytes rfl⟩
      rintro agent agent' ⟨⟩ ⟨⟩
      -- Each side is evaluated; the keys are not compared.
      exact .trans (b := some .rejected) rfl rfl
    · cases at_i
  exact ⟨alike, log_eq_of_alike alike, rfl⟩

end Run

end Cose
