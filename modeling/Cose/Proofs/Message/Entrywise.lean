import Cose.Proofs.Message.Preset

/-!
# Signing entry by entry

A caller may manage the entries of a message one by one, and sign each on its own with the bytes of
the protected bucket and the payload of the message. This is compared with signing the message. Both
compute the same signatures and leave the same entries. But the message asks for the rules for
headers first, and an entry on its own does not: it is signed with headers that cannot be encoded
afterwards. And where the rules hold of an entry with the algorithm filled in and not of the one
before, since the algorithm is listed as critical, only the entry on its own is signed.

## Main definitions

* `Sign.signEach`: signing entries one by one

## Main results

* `Entry.check_iff_of_sign`: what signing an entry on its own leaves to ask for
* `Sign.signVisit_answers_iff`: signing an entry within a message, and on its own
* `Sign.signEach_answers_iff`, `Sign.signEach_after`, `Sign.signEach_checks_iff`: signing entries
  one by one
* `Sign.sign_entrywise`: signing a message is signing its entries one by one, if they pass the rules
-/

namespace Cose

/-! ## One entry -/

namespace Entry

variable {s : Entry} {agent : Agent} {body payload aad : Value}

theorem encode_iff_check {p : Bytes} (encoded : s.prot.encode = .ok p) :
    (∃ elements, s.encode = .ok elements) ↔ s.check = .ok () := by
  constructor
  · rintro ⟨elements, answered⟩
    exact (encode_eq_ok answered).1
  · intro checked
    exact ⟨_, encode_of_check checked encoded⟩

/-- **What signing an entry on its own leaves to ask for.** An entry that is signed passed the rules
before exactly if it can be encoded now, and did not get an algorithm that it demands. -/
theorem check_iff_of_sign (wf : s.toLayer.WellFormed)
    (answered : (s.sign agent body payload aad).result = .ok ()) : s.check = .ok () ↔
      (∃ elements, (s.sign agent body payload aad).after.encode = .ok elements) ∧
        (s.keepsBucket = true ∨ ¬ s.prot.Demands .alg) := by
  obtain ⟨-, w, -, signed⟩ := sign_eq_ok answered
  have encoded : w.after.prot.encode = .ok w.prepared.bytes := w.prepared.layer_encode
  rw [signed, encode_iff_check encoded]
  exact w.prepared.check_iff wf

end Entry

namespace Sign

/-! ## Entries one by one -/

/-- **Signs entries one by one**, each on its own with its agent, up to the first error. The entries
before it stay signed. -/
def signEach (body payload aad : Value) : List Entry → List Agent → Step (List Entry) Unit
  | s :: ss, agent :: agents =>
    let step := s.sign agent body payload aad
    match step.result with
    | .error e => .fail (step.after :: ss) e
    | .ok () =>
      .logging step.log ((signEach body payload aad ss agents).within (step.after :: ·))
  | ss, _ => ⟨ss, .ok (), []⟩

section Each

variable {body payload aad : Value} {ss : List Entry} {agents : List Agent}

theorem signEach_answers_iff : (signEach body payload aad ss agents).result = .ok () ↔
    ∀ (i : Nat) (s : Entry) (agent : Agent), ss[i]? = some s → agents[i]? = some agent →
      (s.sign agent body payload aad).result = .ok () := by
  induction ss generalizing agents with
  | nil => simp [signEach]
  | cons s ss ih =>
    rcases agents with _ | ⟨agent, agents⟩
    · simp [signEach]
    rw [signEach]
    rcases first : (s.sign agent body payload aad).result with e | ⟨⟩
    · simp only [Step.fail_result]
      constructor
      · intro answered
        cases answered
      · intro each
        cases first.symm.trans (each 0 s agent rfl rfl)
    · simp only [Step.logging_result, Step.within_result, ih]
      constructor
      · rintro others (_ | i) t agent' at_i agent_at
        · cases at_i
          cases agent_at
          exact first
        · exact others i t agent' at_i agent_at
      · intro each i
        exact each (i + 1)

/-- If entries are signed one by one, so are the first and the others. -/
theorem signEach_cons {s : Entry} {agent : Agent}
    (answered : (signEach body payload aad (s :: ss) (agent :: agents)).result = .ok ()) :
    (s.sign agent body payload aad).result = .ok () ∧
      (signEach body payload aad ss agents).result = .ok () ∧
      (signEach body payload aad (s :: ss) (agent :: agents)).after =
        (s.sign agent body payload aad).after :: (signEach body payload aad ss agents).after := by
  rw [signEach] at answered ⊢
  rcases first : (s.sign agent body payload aad).result with e | ⟨⟩
  · rw [first] at answered
    cases answered
  · rw [first] at answered
    exact ⟨rfl, answered, rfl⟩

/-- Signing entries one by one leaves what signing each of them leaves. -/
theorem signEach_after (answered : (signEach body payload aad ss agents).result = .ok ()) {i : Nat}
    {s : Entry} {agent : Agent} (at_i : ss[i]? = some s) (agent_at : agents[i]? = some agent) :
    (signEach body payload aad ss agents).after[i]? =
      some (s.sign agent body payload aad).after := by
  induction ss generalizing agents i with
  | nil => cases at_i
  | cons t ss ih =>
    rcases agents with _ | ⟨agent', agents⟩
    · cases agent_at
    obtain ⟨-, others, after⟩ := signEach_cons answered
    rw [after]
    cases i with
    | zero =>
      cases at_i
      cases agent_at
      rfl
    | succ i => exact ih others at_i agent_at

/-- **The rules hold of entries that are signed one by one** exactly if all that is left of them can
be encoded, and none got an algorithm that it demands. -/
theorem signEach_checks_iff (wf : ∀ s ∈ ss, s.toLayer.WellFormed)
    (fits : agents.length = ss.length)
    (answered : (signEach body payload aad ss agents).result = .ok ()) :
    (∀ s ∈ ss, s.check = .ok ()) ↔
      (∀ t ∈ (signEach body payload aad ss agents).after, ∃ elements, t.encode = .ok elements) ∧
        ∀ s ∈ ss, s.keepsBucket = true ∨ ¬ s.prot.Demands .alg := by
  induction ss generalizing agents with
  | nil => simp [signEach]
  | cons s ss ih =>
    rcases agents with _ | ⟨agent, agents⟩
    · cases fits
    obtain ⟨first, others, after⟩ := signEach_cons answered
    rw [List.forall_mem_cons] at wf
    have here := Entry.check_iff_of_sign wf.1 first
    have there := ih wf.2 (Nat.succ.inj fits) others
    simp only [after, List.forall_mem_cons, here, there]
    exact and_and_and_comm

theorem signEach_length : (signEach body payload aad ss agents).after.length = ss.length := by
  induction ss generalizing agents with
  | nil => rfl
  | cons s ss ih =>
    rcases agents with _ | ⟨agent, agents⟩
    · rfl
    rw [signEach]
    split
    · rfl
    · exact congrArg Nat.succ ih

/-! ## The entries of a message -/

/-- **An entry is signed within a message** exactly if it passes the rules for headers and is signed
on its own. -/
theorem signVisit_answers_iff {resolve : Resolver} {i : Nat} {s : Entry} {agent : Agent}
    (found : resolve i s = .ok agent) (bare : s.isSigned = false) :
    (∃ r, (signVisit resolve body payload aad i s).1 = .ok r) ↔
      s.check = .ok () ∧ (s.sign agent body payload aad).result = .ok () := by
  rw [Entry.sign_eq_ok_iff]
  constructor
  · rintro ⟨r, visited⟩
    obtain ⟨checked, agent', line, approached, computed⟩ := signVisit_eq_ok visited
    cases found.symm.trans (approach_eq_ok approached)
    exact ⟨checked, bare, r, computed⟩
  · rintro ⟨checked, -, r, computed⟩
    obtain ⟨w, -, -⟩ := Entry.compute_eq_ok computed
    obtain ⟨line, approached⟩ := approach_of_kid "Signing" found
      (Agent.signatureAlgorithm_eq_ok w.algorithm_eq) (Layer.kid_cases checked)
    refine ⟨r, ?_⟩
    rw [signVisit, approached]
    simp only [checked, Except.ok_bind, computed]

end Each

section Message

variable {m : Sign} {agents : List Agent} {aad : Value}

/-- The visit of an entry whose agent stands at its place. -/
theorem exists_agent_signVisit_iff (bare : ∀ s ∈ m.entries, s.isSigned = false)
    (fits : agents.length = m.entries.length) (body : Value) {i : Nat} {s : Entry}
    (at_i : m.entries[i]? = some s) :
    ∃ agent, agents[i]? = some agent ∧
      ((∃ r, (signVisit (Keys.resolveInOrder agents) body m.payload aad i s).1 = .ok r) ↔
        s.check = .ok () ∧ (s.sign agent body m.payload aad).result = .ok ()) := by
  have bound : i < agents.length := fits ▸ (List.getElem?_eq_some_iff.mp at_i).1
  have agent_at : agents[i]? = some agents[i] := List.getElem?_eq_getElem bound
  exact ⟨agents[i], agent_at, signVisit_answers_iff (Keys.resolveInOrder_eq_ok.mpr agent_at)
    (bare s (List.mem_of_getElem? at_i))⟩

variable (unsigned : m.state = .unsigned) (checked : m.check = .ok ()) (nonempty : m.entries ≠ [])
  (bare : ∀ s ∈ m.entries, s.isSigned = false) (fits : agents.length = m.entries.length)

include unsigned checked nonempty bare fits in
/-- Signing a message answers exactly if its protected bucket has bytes, with which its entries
are signed one by one, and all entries pass the rules for headers. -/
theorem sign_answers_iff (aad : Value) :
    (m.sign (.inOrder agents) aad).result = .ok () ↔ ∃ body, m.prot.encode = .ok body ∧
      (signEach (.bytes body) m.payload aad m.entries agents).result = .ok () ∧
      ∀ s ∈ m.entries, s.check = .ok () := by
  constructor
  · intro answered
    obtain ⟨resolve, body, ready, passes⟩ := ready_of_sign answered
    obtain ⟨-, rfl⟩ := Keys.resolver_inOrder_eq_ok.mp ready.resolved
    have both {i : Nat} {s : Entry} (at_i : m.entries[i]? = some s) :
        ∃ agent, agents[i]? = some agent ∧
          s.check = .ok () ∧ (s.sign agent (.bytes body) m.payload aad).result = .ok () := by
      obtain ⟨agent, agent_at, visits⟩ := exists_agent_signVisit_iff bare fits (.bytes body) at_i
      exact ⟨agent, agent_at, visits.mp (passes i s at_i)⟩
    refine ⟨body, ready.encoded, signEach_answers_iff.mpr fun i s agent at_i agent_at => ?_,
      fun s hs => ?_⟩
    · obtain ⟨agent', agent_at', -, signed⟩ := both at_i
      cases agent_at.symm.trans agent_at'
      exact signed
    · obtain ⟨i, at_i⟩ := List.getElem?_of_mem hs
      obtain ⟨-, -, passed, -⟩ := both at_i
      exact passed
  · rintro ⟨body, encoded, each, rules⟩
    have resolved : (Keys.inOrder agents).resolver m.entries.length =
        .ok (Keys.resolveInOrder agents) := Keys.resolver_inOrder_eq_ok.mpr ⟨fits, rfl⟩
    have visited : ∃ rs, (visitAll (signVisit (Keys.resolveInOrder agents) (.bytes body) m.payload
        aad) 0 m.entries).1 = .ok rs := by
      refine visitAll_answers_iff.mpr fun i s at_i => ?_
      obtain ⟨agent, agent_at, visits⟩ := exists_agent_signVisit_iff bare fits (.bytes body) at_i
      rw [Nat.zero_add]
      exact visits.mpr
        ⟨rules s (List.mem_of_getElem? at_i), signEach_answers_iff.mp each i s agent at_i agent_at⟩
    obtain ⟨rs, visited⟩ := visited
    exact sign_eq_ok_iff.mpr
      ⟨_, body, rs, ⟨nonempty, unsigned, checked, resolved, encoded⟩, visited⟩

/-- Both leave the same entries. -/
theorem sign_after_entries {body : Bytes} (encoded : m.prot.encode = .ok body)
    (answered : (m.sign (.inOrder agents) aad).result = .ok ())
    (each : (signEach (.bytes body) m.payload aad m.entries agents).result = .ok ()) :
    (m.sign (.inOrder agents) aad).after.entries =
      (signEach (.bytes body) m.payload aad m.entries agents).after := by
  rcases sign_cases m (.inOrder agents) aad with
    ⟨e, failed, -⟩ | ⟨-, -, -, -, resolve, body', entries, resolved, encoded', run, after⟩
  · cases failed.symm.trans answered
  cases encoded.symm.trans encoded'
  obtain ⟨-, rfl⟩ := Keys.resolver_inOrder_eq_ok.mp resolved
  rw [after]
  refine List.ext_getElem? fun i => ?_
  rcases at_i : m.entries[i]? with _ | s
  · have short : m.entries.length ≤ i := List.getElem?_eq_none_iff.mp at_i
    rw [List.getElem?_eq_none (run.length_eq ▸ short),
      List.getElem?_eq_none (signEach_length.symm ▸ short)]
  · obtain ⟨agent, found, w, signed⟩ := run.getElem? at_i
    rw [Nat.zero_add] at found
    have agent_at := Keys.resolveInOrder_eq_ok.mp found
    obtain ⟨-, w', -, alone⟩ :=
      Entry.sign_eq_ok (signEach_answers_iff.mp each i s agent at_i agent_at)
    rw [signed, signEach_after each at_i agent_at, alone, w'.after_unique w]

end Message

/-- **Signing entry by entry agrees with signing the message** where all entries pass the rules for
headers. A message that is not signed, has headers that pass the rules and entries without
signatures is compared with its entries signed one by one. Signing the message answers exactly if
that does and all entries pass the rules: what is left of them by then can be encoded, and none got
an algorithm that it demands. If the message is signed, both leave the same entries. -/
theorem sign_entrywise (m : Sign) (agents : List Agent) (aad : Value) (wf : m.WellFormed)
    (unsigned : m.state = .unsigned) (checked : m.check = .ok ()) (nonempty : m.entries ≠ [])
    (bare : ∀ s ∈ m.entries, s.isSigned = false) (fits : agents.length = m.entries.length) :
    ((m.sign (.inOrder agents) aad).result = .ok () ↔ ∃ body, m.prot.encode = .ok body ∧
      (signEach (.bytes body) m.payload aad m.entries agents).result = .ok () ∧
      ∀ s ∈ m.entries, s.check = .ok ()) ∧
    ∀ body, m.prot.encode = .ok body →
      let each := signEach (.bytes body) m.payload aad m.entries agents
      each.result = .ok () →
        ((m.sign (.inOrder agents) aad).result = .ok () ↔
          (∀ t ∈ each.after, ∃ elements, t.encode = .ok elements) ∧
            ∀ s ∈ m.entries, s.keepsBucket = true ∨ ¬ s.prot.Demands .alg) ∧
        ((m.sign (.inOrder agents) aad).result = .ok () →
          (m.sign (.inOrder agents) aad).after.entries = each.after) := by
  have answers := sign_answers_iff unsigned checked nonempty bare fits aad
  refine ⟨answers, ?_⟩
  intro body encoded each answered
  constructor
  · have layers : ∀ s ∈ m.entries, s.toLayer.WellFormed := fun s hs => (wf.entries s hs).layer
    rw [← signEach_checks_iff layers fits answered, answers]
    constructor
    · rintro ⟨-, -, -, rules⟩
      exact rules
    · intro rules
      exact ⟨body, encoded, answered, rules⟩
  · intro signed
    exact sign_after_entries encoded signed answered

/-- An entry without parameters and one that names the algorithm of its key are signed one by one
and within their message with the same outcome. -/
theorem sign_entrywise_pair :
    let plain : Entry :=
      { prot := { isProtected := true }, unprot := { isProtected := false },
        signature := .bytes [] }
    let named : Entry :=
      { plain with prot := { isProtected := true, entries := [(.alg, .int (-8))] } }
    let m : Sign := { unsignedPair with entries := [plain, named] }
    let agents : List Agent := [.marking .es256 1, .marking .edDSA 2]
    let each := signEach (.bytes []) m.payload (.bytes []) m.entries agents
    (m.sign (.inOrder agents)).result = .ok () ∧
      (m.sign (.inOrder agents)).after.entries = each.after ∧
      ∀ t ∈ each.after, ∃ elements, t.encode = .ok elements := by
  intro plain named m agents each
  have empty {isProtected : Bool} : Bucket.WellFormed { isProtected := isProtected } :=
    (Bucket.labelled_empty _ _).wellFormed rfl
  have labelled : named.prot.Labelled :=
    ⟨List.nodup_singleton _, by simp [named, Bucket.labels, Label.IsCanonical]; rfl⟩
  have wf : m.WellFormed := by
    refine ⟨⟨empty, empty, rfl, rfl⟩, .bytes _, ?_⟩
    simp only [m, List.forall_mem_cons]
    exact ⟨⟨⟨empty, empty, rfl, rfl⟩, .bytes _⟩,
      ⟨⟨labelled.wellFormed rfl, empty, rfl, rfl⟩, .bytes _⟩,
      fun s hs => absurd hs List.not_mem_nil⟩
  obtain ⟨-, compared⟩ :=
    sign_entrywise m agents (.bytes []) wf rfl rfl (by simp [m]) (by decide) rfl
  obtain ⟨verdict, same⟩ := compared [] rfl (by decide +kernel)
  have signed : (m.sign (.inOrder agents)).result = .ok () := by decide +kernel
  exact ⟨signed, same signed, (verdict.mp signed).1⟩

/-- An entry with the algorithm in both buckets is signed on its own, and cannot be encoded then;
the message with it is refused. So is one with an entry that lists the algorithm as critical and
does not name it, which is signed on its own and can be encoded. -/
theorem sign_entrywise_shared :
    let shared : Entry :=
      { prot := { isProtected := true, entries := [(.alg, .int (-7))] }
        unprot := { isProtected := false, entries := [(.alg, .int (-7))] }
        signature := .bytes [] }
    let demanding : Entry :=
      { prot := { isProtected := true, entries := [(.crit, .list [.int 1])] }
        unprot := { isProtected := false }
        signature := .bytes [] }
    let agents : List Agent := [.marking .es256 1]
    let message (s : Entry) : Sign := { unsignedPair with entries := [s] }
    let each (s : Entry) := signEach (.bytes []) (.bytes [0]) (.bytes []) [s] agents
    ((each shared).result = .ok () ∧
      ((message shared).sign (.inOrder agents)).result = .error (.header (.shared [.alg])) ∧
      (each shared).after.map (·.encode.isOk) = [false]) ∧
    (each demanding).result = .ok () ∧
      ((message demanding).sign (.inOrder agents)).result =
        .error (.header (.criticalMissing .alg)) ∧
      (each demanding).after.map (·.encode.isOk) = [true] := by
  exact ⟨⟨by decide +kernel, by decide +kernel, by decide +kernel⟩, by decide +kernel,
    by decide +kernel, by decide +kernel⟩

end Sign

end Cose
