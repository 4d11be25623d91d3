import Cose.Proofs.Message.Verifying

/-!
# Visiting entries in order

Signing and verifying a message with several signers visit its entries in order, up to the first
error. So what a run comes to depends on what the visits come to and on nothing else, and where the
visit of an entry fails the run fails with that error or with the one of an entry before.

## Main definitions

* `Sign.Visit`, `Sign.visitAll`: a visit of one entry, and of all entries in order
* `Sign.signVisit`, `Sign.verifyVisit`: the visits of signing and of verifying
* `Sign.Reaches`: how far a run comes
* `Sign.Ready`: a message that signing comes to visit the entries of

## Main results

* `Sign.computeAll_eq_visitAll`, `Sign.verifyAll_eq_visitAll`: both runs visit all entries
* `Sign.visitAll_congr`, `Sign.visitAll_result_congr`, `Sign.visitAll_log_congr`: equal visits make
  equal runs
* `Sign.visitAll_eq_error`: the visit of an entry fails
* `Sign.visitAll_answers_iff`: a run answers exactly if each of its visits does
* `Sign.sign_congr`, `Sign.verify_congr`: equal visits make equal outcomes for the message
-/

namespace Cose

namespace Sign

/-- **What the visit of an entry comes to**, at its place, with the lines that it writes to the
log. -/
abbrev Visit (α : Type) := Nat → Entry → Except Error α × List LogLine

/-- Visits entries in order, up to the first error. -/
def visitAll {α : Type} (visit : Visit α) : Nat → List Entry → Except Error (List α) × List LogLine
  | _, [] => (.ok [], [])
  | index, s :: ss =>
    match visit index s with
    | (.error e, lines) => (.error e, lines)
    | (.ok a, lines) =>
      let (rest, more) := visitAll visit (index + 1) ss
      (rest.map (a :: ·), lines ++ more)

/-- The visit of an entry that is signed. -/
def signVisit (resolve : Resolver) (body payload aad : Value) : Visit (Bucket × Bytes) :=
  fun index s =>
    match approach "Signing" resolve index s with
    | .error e => (.error e, [])
    | .ok (agent, line) => (do s.check; s.compute agent body payload aad, [line])

/-- The visit of an entry that is verified. -/
def verifyVisit (resolve : Resolver) (body payload aad : Value) : Visit Outcome :=
  fun index s =>
    match approach "Verifying" resolve index s with
    | .error e => (.error e, [])
    | .ok (agent, line) =>
      let judged := refusalOf (s.verify agent body payload aad)
      let noted := match judged with
        | .ok (some r) => [⟨.warning, s!"Signature {index} failed verification: {r.message}"⟩]
        | _ => []
      (judged.map fun refusal => ⟨index, refusal⟩, line :: noted)

theorem signVisit_eq_ok {resolve : Resolver} {body payload aad : Value} {index : Nat} {s : Entry}
    {r : Bucket × Bytes} (h : (signVisit resolve body payload aad index s).1 = .ok r) :
    s.check = .ok () ∧ ∃ agent line, approach "Signing" resolve index s = .ok (agent, line) ∧
      s.compute agent body payload aad = .ok r := by
  rw [signVisit] at h
  rcases approached : approach "Signing" resolve index s with e | ⟨agent, line⟩
  · rw [approached] at h
    cases h
  · rw [approached] at h
    obtain ⟨_, checked, computed⟩ := Except.bind_eq_ok.mp h
    exact ⟨checked, agent, line, rfl, computed⟩

section Visits

variable {α : Type} {visit visit' : Visit α} {index : Nat} {ss ss' : List Entry}

theorem visitAll_cons (s : Entry) :
    visitAll visit index (s :: ss) =
      match visit index s with
      | (.error e, lines) => (.error e, lines)
      | (.ok a, lines) =>
        let (rest, more) := visitAll visit (index + 1) ss
        (rest.map (a :: ·), lines ++ more) :=
  rfl

/-- Equal visits of the same entries make equal runs. -/
theorem visitAll_congr
    (same : ∀ (i : Nat) (s : Entry), ss[i]? = some s →
      visit' (index + i) s = visit (index + i) s) :
    visitAll visit' index ss = visitAll visit index ss := by
  induction ss generalizing index with
  | nil => rfl
  | cons s ss ih =>
    have first : visit' index s = visit index s := same 0 s rfl
    have others : visitAll visit' (index + 1) ss = visitAll visit (index + 1) ss := by
      refine ih fun i t at_i => ?_
      rw [Nat.add_right_comm]
      exact same (i + 1) t at_i
    rw [visitAll_cons, visitAll_cons, first, others]

/-- Visits of entries in pairs that come to the same make runs that come to the same, whatever is
written to the log. -/
theorem visitAll_result_congr
    (same : List.Forall₂ (fun s s' => ∀ i, (visit' i s').1 = (visit i s).1) ss ss') :
    (visitAll visit' index ss').1 = (visitAll visit index ss).1 := by
  induction same generalizing index with
  | nil => rfl
  | @cons s s' ss ss' first _ ih =>
    have first := first index
    rw [visitAll_cons, visitAll_cons]
    rcases visited' : visit' index s' with ⟨r', lines'⟩
    rcases visited : visit index s with ⟨r, lines⟩
    rw [visited, visited'] at first
    obtain rfl : r' = r := first
    cases r' with
    | error e => rfl
    | ok a =>
      simp only
      rw [ih]

/-- A run comes to an entry if the visits of all entries before it answer. -/
def Reaches (visit : Visit α) (index : Nat) (ss : List Entry) (i : Nat) : Prop :=
  ∀ (j : Nat) (t : Entry), j < i → ss[j]? = some t → ∃ r, (visit (index + j) t).1 = .ok r

/-- Runs write the same to the log if the visits of as many entries do, and answer or fail alike, as
far as the first run comes. -/
theorem visitAll_log_congr (count : ss'.length = ss.length)
    (same : ∀ (i : Nat) (s s' : Entry), ss[i]? = some s → ss'[i]? = some s' →
      Reaches visit index ss i →
        (visit' (index + i) s').2 = (visit (index + i) s).2 ∧
        (visit' (index + i) s').1.isOk = (visit (index + i) s).1.isOk) :
    (visitAll visit' index ss').2 = (visitAll visit index ss).2 := by
  induction ss generalizing index ss' with
  | nil =>
    cases List.length_eq_zero_iff.mp count
    rfl
  | cons s ss ih =>
    rcases ss' with _ | ⟨s', ss'⟩
    · cases count
    obtain ⟨lines_eq, both⟩ := same 0 s s' rfl rfl fun j t before => absurd before (Nat.not_lt_zero j)
    rw [Nat.add_zero] at lines_eq both
    rw [visitAll_cons, visitAll_cons]
    rcases visited : visit index s with ⟨r, lines⟩
    rcases visited' : visit' index s' with ⟨r', lines'⟩
    rw [visited, visited'] at lines_eq both
    obtain rfl : lines' = lines := lines_eq
    rcases r with e | a <;> rcases r' with e' | a'
    · rfl
    · cases both
    · cases both
    · have others := @ih (index + 1) ss' (Nat.succ.inj count) fun i t t' at_i at_i' reached => by
        rw [Nat.add_right_comm]
        refine same (i + 1) t t' at_i at_i' fun j u before at_j => ?_
        cases j with
        | zero =>
          cases at_j
          exact ⟨a, by rw [Nat.add_zero, visited]⟩
        | succ j =>
          rw [← Nat.add_assoc, Nat.add_right_comm]
          exact reached j u (Nat.lt_of_succ_lt_succ before) at_j
      simp only [others]

/-- A run whose visits answer what those of another run answer comes to the same. -/
theorem visitAll_eq_ok_of {rs : List α} (count : ss'.length = ss.length)
    (each : ∀ (i : Nat) (s s' : Entry), ss[i]? = some s → ss'[i]? = some s' →
      ∀ a, (visit (index + i) s).1 = .ok a → (visit' (index + i) s').1 = .ok a)
    (answered : (visitAll visit index ss).1 = .ok rs) :
    (visitAll visit' index ss').1 = .ok rs := by
  induction ss generalizing index ss' rs with
  | nil =>
    cases List.length_eq_zero_iff.mp count
    exact answered
  | cons s ss ih =>
    rcases ss' with _ | ⟨s', ss'⟩
    · cases count
    rw [visitAll_cons] at answered ⊢
    rcases visited : visit index s with ⟨e | a, lines⟩
    · rw [visited] at answered
      cases answered
    rw [visited] at answered
    obtain ⟨rest, others, rfl⟩ := Except.map_eq_ok.mp answered
    have first : (visit' index s').1 = .ok a :=
      each 0 s s' rfl rfl a (by rw [Nat.add_zero, visited])
    rcases visited' : visit' index s' with ⟨r', lines'⟩
    rw [visited'] at first
    cases first
    have each (i : Nat) (t t' : Entry) (at_i : ss[i]? = some t) (at_i' : ss'[i]? = some t') (b : α)
        (answered : (visit (index + 1 + i) t).1 = .ok b) :
        (visit' (index + 1 + i) t').1 = .ok b := by
      rw [Nat.add_right_comm] at answered ⊢
      exact each (i + 1) t t' at_i at_i' b answered
    have others := ih (Nat.succ.inj count) each others
    simp only [others]
    rfl

/-- **The visit of an entry fails**, so the run fails with that error, or with the one of an entry
before. -/
theorem visitAll_eq_error {i : Nat} {s : Entry} {e : Error} (at_i : ss[i]? = some s)
    (failed : (visit (index + i) s).1 = .error e) :
    ∃ e', (visitAll visit index ss).1 = .error e' ∧
      (e' = e ∨ ∃ (j : Nat) (t : Entry), j < i ∧ ss[j]? = some t ∧
        (visit (index + j) t).1 = .error e') := by
  induction ss generalizing index i with
  | nil => cases at_i
  | cons t ss ih =>
    rcases visited : visit index t with ⟨e₀ | a, lines⟩
    · have ends : (visitAll visit index (t :: ss)).1 = .error e₀ := by
        rw [visitAll_cons, visited]
      refine ⟨e₀, ends, ?_⟩
      cases i with
      | zero =>
        cases at_i
        rw [Nat.add_zero, visited] at failed
        exact .inl (Except.error.inj failed)
      | succ i => exact .inr ⟨0, t, i.succ_pos, rfl, by rw [Nat.add_zero, visited]⟩
    · cases i with
      | zero =>
        cases at_i
        rw [Nat.add_zero, visited] at failed
        cases failed
      | succ i =>
        rw [← Nat.add_assoc, Nat.add_right_comm] at failed
        obtain ⟨e', ends, which⟩ := ih at_i failed
        refine ⟨e', by rw [visitAll_cons, visited]; simp only; rw [ends]; rfl, ?_⟩
        refine which.imp_right ?_
        rintro ⟨j, u, before, at_j, failed⟩
        rw [Nat.add_right_comm] at failed
        exact ⟨j + 1, u, Nat.succ_lt_succ before, at_j, failed⟩

/-- **A run answers exactly if each of its visits does.** -/
theorem visitAll_answers_iff : (∃ rs, (visitAll visit index ss).1 = .ok rs) ↔
    ∀ (i : Nat) (s : Entry), ss[i]? = some s → ∃ r, (visit (index + i) s).1 = .ok r := by
  constructor
  · rintro ⟨rs, answered⟩ i s at_i
    rcases visited : (visit (index + i) s).1 with e | r
    · obtain ⟨e', failed, -⟩ := visitAll_eq_error at_i visited
      cases failed.symm.trans answered
    · exact ⟨r, rfl⟩
  · intro each
    induction ss generalizing index with
    | nil => exact ⟨[], rfl⟩
    | cons s ss ih =>
      obtain ⟨r, first⟩ := each 0 s rfl
      rw [Nat.add_zero] at first
      obtain ⟨rs, others⟩ := @ih (index + 1) fun i t at_i => by
        rw [Nat.add_right_comm]
        exact each (i + 1) t at_i
      refine ⟨r :: rs, ?_⟩
      rcases visited : visit index s with ⟨r', lines⟩
      rw [visited] at first
      cases first
      rw [visitAll_cons, visited]
      simp only [others]
      rfl

end Visits

section Runs

variable {resolve : Resolver} {body payload aad : Value} (index : Nat) (ss : List Entry)

theorem computeAll_eq_visitAll :
    computeAll resolve body payload aad index ss =
      visitAll (signVisit resolve body payload aad) index ss := by
  induction ss generalizing index with
  | nil => rfl
  | cons s ss ih =>
    rw [computeAll, visitAll_cons, signVisit]
    rcases approach "Signing" resolve index s with e | ⟨agent, line⟩
    · rfl
    simp only
    rcases (do s.check; s.compute agent body payload aad : Except Error _) with e | r
    · rfl
    · simp only [ih, List.singleton_append]

theorem verifyAll_eq_visitAll :
    verifyAll resolve body payload aad index ss =
      visitAll (verifyVisit resolve body payload aad) index ss := by
  induction ss generalizing index with
  | nil => rfl
  | cons s ss ih =>
    rw [verifyAll, visitAll_cons, verifyVisit]
    rcases approach "Verifying" resolve index s with e | ⟨agent, line⟩
    · rfl
    simp only
    rcases refusalOf (s.verify agent body payload aad) with e | ⟨- | r⟩
    · rfl
    · simp only [ih, Except.map]
    · simp only [ih, Except.map]

end Runs

section Message

variable {m : Sign} {keys keys' : Keys} {aad : Value} {resolve resolve' : Resolver}

/-- Signing depends on what the visits come to, and on nothing else of the keys. -/
theorem sign_congr (resolved : keys.resolver m.entries.length = .ok resolve)
    (resolved' : keys'.resolver m.entries.length = .ok resolve')
    (same : ∀ body, m.prot.encode = .ok body → ∀ (j : Nat) (t : Entry), m.entries[j]? = some t →
      signVisit resolve' (.bytes body) m.payload aad j t =
        signVisit resolve (.bytes body) m.payload aad j t) :
    m.sign keys' aad = m.sign keys aad := by
  rw [sign, sign, resolved, resolved']
  cases encoded : m.prot.encode with
  | error e => rfl
  | ok body =>
    have runs : computeAll resolve' (.bytes body) m.payload aad 0 m.entries =
        computeAll resolve (.bytes body) m.payload aad 0 m.entries := by
      rw [computeAll_eq_visitAll, computeAll_eq_visitAll]
      refine visitAll_congr fun j t at_j => ?_
      rw [Nat.zero_add]
      exact same body encoded j t at_j
    simp only [Except.ok_bind, Except.pure_eq, runs]

theorem verify_congr (resolved : keys.resolver m.entries.length = .ok resolve)
    (resolved' : keys'.resolver m.entries.length = .ok resolve')
    (same : ∀ body, m.prot.encode = .ok body → ∀ (j : Nat) (t : Entry), m.entries[j]? = some t →
      verifyVisit resolve' (.bytes body) m.payload aad j t =
        verifyVisit resolve (.bytes body) m.payload aad j t) :
    m.verify keys' aad = m.verify keys aad := by
  rw [verify, verify, resolved, resolved']
  cases encoded : m.prot.encode with
  | error e => rfl
  | ok body =>
    have runs : verifyAll resolve' (.bytes body) m.payload aad 0 m.entries =
        verifyAll resolve (.bytes body) m.payload aad 0 m.entries := by
      rw [verifyAll_eq_visitAll, verifyAll_eq_visitAll]
      refine visitAll_congr fun j t at_j => ?_
      rw [Nat.zero_add]
      exact same body encoded j t at_j
    simp only [Except.ok_bind, Except.pure_eq, runs]

/-- Signing comes to visit the entries: nothing that precedes the visits fails. -/
structure Ready (m : Sign) (keys : Keys) (resolve : Resolver) (body : Bytes) : Prop where
  nonempty : m.entries ≠ []
  unsigned : m.state = .unsigned
  checked : m.check = .ok ()
  resolved : keys.resolver m.entries.length = .ok resolve
  encoded : m.prot.encode = .ok body

theorem Ready.sign_result {body : Bytes} {e : Error} (h : m.Ready keys resolve body)
    (failed : (visitAll (signVisit resolve (.bytes body) m.payload aad) 0 m.entries).1 = .error e) :
    (m.sign keys aad).result = .error e := by
  have present : ¬ m.entries.isEmpty = true := by simpa using h.nonempty
  rw [sign, if_neg present, if_neg (not_not.mpr h.unsigned), h.checked, h.resolved, h.encoded]
  simp only [Except.ok_bind, Except.pure_eq, computeAll_eq_visitAll, Step.logging_result, failed,
    Step.fail_result]

theorem Ready.sign_answers {body : Bytes} {rs : List (Bucket × Bytes)}
    (h : m.Ready keys resolve body)
    (computed : (visitAll (signVisit resolve (.bytes body) m.payload aad) 0 m.entries).1 = .ok rs) :
    (m.sign keys aad).result = .ok () := by
  have present : ¬ m.entries.isEmpty = true := by simpa using h.nonempty
  rw [← computeAll_eq_visitAll] at computed
  obtain ⟨_, -, -, committed⟩ := computeAll_eq_ok computed
  rw [sign, if_neg present, if_neg (not_not.mpr h.unsigned), h.checked, h.resolved, h.encoded]
  simp only [Except.ok_bind, Except.pure_eq, Step.logging_result, computed,
    Bucket.finalize_of_encode h.encoded, committed, Step.within_result]

/-- Signing answers exactly if nothing precedes the visits that fails, and no visit does. -/
theorem sign_eq_ok_iff : (m.sign keys aad).result = .ok () ↔ ∃ resolve body rs,
    m.Ready keys resolve body ∧
      (visitAll (signVisit resolve (.bytes body) m.payload aad) 0 m.entries).1 = .ok rs := by
  constructor
  · intro answered
    rcases sign_cases m keys aad with
      ⟨e, failed, -⟩ | ⟨nonempty, unsigned, checked, -, resolve, body, -, resolved, encoded, -, -⟩
    · exact absurd (failed.symm.trans answered) (by simp)
    have ready : m.Ready keys resolve body := ⟨nonempty, unsigned, checked, resolved, encoded⟩
    rcases computed : (visitAll (signVisit resolve (.bytes body) m.payload aad) 0 m.entries).1 with
      e | rs
    · exact absurd ((ready.sign_result computed).symm.trans answered) (by simp)
    · exact ⟨resolve, body, rs, ready, computed⟩
  · rintro ⟨resolve, body, rs, ready, computed⟩
    exact ready.sign_answers computed

/-- Where signing answers, it has visited the entries, and no visit failed. -/
theorem ready_of_sign (answered : (m.sign keys aad).result = .ok ()) :
    ∃ resolve body, m.Ready keys resolve body ∧ ∀ (i : Nat) (s : Entry), m.entries[i]? = some s →
      ∃ r, (signVisit resolve (.bytes body) m.payload aad i s).1 = .ok r := by
  obtain ⟨resolve, body, rs, ready, computed⟩ := sign_eq_ok_iff.mp answered
  refine ⟨resolve, body, ready, fun i s at_i => ?_⟩
  have visited := visitAll_answers_iff.mp ⟨rs, computed⟩ i s at_i
  rwa [Nat.zero_add] at visited

end Message

end Sign

end Cose
