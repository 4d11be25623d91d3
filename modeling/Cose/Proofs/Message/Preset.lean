import Cose.Proofs.Header.Preset
import Cose.Proofs.Message.Agreement
import Cose.Proofs.Message.Unprotected

/-!
# Signing with the algorithm set or filled in

A message, an entry or a tag is signed with the same outcome whether its protected bucket names the
algorithm of the key or gets it while it is signed: the key gets the same bytes, and the same
message is left. There are two exceptions. The rules for headers are applied to a message before the
algorithm is filled in, so a message that lists the algorithm as critical is refused. And an entry
on its own is signed without a look at its unprotected bucket, unless the algorithm is filled in.

## Main results

* `Sign1.presets`, `Mac0.presets`: messages with one signature or tag
* `Entry.presets`: entries on their own
* `Sign.sign_iff_of_presets`, `Sign.sign_of_presets`: an entry of a message
* `preset_or_filled`: all of these
-/

namespace Cose

variable {a : Algorithm} {named : Bucket} {agent : Agent} {aad : Value}

/-! ## One signature -/

namespace Sign1

variable {m : Sign1}

theorem exists_prepare (answered : (m.sign agent aad).result = .ok ()) :
    ∃ prot line, m.prepare agent = .ok (prot, line) := by
  rcases prepared : m.prepare agent with e | ⟨prot, line⟩
  · rw [sign, prepared] at answered
    cases answered
  · exact ⟨prot, line, rfl⟩

/-- Signing depends on what is prepared and on the payload. -/
theorem sign_of_prepare {prot : Bucket} {line : LogLine}
    (prepared : m.prepare agent = .ok (prot, line))
    (prepared' : Sign1.prepare { m with prot := named } agent = .ok (prot, line)) :
    (Sign1.sign { m with prot := named } agent aad).result = (m.sign agent aad).result ∧
      ((m.sign agent aad).result = .ok () →
        (Sign1.sign { m with prot := named } agent aad).after = (m.sign agent aad).after) := by
  have covers (p : Bytes) :
      Sign1.structureFor { m with prot := named } p aad = m.structureFor p aad := rfl
  simp only [sign, prepared, prepared', covers, Step.logging_result, Step.logging_after]
  split
  · exact ⟨rfl, fun answered => by cases answered⟩
  next s made =>
  simp only [attach, Option.getD_some]
  split
  · exact ⟨rfl, fun answered => by cases answered⟩
  split
  · exact ⟨rfl, fun answered => by cases answered⟩
  · exact ⟨rfl, fun _ => rfl⟩

variable (set : m.prot.Presets a named) (registered : a ∈ Registry.standard.algorithms)
  (own : agent.algorithm = .ok a)

include set registered own

/-- Signing is prepared in the same way for both, unless the algorithm is demanded. -/
theorem prepare_iff_of_presets {r : Bucket × LogLine} : m.prepare agent = .ok r ↔
    ¬ m.prot.Demands .alg ∧ Sign1.prepare { m with prot := named } agent = .ok r := by
  have kid : Layer.kid { m.toLayer with prot := named } = m.kid := Layer.kid_of_presets set
  rw [prepare, prepare]
  by_cases signed : (m.state ≠ .unsigned || m.signature.isTruthy) = true
  · rw [if_pos signed, if_pos signed]
    simp
  rw [if_neg signed, if_neg signed]
  rcases signs : agent.signatureAlgorithm .sign1 with e | alg
  · simp
  · obtain ⟨rfl, -⟩ := Agent.eq_of_signatureAlgorithm own signs
    simp only [Except.ok_bind, kid]
    exact Layer.settled_iff_of_presets set registered _

theorem presets (aad : Value) :
    ((m.sign agent aad).result = .ok () ↔
      (Sign1.sign { m with prot := named } agent aad).result = .ok () ∧
        ¬ m.prot.Demands .alg) ∧
    ((m.sign agent aad).result = .ok () →
      (Sign1.sign { m with prot := named } agent aad).after = (m.sign agent aad).after ∧
      ∃ covered, Hands (fun f => m.sign { agent with sign := f } aad) agent.sign covered ∧
        Hands (fun f => Sign1.sign { m with prot := named } { agent with sign := f } aad)
          agent.sign covered) := by
  have prepares {r : Bucket × LogLine} :=
    @prepare_iff_of_presets a named agent m set registered own r
  refine ⟨⟨fun answered => ?_, fun ⟨answered', undemanded⟩ => ?_⟩, fun answered => ?_⟩
  · obtain ⟨prot, line, prepared⟩ := exists_prepare answered
    obtain ⟨undemanded, prepared'⟩ := prepares.mp prepared
    exact ⟨(sign_of_prepare prepared prepared').1.trans answered, undemanded⟩
  · obtain ⟨prot, line, prepared'⟩ := exists_prepare answered'
    have prepared := prepares.mpr ⟨undemanded, prepared'⟩
    exact (sign_of_prepare prepared prepared').1.symm.trans answered'
  · obtain ⟨prot, line, prepared⟩ := exists_prepare answered
    obtain ⟨undemanded, prepared'⟩ := prepares.mp prepared
    obtain ⟨result, after⟩ := @sign_of_prepare named agent aad m prot line prepared prepared'
    refine ⟨after answered, ?_⟩
    obtain ⟨w, -, hands⟩ := Sign1.hands answered
    obtain ⟨w', -, hands'⟩ := Sign1.hands (result.trans answered)
    have own₁ := (Agent.eq_of_signatureAlgorithm own w.algorithm_eq).1
    have own₂ := (Agent.eq_of_signatureAlgorithm own w'.algorithm_eq).1
    have bucket := Layer.bucket_eq_of_presets set registered own₁ own₂ w.prepared w'.prepared
    exact ⟨w.covered, hands, (w.same w' rfl bucket).1 ▸ hands'⟩

end Sign1

/-! ## A tag -/

namespace Mac0

variable {m : Mac0}

theorem exists_prepare (answered : (m.createTag agent aad).result = .ok ()) :
    ∃ prot line, m.prepare agent = .ok (prot, line) := by
  rcases prepared : m.prepare agent with e | ⟨prot, line⟩
  · rw [createTag, prepared] at answered
    cases answered
  · exact ⟨prot, line, rfl⟩

/-- Tagging depends on what is prepared and on the payload. -/
theorem createTag_of_prepare {prot : Bucket} {line : LogLine}
    (prepared : m.prepare agent = .ok (prot, line))
    (prepared' : Mac0.prepare { m with prot := named } agent = .ok (prot, line)) :
    (Mac0.createTag { m with prot := named } agent aad).result = (m.createTag agent aad).result ∧
      ((m.createTag agent aad).result = .ok () →
        (Mac0.createTag { m with prot := named } agent aad).after =
          (m.createTag agent aad).after) := by
  have covers (p : Bytes) :
      Mac0.structureFor { m with prot := named } p aad = m.structureFor p aad := rfl
  simp only [createTag, prepared, prepared', covers, Step.logging_result, Step.logging_after]
  split
  · exact ⟨rfl, fun answered => by cases answered⟩
  split
  · exact ⟨rfl, fun answered => by cases answered⟩
  · exact ⟨rfl, fun _ => rfl⟩

variable (set : m.prot.Presets a named) (registered : a ∈ Registry.standard.algorithms)
  (own : agent.algorithm = .ok a)

include set registered own

/-- Tagging is prepared in the same way for both, unless the algorithm is demanded. -/
theorem prepare_iff_of_presets {r : Bucket × LogLine} : m.prepare agent = .ok r ↔
    ¬ m.prot.Demands .alg ∧ Mac0.prepare { m with prot := named } agent = .ok r := by
  have kid : Layer.kid { m.toLayer with prot := named } = m.kid := Layer.kid_of_presets set
  rw [prepare, prepare]
  by_cases tagged : (m.state ≠ .unsigned || m.tag.isTruthy) = true
  · rw [if_pos tagged, if_pos tagged]
    simp
  rw [if_neg tagged, if_neg tagged]
  rcases tags : agent.macAlgorithm with e | alg
  · simp
  · obtain ⟨rfl, -⟩ := Agent.eq_of_macAlgorithm own tags
    simp only [Except.ok_bind, kid]
    exact Layer.settled_iff_of_presets set registered _

theorem presets (aad : Value) :
    ((m.createTag agent aad).result = .ok () ↔
      (Mac0.createTag { m with prot := named } agent aad).result = .ok () ∧
        ¬ m.prot.Demands .alg) ∧
    ((m.createTag agent aad).result = .ok () →
      (Mac0.createTag { m with prot := named } agent aad).after = (m.createTag agent aad).after ∧
      ∃ covered,
        Hands (fun f => m.createTag { agent with createTag := f } aad) agent.createTag covered ∧
        Hands (fun f => Mac0.createTag { m with prot := named } { agent with createTag := f } aad)
          agent.createTag covered) := by
  have prepares {r : Bucket × LogLine} :=
    @prepare_iff_of_presets a named agent m set registered own r
  refine ⟨⟨fun answered => ?_, fun ⟨answered', undemanded⟩ => ?_⟩, fun answered => ?_⟩
  · obtain ⟨prot, line, prepared⟩ := exists_prepare answered
    obtain ⟨undemanded, prepared'⟩ := prepares.mp prepared
    exact ⟨(createTag_of_prepare prepared prepared').1.trans answered, undemanded⟩
  · obtain ⟨prot, line, prepared'⟩ := exists_prepare answered'
    have prepared := prepares.mpr ⟨undemanded, prepared'⟩
    exact (createTag_of_prepare prepared prepared').1.symm.trans answered'
  · obtain ⟨prot, line, prepared⟩ := exists_prepare answered
    obtain ⟨undemanded, prepared'⟩ := prepares.mp prepared
    obtain ⟨result, after⟩ := @createTag_of_prepare named agent aad m prot line prepared prepared'
    refine ⟨after answered, ?_⟩
    obtain ⟨w, -, hands⟩ := Mac0.hands answered
    obtain ⟨w', -, hands'⟩ := Mac0.hands (result.trans answered)
    have own₁ := (Agent.eq_of_macAlgorithm own w.algorithm_eq).1
    have own₂ := (Agent.eq_of_macAlgorithm own w'.algorithm_eq).1
    have bucket := Layer.bucket_eq_of_presets set registered own₁ own₂ w.prepared w'.prepared
    exact ⟨w.covered, hands, (w.same w' rfl bucket).1 ▸ hands'⟩

end Mac0

/-! ## Entries -/

namespace Entry

variable {s : Entry} {body payload : Value}

/-- Signing an entry computes a signature and commits it. -/
theorem sign_eq_ok (answered : (s.sign agent body payload aad).result = .ok ()) :
    s.isSigned = false ∧ ∃ w : s.Signing agent body payload aad,
      s.compute agent body payload aad = .ok (w.prepared.bucket, w.signature) ∧
        s.sign agent body payload aad = ⟨w.after, .ok (), []⟩ := by
  rw [sign] at answered
  split at answered
  · cases answered
  next unsigned =>
  split at answered
  · cases answered
  next prot signature computed =>
  obtain ⟨w, rfl, rfl⟩ := compute_eq_ok computed
  refine ⟨by simpa using unsigned, w, computed, ?_⟩
  rw [sign, if_neg unsigned, computed]
  exact w.commit_eq

theorem sign_eq_ok_iff : (s.sign agent body payload aad).result = .ok () ↔
    s.isSigned = false ∧ ∃ r, s.compute agent body payload aad = .ok r := by
  constructor
  · intro answered
    obtain ⟨unsigned, w, computed, -⟩ := sign_eq_ok answered
    exact ⟨unsigned, _, computed⟩
  · rintro ⟨unsigned, ⟨prot, signature⟩, computed⟩
    obtain ⟨w, rfl, rfl⟩ := compute_eq_ok computed
    rw [sign, unsigned, computed]
    simp only [Bool.false_eq_true, if_false, w.commit_eq]

/-- Signing an entry hands out what the signature covers. -/
theorem hands (answered : (s.sign agent body payload aad).result = .ok ()) :
    ∃ w : s.Signing agent body payload aad,
      s.sign agent body payload aad = ⟨w.after, .ok (), []⟩ ∧
      Hands (fun f => s.sign { agent with sign := f } body payload aad) agent.sign w.covered := by
  obtain ⟨unsigned, w, -, signed⟩ := sign_eq_ok answered
  refine ⟨w, signed, .of_factors (fun f => ?_) fun e => ?_⟩
  · rw [sign, sign, w.compute_eq, w.compute_eq]
  · rw [sign, unsigned, w.compute_eq]
    rfl

/-- What an entry is left as is decided by the key. -/
theorem Signing.after_unique (w w' : s.Signing agent body payload aad) : w'.after = w.after := by
  have alg : w'.algorithm = w.algorithm :=
    Except.ok.inj (w'.algorithm_eq.symm.trans w.algorithm_eq)
  have bucket : w'.prepared.bucket = w.prepared.bucket :=
    Layer.withAlgorithm_congr rfl w.prepared.bucket_eq (alg ▸ w'.prepared.bucket_eq)
  obtain ⟨-, fixed, signature⟩ := w.same w' bucket
  have fixed : w'.prepared.fixed = w.prepared.fixed := fixed
  rw [Signing.after, Signing.after, fixed, signature]

variable (set : s.prot.Presets a named) (registered : a ∈ Registry.standard.algorithms)
  (own : agent.algorithm = .ok a)

include set registered own

/-- The signature is computed in the same way for both, unless the buckets do not keep apart. -/
theorem compute_iff_of_presets {r : Bucket × Bytes} :
    s.compute agent body payload aad = .ok r ↔
      checkBuckets named s.unprot = .ok () ∧
        Entry.compute { s with prot := named } agent body payload aad = .ok r := by
  rcases signs : agent.signatureAlgorithm .sign with e | alg
  · simp only [compute, signs, Except.error_bind]
    simp
  obtain ⟨rfl, -⟩ := Agent.eq_of_signatureAlgorithm own signs
  have kept : Layer.withAlgorithm { s.toLayer with prot := named } (.algorithm alg) = .ok named :=
    Layer.withAlgorithm_named set registered
  simp only [compute, signs, Except.ok_bind, kept]
  rw [Except.bind_eq_ok]
  simp only [Layer.withAlgorithm_of_presets set]
  constructor
  · rintro ⟨_, ⟨rfl, apart⟩, computed⟩
    exact ⟨apart, computed⟩
  · rintro ⟨apart, computed⟩
    exact ⟨_, ⟨rfl, apart⟩, computed⟩

/-- Both are left as the same entry, and the key gets the same bytes. -/
theorem signing_of_presets (w : s.Signing agent body payload aad)
    (w' : Entry.Signing { s with prot := named } agent body payload aad) :
    w'.covered = w.covered ∧ w'.after = w.after := by
  have own₁ := (Agent.eq_of_signatureAlgorithm own w.algorithm_eq).1
  have own₂ := (Agent.eq_of_signatureAlgorithm own w'.algorithm_eq).1
  have bucket := Layer.bucket_eq_of_presets set registered own₁ own₂ w.prepared w'.prepared
  obtain ⟨covered, fixed, signature⟩ := w.same w' bucket
  have fixed : w'.prepared.fixed = w.prepared.fixed := fixed
  exact ⟨covered, by rw [Signing.after, Signing.after, fixed, signature]⟩

theorem presets (body payload aad : Value) :
    ((s.sign agent body payload aad).result = .ok () ↔
      (Entry.sign { s with prot := named } agent body payload aad).result = .ok () ∧
        checkBuckets named s.unprot = .ok ()) ∧
    ((s.sign agent body payload aad).result = .ok () →
      (Entry.sign { s with prot := named } agent body payload aad).after =
          (s.sign agent body payload aad).after ∧
      ∃ covered,
        Hands (fun f => s.sign { agent with sign := f } body payload aad) agent.sign covered ∧
        Hands
          (fun f => Entry.sign { s with prot := named } { agent with sign := f } body payload aad)
          agent.sign covered) := by
  have verdict : (s.sign agent body payload aad).result = .ok () ↔
      (Entry.sign { s with prot := named } agent body payload aad).result = .ok () ∧
        checkBuckets named s.unprot = .ok () := by
    simp only [sign_eq_ok_iff, compute_iff_of_presets set registered own]
    constructor
    · rintro ⟨unsigned, r, apart, computed⟩
      exact ⟨⟨unsigned, r, computed⟩, apart⟩
    · rintro ⟨⟨unsigned, r, computed⟩, apart⟩
      exact ⟨unsigned, r, apart, computed⟩
  refine ⟨verdict, fun answered => ?_⟩
  obtain ⟨w, signed, handed⟩ := hands answered
  obtain ⟨w', signed', handed'⟩ := hands (verdict.mp answered).1
  obtain ⟨covered, after⟩ := signing_of_presets set registered own w w'
  exact ⟨by rw [signed, signed', after], w.covered, handed, covered ▸ handed'⟩

end Entry

/-! ## An entry of a message -/

namespace Sign

section Visits

variable {s : Entry} {resolve : Resolver} {body payload : Value} {i : Nat}
  (set : s.prot.Presets a named) (registered : a ∈ Registry.standard.algorithms)
  (own : agent.algorithm = .ok a) (found : resolve i s = .ok agent)
  (found' : resolve i { s with prot := named } = .ok agent)

include set registered own found found'

/-- The visit of an entry comes to the same for both, unless the algorithm is demanded. -/
theorem signVisit_iff_of_presets {r : Bucket × Bytes} :
    (signVisit resolve body payload aad i s).1 = .ok r ↔ ¬ s.prot.Demands .alg ∧
      (signVisit resolve body payload aad i { s with prot := named }).1 = .ok r := by
  have kid : Layer.kid { s.toLayer with prot := named } = s.kid := Layer.kid_of_presets set
  have approached : approach "Signing" resolve i { s with prot := named } =
      approach "Signing" resolve i s := by
    rw [approach, approach, found, found']
    simp only [Except.ok_bind, kid]
  rw [signVisit, signVisit, approached]
  rcases line : approach "Signing" resolve i s with e | ⟨agent', line⟩
  · simp
  cases found.symm.trans (approach_eq_ok line)
  rcases signs : agent.signatureAlgorithm .sign with e | alg
  · simp only [Entry.compute, signs, Except.error_bind, Except.bind_eq_ok]
    simp
  · obtain ⟨rfl, -⟩ := Agent.eq_of_signatureAlgorithm own signs
    simp only [Entry.compute, signs, Except.ok_bind]
    exact Layer.settled_iff_of_presets set registered _

end Visits

section Message

variable {m : Sign} {keys : Keys} {s : Entry} {i : Nat}

/-- At the place of an entry that is replaced stands the other one, and the others stay. -/
theorem getElem?_set_cases {ss : List Entry} {s' t t' : Entry} {j : Nat} (at_i : ss[i]? = some s)
    (at_j : ss[j]? = some t) (at_j' : (ss.set i s')[j]? = some t') :
    j = i ∧ t = s ∧ t' = s' ∨ j ≠ i ∧ t' = t := by
  by_cases place : j = i
  · subst place
    have bound : j < ss.length := (List.getElem?_eq_some_iff.mp at_i).1
    rw [List.getElem?_set_self bound] at at_j'
    cases at_i.symm.trans at_j
    cases at_j'
    exact .inl ⟨rfl, rfl, rfl⟩
  · rw [List.getElem?_set_ne (Ne.symm place), at_j] at at_j'
    cases at_j'
    exact .inr ⟨place, rfl⟩

/-- Replacing an entry changes nothing that precedes the visits. -/
theorem ready_set_iff {s' : Entry} {resolve : Resolver} {body : Bytes} :
    Ready { m with entries := m.entries.set i s' } keys resolve body ↔
      m.Ready keys resolve body := by
  have count : (m.entries.set i s').length = m.entries.length := List.length_set
  have nonempty : m.entries.set i s' ≠ [] ↔ m.entries ≠ [] := by
    rw [← List.length_pos_iff, count, List.length_pos_iff]
  constructor
  · rintro ⟨present, unsigned, checked, resolved, encoded⟩
    exact ⟨nonempty.mp present, unsigned, checked, count ▸ resolved, encoded⟩
  · rintro ⟨present, unsigned, checked, resolved, encoded⟩
    exact ⟨nonempty.mpr present, unsigned, checked, count.symm ▸ resolved, encoded⟩

variable (set : s.prot.Presets a named) (registered : a ∈ Registry.standard.algorithms)
  (own : agent.algorithm = .ok a) (at_i : m.entries[i]? = some s)
  (leads : keys.LeadsTo m.entries.length i s agent)
  (leads' : keys.LeadsTo m.entries.length i { s with prot := named } agent)

include set registered own at_i leads leads'

theorem sign_iff_of_presets (aad : Value) :
    (m.sign keys aad).result = .ok () ↔
      (Sign.sign { m with entries := m.entries.set i { s with prot := named } } keys aad).result =
          .ok () ∧ ¬ s.prot.Demands .alg := by
  obtain ⟨resolve, resolved, found⟩ := leads
  obtain ⟨resolve₀, resolved₀, found'⟩ := leads'
  cases resolved.symm.trans resolved₀
  have visits (body : Value) {r : Bucket × Bytes} := @signVisit_iff_of_presets a named agent aad s
    resolve body m.payload i set registered own found found' r
  constructor
  · intro answered
    obtain ⟨resolve₁, body, ready, passes⟩ := ready_of_sign answered
    cases resolved.symm.trans ready.resolved
    obtain ⟨r, visited⟩ := passes i s at_i
    have undemanded := ((visits _).mp visited).1
    obtain ⟨resolve₁, body₁, rs, ready₁, computed⟩ := sign_eq_ok_iff.mp answered
    cases resolved.symm.trans ready₁.resolved
    refine ⟨sign_eq_ok_iff.mpr ⟨resolve, body₁, rs, ready_set_iff.mpr ready₁, ?_⟩, undemanded⟩
    refine visitAll_eq_ok_of List.length_set (fun j t t' at_j at_j' r passed => ?_) computed
    rcases getElem?_set_cases at_i at_j at_j' with ⟨rfl, rfl, rfl⟩ | ⟨-, rfl⟩
    · rw [Nat.zero_add] at passed ⊢
      exact ((visits _).mp passed).2
    · exact passed
  · rintro ⟨answered, undemanded⟩
    obtain ⟨resolve₁, body, rs, ready, computed⟩ := sign_eq_ok_iff.mp answered
    have ready := ready_set_iff.mp ready
    cases resolved.symm.trans ready.resolved
    refine sign_eq_ok_iff.mpr ⟨resolve, body, rs, ready, ?_⟩
    refine visitAll_eq_ok_of List.length_set.symm (fun j t t' at_j at_j' r passed => ?_) computed
    rcases getElem?_set_cases at_i at_j' at_j with ⟨rfl, rfl, rfl⟩ | ⟨-, rfl⟩
    · rw [Nat.zero_add] at passed ⊢
      exact (visits _).mpr ⟨undemanded, passed⟩
    · exact passed

/-- **Where both are signed, the same message is left**, and the key gets the same bytes. -/
theorem sign_of_presets (aad : Value) (answered : (m.sign keys aad).result = .ok ())
    (answered' : (Sign.sign { m with entries := m.entries.set i { s with prot := named } }
      keys aad).result = .ok ()) :
    (Sign.sign { m with entries := m.entries.set i { s with prot := named } } keys aad).after =
        (m.sign keys aad).after ∧
      ∃ body, m.prot.encode = .ok body ∧ ∃ (w : s.Signing agent (.bytes body) m.payload aad)
        (w' : Entry.Signing { s with prot := named } agent (.bytes body) m.payload aad),
        (m.sign keys aad).after.entries[i]? = some w.after ∧ w'.after = w.after ∧
          w'.covered = w.covered := by
  obtain ⟨resolve, resolved, found⟩ := leads
  obtain ⟨resolve₀, resolved₀, found'⟩ := leads'
  cases resolved.symm.trans resolved₀
  have count : (m.entries.set i { s with prot := named }).length = m.entries.length :=
    List.length_set
  rcases sign_cases m keys aad with
    ⟨e, failed, -⟩ | ⟨-, -, -, -, resolve₁, body, entries, resolved₁, encoded, run, after⟩
  · exact absurd (failed.symm.trans answered) (by simp)
  rcases sign_cases { m with entries := m.entries.set i { s with prot := named } } keys aad with
    ⟨e, failed, -⟩ | ⟨-, -, -, -, resolve₂, body₂, entries', resolved₂, encoded₂, run', after'⟩
  · exact absurd (failed.symm.trans answered') (by simp)
  cases resolved.symm.trans resolved₁
  cases resolved.symm.trans (count ▸ resolved₂)
  cases encoded.symm.trans encoded₂
  have at_i' : (m.entries.set i { s with prot := named })[i]? = some { s with prot := named } :=
    List.getElem?_set_self (List.getElem?_eq_some_iff.mp at_i).1
  obtain ⟨agent₁, found₁, w, signed⟩ := run.getElem? at_i
  obtain ⟨agent₂, found₂, w', signed'⟩ := run'.getElem? at_i'
  rw [Nat.zero_add] at found₁ found₂
  cases found.symm.trans found₁
  cases found'.symm.trans found₂
  obtain ⟨covered, same⟩ := Entry.signing_of_presets set registered own w w'
  have entries_eq : entries' = entries := by
    refine List.ext_getElem? fun j => ?_
    by_cases place : j = i
    · rw [place, signed, signed', same]
    rcases at_j : m.entries[j]? with _ | t
    · rw [List.getElem?_eq_none_iff] at at_j
      have short : entries.length ≤ j := run.length_eq ▸ at_j
      have short' : entries'.length ≤ j := (run'.length_eq.trans count) ▸ at_j
      rw [List.getElem?_eq_none short, List.getElem?_eq_none short']
    · have at_j' : (m.entries.set i { s with prot := named })[j]? = some t := by
        rw [List.getElem?_set_ne (Ne.symm place), at_j]
      obtain ⟨agent₁, found₁, w, signed⟩ := run.getElem? at_j
      obtain ⟨agent₂, found₂, w', signed'⟩ := run'.getElem? at_j'
      cases found₁.symm.trans found₂
      rw [signed, signed', w.after_unique w']
  exact ⟨by rw [after, after', entries_eq], body, encoded, w, w', by rw [after]; exact signed, same,
    covered⟩

end Message

end Sign

/-! ## All kinds of message -/

/-- **The algorithm may be set or filled in.** A message, an entry or a tag whose protected bucket
names no algorithm is compared with the same one that has the algorithm of the key set. Signing the
one answers exactly if signing the other does, and the one does not demand the algorithm as
critical; for an entry on its own, exactly if signing the other does, and its buckets keep apart
once the algorithm is set. If they answer, the same is left of both, and the key gets the same
bytes. -/
theorem preset_or_filled (registered : a ∈ Registry.standard.algorithms)
    (own : agent.algorithm = .ok a) (aad : Value) :
    (∀ m : Sign1, m.prot.Presets a named →
      ((m.sign agent aad).result = .ok () ↔
        (Sign1.sign { m with prot := named } agent aad).result = .ok () ∧ ¬ m.prot.Demands .alg) ∧
      ((m.sign agent aad).result = .ok () →
        (Sign1.sign { m with prot := named } agent aad).after = (m.sign agent aad).after ∧
        ∃ covered, Hands (fun f => m.sign { agent with sign := f } aad) agent.sign covered ∧
          Hands (fun f => Sign1.sign { m with prot := named } { agent with sign := f } aad)
            agent.sign covered)) ∧
    (∀ m : Mac0, m.prot.Presets a named →
      ((m.createTag agent aad).result = .ok () ↔
        (Mac0.createTag { m with prot := named } agent aad).result = .ok () ∧
          ¬ m.prot.Demands .alg) ∧
      ((m.createTag agent aad).result = .ok () →
        (Mac0.createTag { m with prot := named } agent aad).after =
            (m.createTag agent aad).after ∧
        ∃ covered,
          Hands (fun f => m.createTag { agent with createTag := f } aad) agent.createTag covered ∧
          Hands (fun f => Mac0.createTag { m with prot := named } { agent with createTag := f } aad)
            agent.createTag covered)) ∧
    (∀ (s : Entry) (body payload : Value), s.prot.Presets a named →
      ((s.sign agent body payload aad).result = .ok () ↔
        (Entry.sign { s with prot := named } agent body payload aad).result = .ok () ∧
          checkBuckets named s.unprot = .ok ()) ∧
      ((s.sign agent body payload aad).result = .ok () →
        (Entry.sign { s with prot := named } agent body payload aad).after =
            (s.sign agent body payload aad).after ∧
        ∃ covered,
          Hands (fun f => s.sign { agent with sign := f } body payload aad) agent.sign covered ∧
          Hands
            (fun f => Entry.sign { s with prot := named } { agent with sign := f } body payload aad)
            agent.sign covered)) ∧
    ∀ (m : Sign) (keys : Keys) (i : Nat) (s : Entry), s.prot.Presets a named →
      m.entries[i]? = some s → keys.LeadsTo m.entries.length i s agent →
      keys.LeadsTo m.entries.length i { s with prot := named } agent →
      let m' : Sign := { m with entries := m.entries.set i { s with prot := named } }
      ((m.sign keys aad).result = .ok () ↔
        (m'.sign keys aad).result = .ok () ∧ ¬ s.prot.Demands .alg) ∧
      ((m.sign keys aad).result = .ok () →
        (m'.sign keys aad).after = (m.sign keys aad).after ∧
        ∃ body, m.prot.encode = .ok body ∧ ∃ (w : s.Signing agent (.bytes body) m.payload aad)
          (w' : Entry.Signing { s with prot := named } agent (.bytes body) m.payload aad),
          (m.sign keys aad).after.entries[i]? = some w.after ∧ w'.after = w.after ∧
            w'.covered = w.covered) := by
  refine ⟨fun m set => Sign1.presets set registered own aad,
    fun m set => Mac0.presets set registered own aad,
    fun s body payload set => Entry.presets set registered own body payload aad,
    fun m keys i s set at_i leads leads' => ?_⟩
  have verdict := Sign.sign_iff_of_presets set registered own at_i leads leads' aad
  exact ⟨verdict, fun answered =>
    Sign.sign_of_presets set registered own at_i leads leads' aad answered (verdict.mp answered).1⟩

/-- A protected bucket with the identifier of a key, before and after the algorithm is set. -/
theorem presets_kid :
    Bucket.Presets { isProtected := true, entries := [(.kid, .bytes [7])] } .es256
      { isProtected := true, entries := [(.kid, .bytes [7]), (.alg, .int (-7))] } where
  labelled := ⟨List.nodup_singleton _, by simp [Bucket.labels, Label.IsCanonical]; rfl⟩
  isProtected := rfl
  absent := by decide
  set := by rfl

/-- A message and an entry with the identifier of a key are signed with the same outcome, whether
the algorithm is set before or not. -/
theorem preset_or_filled_kid :
    let plain : Bucket := { isProtected := true, entries := [(.kid, .bytes [7])] }
    let named : Bucket :=
      { isProtected := true, entries := [(.kid, .bytes [7]), (.alg, .int (-7))] }
    let agent : Agent := .marking .es256 1
    let m : Sign1 := { prot := plain, unprot := { isProtected := false }, payload := .bytes [0],
                       signature := .bytes [], state := .unsigned }
    let m' : Sign1 := { m with prot := named }
    let s : Entry :=
      { prot := plain, unprot := { isProtected := false }, signature := .bytes [] }
    let pair : Sign := { Sign.unsignedPair with entries := [s, s] }
    let pair' : Sign := { pair with entries := [s, { s with prot := named }] }
    let keys : Keys := .inOrder [.marking .edDSA 2, agent]
    (m'.sign agent).after = (m.sign agent).after ∧
      (pair'.sign keys).after = (pair.sign keys).after := by
  intro plain named agent m m' s pair pair' keys
  have registered : Algorithm.es256 ∈ Registry.standard.algorithms := by decide
  obtain ⟨single, -, -, several⟩ :=
    @preset_or_filled .es256 named agent registered rfl (.bytes [])
  constructor
  · exact ((single m presets_kid).2 (by with_unfolding_all rfl)).1
  · have leads (s : Entry) : keys.LeadsTo 2 1 s agent := ⟨_, rfl, rfl⟩
    exact ((several pair keys 1 s presets_kid rfl (leads _) (leads _)).2
      (by with_unfolding_all rfl)).1

/-- A message that lists the algorithm as critical is refused unless the algorithm is set before. An
entry on its own, with the algorithm in its unprotected bucket, is refused then and signed if it is
set before. -/
theorem preset_or_filled_critical :
    let demanding : Bucket := { isProtected := true, entries := [(.crit, .list [.int 1])] }
    let named : Bucket :=
      { isProtected := true, entries := [(.crit, .list [.int 1]), (.alg, .int (-7))] }
    let agent : Agent := .marking .es256 1
    let m : Sign1 := { prot := demanding, unprot := { isProtected := false },
                       payload := .bytes [0], signature := .bytes [], state := .unsigned }
    let empty : Bucket := { isProtected := true }
    let own : Bucket := { isProtected := true, entries := [(.alg, .int (-7))] }
    let s : Entry := { prot := empty, signature := .bytes [],
                       unprot := { isProtected := false, entries := [(.alg, .int (-7))] } }
    (demanding.setAlgorithm (.algorithm .es256) = .ok named ∧
      (m.sign agent).result = .error (.header (.criticalMissing .alg)) ∧
      (Sign1.sign { m with prot := named } agent).result = .ok ()) ∧
    empty.setAlgorithm (.algorithm .es256) = .ok own ∧
      (s.sign agent (.bytes []) .null).result = .error (.header (.shared [.alg])) ∧
      (Entry.sign { s with prot := own } agent (.bytes []) .null).result = .ok () := by
  exact ⟨⟨by rfl, by decide +kernel, by decide +kernel⟩, by rfl, by decide +kernel,
    by decide +kernel⟩

end Cose
