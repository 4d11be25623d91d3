import Cose.Proofs.Header.Legible
import Cose.Proofs.Message.Frozen

/-!
# Headers that agree with an algorithm

A header may name an algorithm in its protected bucket, as an identifier or as a text. Whoever
verifies needs a bucket that names no other algorithm than the own one. Whoever signs leaves a
bucket that names the own one, unless it cannot be changed any more; so the label must not be taken
in the unprotected bucket when it is added.

## Main definitions

* `Bucket.Allows`: no other algorithm is named
* `Layer.Takes`: no other algorithm is named, and the own one can be added where it is missing
* `Bucket.Binds`: what signing makes of a protected bucket

## Main results

* `Bucket.checkAlgorithm_eq_ok_iff`: which algorithms agree with a bucket
* `Layer.takes_of_withAlgorithm`, `Layer.binds_of_withAlgorithm`: the bucket that is signed
* `Bucket.Legible.exists_refusal`, `Layer.Legible.exists_refusal`: what is refused otherwise
-/

namespace Cose

namespace Bucket

variable {b b' : Bucket} {a : Algorithm} {l : Label} {v : Value}

/-- **A bucket allows an algorithm**: it names none, or that one. -/
def Allows (b : Bucket) (a : Algorithm) : Prop :=
  b.has .alg = false ∨ b.algorithm = .ok (some a)

theorem algorithm_of_not_has (absent : b.has .alg = false) : b.algorithm = .ok none := by
  rw [has, Option.isSome_eq_false_iff, Option.isNone_iff_eq_none] at absent
  rw [algorithm, absent]

theorem not_has_of_algorithm (none : b.algorithm = .ok none) : b.has .alg = false := by
  rw [algorithm] at none
  split at none
  next absent => rw [has, absent, Option.isSome_none]
  · obtain ⟨_, -, ⟨⟩⟩ := Except.map_eq_ok.mp none

/-- The algorithm that a bucket names is registered. -/
theorem mem_of_algorithm (named : b.algorithm = .ok (some a)) :
    a ∈ Registry.standard.algorithms := by
  rw [algorithm] at named
  split at named
  · cases named
  · obtain ⟨_, found, ⟨⟩⟩ := Except.map_eq_ok.mp named
    exact Registry.mem_of_lookup found

/-- **An algorithm agrees with a bucket** exactly if the bucket allows it. -/
theorem checkAlgorithm_eq_ok_iff : b.checkAlgorithm (.algorithm a) = .ok () ↔ b.Allows a := by
  rw [checkAlgorithm, Except.bind_eq_ok]
  constructor
  · rintro ⟨- | named, found, agrees⟩
    · exact .inl (not_has_of_algorithm found)
    · simp only at agrees
      split at agrees
      next same =>
        have equal : named = a := by simpa [Value.same, Value.sameAtom] using same
        exact .inr (equal ▸ found)
      · cases agrees
  · rintro (absent | named)
    · exact ⟨none, algorithm_of_not_has absent, rfl⟩
    · exact ⟨some a, named, by simp [Value.same, Value.sameAtom]⟩

/-! ## The value that is stored -/

theorem lookup_storeEntry (es : List (Label × Value)) : (storeEntry l v es).lookup l = some v := by
  induction es with
  | nil => simp [storeEntry]
  | cons e es ih =>
    rw [storeEntry]
    split
    · simp
    · next other =>
      have apart : (l == e.1) = false := by simpa using Ne.symm other
      rw [List.lookup_cons, apart]
      exact ih

theorem find?_setAlgorithm (h : b.setAlgorithm (.algorithm a) = .ok b') :
    b'.find? .alg = some (.int a.value) := by
  obtain ⟨_, -, h⟩ := Except.bind_eq_ok.mp h
  simp only [Label.toValue, Label.alg, Label.ofValue, Except.ok_bind, if_true, normalizeAlgorithm,
    Except.pure_eq, Except.ok.injEq] at h
  rw [← h]
  exact lookup_storeEntry b.entries

/-- A registered algorithm that is stored is found again. -/
theorem algorithm_setAlgorithm (registered : a ∈ Registry.standard.algorithms)
    (h : b.setAlgorithm (.algorithm a) = .ok b') : b'.algorithm = .ok (some a) := by
  rw [algorithm, find?_setAlgorithm h]
  simp only [Algorithm.lookup_of_mem registered]
  rfl

/-- What signing makes of a protected bucket: it names the algorithm, or it is as it was, with
bytes that were fixed without an algorithm. -/
def Binds (before : Bucket) (a : Algorithm) (after : Bucket) : Prop :=
  after.algorithm = .ok (some a) ∨
    before.isFinalized = true ∧ before.has .alg = false ∧ after = before

end Bucket

namespace Layer

variable {h : Layer} {a : Algorithm} {prot : Bucket}

/-- A layer takes an algorithm: its protected bucket names that one, or it names none and either
is finalized or can have the algorithm added, as the unprotected bucket names none. -/
def Takes (h : Layer) (a : Algorithm) : Prop :=
  h.prot.algorithm = .ok (some a) ∨
    h.prot.has .alg = false ∧ (h.prot.isFinalized = true ∨ h.unprot.has .alg = false)

/-- The steps behind the bucket that is signed: it is the protected bucket itself, or a copy without
a label of the unprotected bucket to which the algorithm was added. -/
theorem withAlgorithm_cases (e : h.withAlgorithm (.algorithm a) = .ok prot) :
    h.prot.Allows a ∧ (h.keepsBucket = true ∧ prot = h.prot ∨
      h.keepsBucket = false ∧ checkBuckets prot h.unprot = .ok () ∧
        ∃ copy : Bucket, copy.setAlgorithm (.algorithm a) = .ok prot) := by
  obtain ⟨_, agrees, e⟩ := Except.bind_eq_ok.mp e
  refine ⟨Bucket.checkAlgorithm_eq_ok_iff.mp agrees, ?_⟩
  split at e
  · next keeps =>
    cases e
    exact .inl ⟨keeps, rfl⟩
  · next copies =>
    obtain ⟨copy, -, e⟩ := Except.bind_eq_ok.mp e
    obtain ⟨filled, set, e⟩ := Except.bind_eq_ok.mp e
    obtain ⟨_, apart, e⟩ := Except.bind_eq_ok.mp e
    cases e
    exact .inr ⟨by simpa using copies, apart, copy, set⟩

theorem takes_of_withAlgorithm (e : h.withAlgorithm (.algorithm a) = .ok prot) : h.Takes a := by
  obtain ⟨absent | named, kept⟩ := withAlgorithm_cases e
  · refine .inr ⟨absent, ?_⟩
    rcases kept with ⟨keeps, -⟩ | ⟨-, apart, copy, set⟩
    · rw [keepsBucket, absent, Bool.false_or] at keeps
      exact .inl keeps
    · refine .inr ((checkBuckets_eq_ok.mp apart).2.1 .alg (Bucket.has_iff.mp ?_))
      rw [Bucket.has, Bucket.find?_setAlgorithm set, Option.isSome_some]
  · exact .inl named

theorem binds_of_withAlgorithm (registered : a ∈ Registry.standard.algorithms)
    (e : h.withAlgorithm (.algorithm a) = .ok prot) : h.prot.Binds a prot := by
  obtain ⟨allows, ⟨keeps, rfl⟩ | ⟨-, -, copy, set⟩⟩ := withAlgorithm_cases e
  · rcases allows with absent | named
    · rw [keepsBucket, absent, Bool.false_or] at keeps
      exact .inr ⟨keeps, absent, rfl⟩
    · exact .inl named
  · exact .inl (Bucket.algorithm_setAlgorithm registered set)

/-- The bucket that is kept after signing is the one that was signed, with its bytes. -/
theorem Prepared.binds (p : h.Prepared a) (registered : a ∈ Registry.standard.algorithms) :
    h.prot.Binds a p.fixed := by
  rcases binds_of_withAlgorithm registered p.bucket_eq with named | ⟨finalized, absent, same⟩
  · exact .inl named
  · refine .inr ⟨finalized, absent, ?_⟩
    have isProtected : p.bucket.isProtected = true := (Bucket.encode_eq_ok p.bytes_eq).1
    have fixed : p.bucket.Fixed := ⟨isProtected, same ▸ finalized⟩
    rw [Prepared.fixed, fixed.fixed_encode p.bytes_eq, same]

end Layer

/-! ## Refusals -/

section Refusals

variable {a : Algorithm} (registered : a ∈ Registry.standard.algorithms)

include registered

/-- **A bucket that does not allow an algorithm** refuses it with an error of the family, which is
none about a signature. -/
theorem Bucket.Legible.exists_refusal {b : Bucket} (legible : b.Legible) (other : ¬ b.Allows a) :
    ∃ e, e.isCose = true ∧ e.refusal? = none ∧ b.checkAlgorithm (.algorithm a) = .error e := by
  rcases refused : b.checkAlgorithm (.algorithm a) with e | ⟨⟩
  · have isCose := legible.isCose_checkAlgorithm (Algorithm.isWritable_of_mem registered) e refused
    have technical := Bucket.technical_checkAlgorithm b (.algorithm a) e refused
    exact ⟨e, isCose, Error.refusal?_of_isTechnical technical, rfl⟩
  · exact absurd (Bucket.checkAlgorithm_eq_ok_iff.mp refused) other

namespace Layer.Legible

variable {h : Layer} (legible : h.Legible) (other : ¬ h.Takes a)

include legible other

/-- **A layer that does not take an algorithm** is not signed with it: there is an error of the
family instead of a bucket to sign. -/
theorem exists_refusal : ∃ e, e.isCose = true ∧ h.withAlgorithm (.algorithm a) = .error e := by
  rcases refused : h.withAlgorithm (.algorithm a) with e | prot
  · exact ⟨e, legible.isCose_withAlgorithm registered e refused, rfl⟩
  · exact absurd (takes_of_withAlgorithm refused) other

/-- The same if the rules for headers come first, whatever is to be done with the bucket. -/
theorem exists_refusal_of_check : ∃ e, e.isCose = true ∧
    ∀ {β : Type} (rest : Bucket → Except Error β),
      (do h.check; let prot ← h.withAlgorithm (.algorithm a); rest prot) = .error e := by
  rcases checked : h.check with e | ⟨⟩
  · exact ⟨e, legible.isCose_check e checked, fun rest => rfl⟩
  · obtain ⟨e, isCose, refused⟩ := exists_refusal registered legible other
    exact ⟨e, isCose, fun rest => by rw [refused]; rfl⟩

end Layer.Legible

end Refusals

end Cose
