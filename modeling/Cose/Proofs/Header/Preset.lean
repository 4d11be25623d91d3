import Cose.Proofs.Header.Agreement
import Cose.Proofs.Header.Rules
import Cose.Proofs.Message.Prepared

/-!
# The algorithm, set or filled in

A protected bucket that names no algorithm gets that of the key when it is signed. It could have got
it before, and then the bucket is signed as it is. Both come to the same bucket, but not to the same
verdict of the rules: these are applied to the headers as they are given, and a list of critical
labels may demand the label of the algorithm, which is not there yet.

## Main definitions

* `Bucket.Demands`: a label is listed as critical
* `Bucket.Presets`: a bucket, and the same one with the algorithm set

## Main results

* `Bucket.Presets.validate_named_iff`: what the rules say of the two buckets
* `Layer.withAlgorithm_of_presets`, `Layer.withAlgorithm_named`: both are signed as the same
* `Layer.passes_iff_of_presets`, `Layer.settled_iff_of_presets`: what is settled before a signature
  is computed
* `Layer.Prepared.check_iff`: the rules say the same of a layer before it is signed and after
-/

namespace Cose

/-! ## The list of critical labels -/

namespace Bucket

variable {b : Bucket}

/-- **A bucket demands a label**: it lists the label as critical. -/
def Demands (b : Bucket) (l : Label) : Prop :=
  ∃ xs, (.crit, .list xs) ∈ b.entries ∧ ∃ v ∈ xs, Label.ofValue v = .ok l

/-! ## Two buckets -/

/-- A bucket and the same one with an algorithm set: the one is protected, its bytes are not
fixed, and it names no algorithm. -/
structure Presets (b : Bucket) (a : Algorithm) (named : Bucket) : Prop where
  labelled : b.Labelled
  isProtected : b.isProtected = true
  absent : b.has .alg = false
  set : b.setAlgorithm (.algorithm a) = .ok named

namespace Presets

variable {a : Algorithm} {named : Bucket} {l : Label} (h : b.Presets a named)

include h

theorem unfixed : b.fixed = none :=
  isFinalized_eq_false_iff.mp (set_eq_ok h.set).1

theorem named_eq : named = { b with entries := b.entries ++ [(.alg, .int a.value)] } :=
  Except.ok.inj (h.set.symm.trans (setAlgorithm_of_absent h.unfixed h.absent a))

theorem has_iff_or : named.has l = true ↔ b.has l = true ∨ l = .alg := by
  rw [has_iff, has_iff, h.named_eq, labels, List.map_append, List.mem_append]
  simp [labels]

theorem has_eq (other : l ≠ .alg) : named.has l = b.has l := by
  rw [Bool.eq_iff_iff, h.has_iff_or, or_iff_left other]

/-- A rule that holds of a parameter keeps to hold with more labels. -/
theorem admits_named {v : Value} (ok : b.Admits l v) : named.Admits l v := by
  refine { ok with critical := fun hl => ?_ }
  obtain ⟨-, x, xs, rfl, all⟩ := criticalFault?_eq_none.mp (ok.critical hl)
  have isProtected : named.isProtected = true := by rw [h.named_eq, h.isProtected]
  refine criticalFault?_eq_none.mpr ⟨isProtected, x, xs, rfl, fun y hy => ?_⟩
  obtain ⟨l, spelled, present⟩ := all y hy
  exact ⟨l, spelled, h.has_iff_or.mpr (.inl present)⟩

/-- It held before if the label of the algorithm is not asked for. -/
theorem admits_of_named {v : Value} (mem : (l, v) ∈ b.entries) (ok : named.Admits l v)
    (undemanded : ¬ b.Demands .alg) : b.Admits l v := by
  refine { ok with critical := fun hl => ?_ }
  obtain ⟨-, x, xs, rfl, all⟩ := criticalFault?_eq_none.mp (ok.critical hl)
  subst hl
  refine criticalFault?_eq_none.mpr ⟨h.isProtected, x, xs, rfl, fun y hy => ?_⟩
  obtain ⟨l, spelled, present⟩ := all y hy
  refine ⟨l, spelled, (h.has_iff_or.mp present).resolve_right ?_⟩
  rintro rfl
  exact undemanded ⟨_, mem, y, hy, spelled⟩

/-- A bucket without the algorithm that passes the rules does not demand it. -/
theorem not_demands (valid : b.validate = .ok ()) : ¬ b.Demands .alg := by
  rintro ⟨xs, mem, v, hv, spelled⟩
  obtain ⟨-, x, xs, ⟨⟩, all⟩ :=
    criticalFault?_eq_none.mp (((validate_eq_ok.mp valid).1 _ mem).critical rfl)
  obtain ⟨l, spelled', present⟩ := all v hv
  cases spelled.symm.trans spelled'
  exact absurd (present.symm.trans h.absent) (by decide)

/-- **The rules say the same of both buckets**, unless the one without the algorithm demands it. -/
theorem validate_named_iff : b.validate = .ok () ↔ named.validate = .ok () ∧ ¬ b.Demands .alg := by
  have entries : named.entries = b.entries ++ [(.alg, .int a.value)] := by rw [h.named_eq]
  have vectors : named.has .iv = b.has .iv ∧ named.has .partialIv = b.has .partialIv :=
    ⟨h.has_eq (by decide), h.has_eq (by decide)⟩
  constructor
  · intro valid
    refine ⟨?_, h.not_demands valid⟩
    obtain ⟨all, apart⟩ := validate_eq_ok.mp valid
    refine validate_eq_ok.mpr ⟨fun e he => ?_, by rwa [vectors.1, vectors.2]⟩
    rw [entries, List.mem_append, List.mem_singleton] at he
    rcases he with old | rfl
    · exact h.admits_named (all e old)
    · exact entryFault?_eq_none.mp (by simp [entryFault?, isAlgorithmId])
  · rintro ⟨valid, undemanded⟩
    obtain ⟨all, apart⟩ := validate_eq_ok.mp valid
    refine validate_eq_ok.mpr ⟨fun e he => ?_, by rwa [vectors.1, vectors.2] at apart⟩
    exact h.admits_of_named he (all e (entries ▸ List.mem_append_left _ he)) undemanded

end Presets

end Bucket

namespace Layer

variable {h : Layer} {a : Algorithm} {named prot : Bucket} (set : h.prot.Presets a named)

/-- The rules between the buckets hold before the algorithm is set if they hold after. -/
theorem checkBuckets_of_presets {b u : Bucket} (set : b.Presets a named)
    (apart : checkBuckets named u = .ok ()) : checkBuckets b u = .ok () := by
  obtain ⟨valid, shared, vectors⟩ := checkBuckets_eq_ok.mp apart
  refine checkBuckets_eq_ok.mpr ⟨valid, fun l hl => ?_, ?_⟩
  · exact shared l (Bucket.has_iff.mp (set.has_iff_or.mpr (.inl (Bucket.has_iff.mpr hl))))
  · rwa [set.has_eq (by decide), set.has_eq (by decide)] at vectors

include set

theorem filled_eq_of_presets : h.filled a = named := by
  rw [set.named_eq]
  exact Bucket.eq_of_fields set.isProtected.symm rfl set.unfixed.symm

/-- **The bucket to sign** is the one with the algorithm, if that keeps apart from the unprotected
one. -/
theorem withAlgorithm_of_presets : h.withAlgorithm (.algorithm a) = .ok prot ↔
    prot = named ∧ checkBuckets named h.unprot = .ok () := by
  have agrees : h.prot.checkAlgorithm (.algorithm a) = .ok () :=
    Bucket.checkAlgorithm_eq_ok_iff.mpr (.inl set.absent)
  have copies : h.keepsBucket = false := by
    rw [keepsBucket, set.absent, Bucket.isFinalized_eq_false_iff.mpr set.unfixed]
    rfl
  have copy : ({ isProtected := true, entries := h.prot.entries } : Bucket) = h.prot :=
    Bucket.eq_of_fields set.isProtected.symm rfl set.unfixed.symm
  have copied : Bucket.ofSource true (.bucket h.prot) = .ok h.prot := by
    rw [set.labelled.ofSource_bucket set.absent, copy]
  rw [withAlgorithm, agrees, copies, copied, Except.ok_bind, if_neg Bool.false_ne_true,
    Except.ok_bind, set.set, Except.ok_bind]
  rcases checkBuckets named h.unprot with e | ⟨⟩
  · simp
  · simp [eq_comm]

/-- The bucket that has the algorithm is signed as it is. -/
theorem withAlgorithm_named (registered : a ∈ Registry.standard.algorithms) :
    Layer.withAlgorithm { h with prot := named } (.algorithm a) = .ok named := by
  have own : named.algorithm = .ok (some a) := Bucket.algorithm_setAlgorithm registered set.set
  have agrees : named.checkAlgorithm (.algorithm a) = .ok () :=
    Bucket.checkAlgorithm_eq_ok_iff.mpr (.inr own)
  have keeps : Layer.keepsBucket { h with prot := named } = true := by
    rw [keepsBucket, set.has_iff_or.mpr (.inr rfl), Bool.true_or]
  rw [withAlgorithm, agrees, keeps]
  rfl

theorem kid_of_presets : Layer.kid { h with prot := named } = h.kid := by
  refine kid_congr ?_ rfl
  rw [← filled_eq_of_presets set, find?_filled_of_ne (by decide)]

/-- **What is settled before a signature is computed** is the same for both, unless the bucket
without the algorithm demands it. -/
theorem passes_iff_of_presets (registered : a ∈ Registry.standard.algorithms) :
    (h.check = .ok () ∧ h.withAlgorithm (.algorithm a) = .ok prot ∧ prot.validate = .ok ()) ↔
      ¬ h.prot.Demands .alg ∧ Layer.check { h with prot := named } = .ok () ∧
        Layer.withAlgorithm { h with prot := named } (.algorithm a) = .ok prot ∧
        prot.validate = .ok () := by
  rw [withAlgorithm_of_presets set, withAlgorithm_named set registered, check_eq_ok, check_eq_ok,
    set.validate_named_iff]
  constructor
  · rintro ⟨⟨⟨valid, undemanded⟩, -⟩, ⟨rfl, apart⟩, -⟩
    exact ⟨undemanded, ⟨valid, apart⟩, rfl, valid⟩
  · rintro ⟨undemanded, ⟨valid, apart⟩, ⟨⟩, -⟩
    exact ⟨⟨⟨valid, undemanded⟩, checkBuckets_of_presets set apart⟩, ⟨rfl, apart⟩, valid⟩

/-- The same with what follows, which knows the bucket to sign. -/
theorem settled_iff_of_presets (registered : a ∈ Registry.standard.algorithms) {β : Type}
    (rest : Bucket → Except Error β) {r : β} :
    (do
      h.check
      let prot ← h.withAlgorithm (.algorithm a)
      prot.validate
      rest prot) = .ok r ↔
      ¬ h.prot.Demands .alg ∧ (do
        Layer.check { h with prot := named }
        let prot ← Layer.withAlgorithm { h with prot := named } (.algorithm a)
        prot.validate
        rest prot) = .ok r := by
  simp only [Except.bind_eq_ok]
  constructor
  · rintro ⟨⟨⟩, checked, prot, bucket, ⟨⟩, valid, answered⟩
    obtain ⟨undemanded, checked, bucket, valid⟩ :=
      (passes_iff_of_presets set registered).mp ⟨checked, bucket, valid⟩
    exact ⟨undemanded, (), checked, prot, bucket, (), valid, answered⟩
  · rintro ⟨undemanded, ⟨⟩, checked, prot, bucket, ⟨⟩, valid, answered⟩
    obtain ⟨checked, bucket, valid⟩ :=
      (passes_iff_of_presets set registered).mpr ⟨undemanded, checked, bucket, valid⟩
    exact ⟨(), checked, prot, bucket, (), valid, answered⟩

/-- Both are signed as the same bucket. -/
theorem bucket_eq_of_presets (registered : a ∈ Registry.standard.algorithms) {alg alg' : Algorithm}
    (own : alg = a) (own' : alg' = a) (p : h.Prepared alg)
    (p' : Prepared { h with prot := named } alg') : p'.bucket = p.bucket := by
  subst own own'
  rw [((withAlgorithm_of_presets set).mp p.bucket_eq).1]
  exact Except.ok.inj (p'.bucket_eq.symm.trans (withAlgorithm_named set registered))

omit set

/-- A bucket that does not stay as it is when it is signed is compared with the one that is signed
then. -/
theorem presets_filled (wf : h.WellFormed) (copies : h.keepsBucket = false) :
    h.prot.Presets a (h.filled a) := by
  rw [keepsBucket, Bool.or_eq_false_iff] at copies
  obtain ⟨absent, unfixed⟩ := copies
  rw [Bucket.isFinalized_eq_false_iff] at unfixed
  refine ⟨wf.prot.labelled, wf.isProtected, absent, ?_⟩
  rw [Bucket.setAlgorithm_of_absent unfixed absent]
  exact congrArg Except.ok (Bucket.eq_of_fields wf.isProtected rfl unfixed)

/-- **The rules hold of the layer that is signed exactly if they hold of the layer before**, unless
the algorithm is filled in and demanded. -/
theorem Prepared.check_iff (p : h.Prepared a) (wf : h.WellFormed) : h.check = .ok () ↔
    p.layer.check = .ok () ∧ (h.keepsBucket = true ∨ ¬ h.prot.Demands .alg) := by
  refine ⟨fun checked => ⟨p.check wf.prot.labelled checked, ?_⟩, fun ⟨checked, undemanded⟩ => ?_⟩
  · cases keeps : h.keepsBucket with
    | true => exact .inl rfl
    | false =>
      have set := presets_filled (a := a) wf keeps
      exact .inr (set.not_demands (check_eq_ok.mp checked).1)
  · obtain ⟨valid, apart⟩ := check_eq_ok.mp checked
    have apart : checkBuckets p.bucket h.unprot = .ok () := apart
    obtain ⟨-, ⟨keeps, e⟩ | ⟨copies, e, -⟩⟩ := withAlgorithm_eq_ok wf.prot.labelled p.bucket_eq
    · exact check_eq_ok.mpr ⟨e ▸ p.valid, e ▸ apart⟩
    · have set := presets_filled (a := a) wf copies
      have undemanded := undemanded.resolve_left (by rw [copies]; decide)
      exact check_eq_ok.mpr ⟨set.validate_named_iff.mpr ⟨e ▸ p.valid, undemanded⟩,
        checkBuckets_of_presets set (e ▸ apart)⟩

end Layer

end Cose
