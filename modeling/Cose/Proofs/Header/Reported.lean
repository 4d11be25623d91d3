import Cose.Proofs.Cbor.Canonical
import Cose.Proofs.Cbor.ComingBack
import Cose.Proofs.Header.FiniteMap
import Cose.Proofs.Header.Rules
import Cose.Proofs.Message.Prepared

/-!
# Headers report what is fixed

A bucket is made, or received, and then worked on. Fixing its bytes and decoding them are the two
ways to a finalized one, and nothing that is done to it later makes the bytes and the entries differ:
whoever reads an algorithm, a key identifier, or any other parameter, reads what stands in the bytes
that are signed.

## Main definitions

* `Bucket.Operation`, `Bucket.perform`, `Bucket.run`: the operations on buckets, one by one and in
  order
* `Bucket.Starts`: a bucket that is new, or received
* `Bucket.Reports`: a bucket with the parameters of another one, which has come back

## Main results

* `Bucket.WellFormed.perform`, `Bucket.Fixed.perform`: what one operation keeps
* `Bucket.WellFormed.isFinalized_iff`: a bucket is finalized exactly if no operation changes what it
  is encoded as
* `Bucket.WellFormed.reports`: the fixed bytes are decoded to the parameters that can be read
* `Bucket.reports_what_is_fixed`: buckets after any operations
-/

namespace Cose.Bucket

open Value (DistinctKeys ComesBack)

/-! ## Operations -/

/-- **An operation on a bucket.** -/
inductive Operation where
  | change (c : Change)
  | setAlgorithm (alg : Value)
  | setKid (kid : Value)
  | validate
  | encode
  | toMap
  | finalize

variable {b d : Bucket} {p : Bytes}

/-- What an operation leaves. -/
def perform (b : Bucket) : Operation → Step Bucket Unit
  | .change c => b.apply c
  | .setAlgorithm alg => .ofExcept b ((b.setAlgorithm alg).map (·, ()))
  | .setKid kid => .ofExcept b ((b.setKid kid).map (·, ()))
  | .validate => .pure b b.validate
  | .encode => .pure b (b.encode.map fun _ => ())
  | .toMap => .pure b (b.toMap.map fun _ => ())
  | .finalize => .ofExcept b (b.finalize.map fun r => (r.1, ()))

/-- The bucket after operations in order, also after those that fail. -/
def run (b : Bucket) (ops : List Operation) : Bucket :=
  ops.foldl (fun b o => (b.perform o).after) b

/-- A bucket to start with is new, or received. -/
inductive Starts : Bucket → Prop
  | new {isProtected : Bool} {s : Source} {b : Bucket} (made : ofSource isProtected s = .ok b) :
      Starts b
  | prot {v : Value} {b : Bucket} (decoded : decodeProtected v = .ok b) : Starts b
  | unprot {v : Value} {b : Bucket} (decoded : decodeUnprotected v = .ok b) : Starts b

theorem Starts.wellFormed (h : b.Starts) : b.WellFormed := by
  cases h with
  | new made => exact wellFormed_ofSource made
  | prot decoded => exact (wellFormed_of_decodeProtected decoded).1
  | unprot decoded => exact (wellFormed_of_decodeUnprotected decoded).1

/-! ## What is kept -/

/-- **Every operation keeps a bucket well formed**, whether it answers or fails. -/
theorem WellFormed.perform (h : b.WellFormed) (o : Operation) :
    (b.perform o).after.WellFormed := by
  cases o with
  | change c => exact h.apply c
  | setAlgorithm alg => exact h.apply (.set Label.alg.toValue alg)
  | setKid kid => exact h.apply (.set Label.kid.toValue kid)
  | validate | encode | toMap => exact h
  | finalize =>
    rw [Bucket.perform]
    rcases done : b.finalize with e | ⟨b', p⟩
    · exact h
    · exact h.finalize done

theorem WellFormed.run (h : b.WellFormed) (ops : List Operation) : (b.run ops).WellFormed := by
  induction ops generalizing b with
  | nil => exact h
  | cons o ops ih => exact ih (h.perform o)

theorem Fixed.finalize_eq (h : b.Fixed) (encoded : b.encode = .ok p) : b.finalize = .ok (b, p) := by
  rw [finalize_of_encode encoded, h.fixed_encode encoded]

/-- **No operation changes a bucket with fixed bytes.** -/
theorem Fixed.perform (h : b.Fixed) (o : Operation) : (b.perform o).after = b := by
  cases o with
  | change c => exact h.apply_after c
  | setAlgorithm alg => exact h.apply_after (.set Label.alg.toValue alg)
  | setKid kid => exact h.apply_after (.set Label.kid.toValue kid)
  | validate | encode | toMap => rfl
  | finalize =>
    obtain ⟨p, fixed⟩ := isFinalized_iff_exists.mp h.isFinalized
    rw [Bucket.perform, h.finalize_eq (h.encode_eq fixed)]
    rfl

theorem Fixed.run (h : b.Fixed) (ops : List Operation) : b.run ops = b := by
  induction ops with
  | nil => rfl
  | cons o ops ih =>
    show (b.perform o).after.run ops = b
    rw [h.perform, ih]

/-! ## Finalized buckets -/

theorem clear_of_unfixed (unfixed : b.fixed = none) :
    (b.perform (.change .clear)).after = { b with entries := [] } := by
  show (b.apply .clear).after = _
  rw [Bucket.apply, clear, checkMutable_of_unfixed unfixed]
  split
  · next empty =>
    have none_left : b.entries = [] := by simpa using empty
    show b = _
    rw [← none_left]
  · rfl

/-- **A bucket is finalized exactly if no operation changes what it is encoded as.** Another one is
encoded as nothing when it is cleared, and as something else with a parameter in it. -/
theorem WellFormed.isFinalized_iff (h : b.WellFormed) :
    b.isFinalized = true ↔ ∃ p, ∀ later, (b.run later).encode = .ok p := by
  constructor
  · intro finalized
    obtain ⟨p, fixed⟩ := isFinalized_iff_exists.mp finalized
    have own := h.isFixed fixed
    refine ⟨p, fun later => ?_⟩
    rw [own.run, own.encode_eq fixed]
  · rintro ⟨p, stays⟩
    by_contra unfinalized
    have unfixed : b.fixed = none := isFinalized_eq_false_iff.mp (by simpa using unfinalized)
    have isProtected : b.isProtected = true := (encode_eq_ok (stays [])).1
    have cleared : b.run [.change .clear] = { isProtected := true } := by
      show (b.perform (.change .clear)).after = _
      rw [clear_of_unfixed unfixed]
      exact eq_of_fields isProtected rfl unfixed
    have refilled : b.run [.change .clear, .change (.set (.int 4) (.bytes []))] =
        { isProtected := true, entries := [(.kid, .bytes [])] } := by
      show ((b.run [.change .clear]).perform (.change (.set (.int 4) (.bytes [])))).after = _
      rw [cleared]
      rfl
    have empty := stays [.change .clear]
    have other := stays [.change .clear, .change (.set (.int 4) (.bytes []))]
    rw [cleared] at empty
    rw [refilled] at other
    cases empty
    obtain ⟨-, again | ⟨-, ⟨gone, -⟩ | ⟨-, encoded⟩⟩⟩ := encode_eq_ok other
    · cases again
    · cases gone
    · exact Cbor.encode_ne_nil encoded rfl

/-! ## What is read -/

/-- The list of critical labels comes back as it is, as labels are simple values. -/
theorem Rereads.find?_crit_eq_self {f : Value → Value} (h : Rereads f b d) (labelled : b.Labelled)
    (valid : b.validate = .ok ()) : d.find? .crit = b.find? .crit := by
  rw [h.find?_eq labelled]
  cases found : b.find? .crit with
  | none => rfl
  | some v =>
    have admitted := (validate_eq_ok.mp valid).1 _ (mem_of_find? found)
    obtain ⟨-, x, xs, rfl, spelled⟩ := criticalFault?_eq_none.mp (admitted.critical rfl)
    have same : ∀ y ∈ x :: xs, f y = id y := by
      intro y hy
      obtain ⟨l, spells, -⟩ := spelled y hy
      apply h.rereading.simple
      cases Label.ofValue_eq_ok_iff.mp spells <;> constructor
    rw [Option.map_some, h.rereading.list, List.map_congr_left same, List.map_id]

/-- A bucket reports what another one holds, which has come back from its bytes: the algorithm,
the key identifier and the critical labels are the same, and so are the labels; each value is the
one that it has come back as. -/
structure Reports (b d : Bucket) : Prop where
  algorithm : d.algorithm = b.algorithm
  kid : d.kid = b.kid
  critical : d.find? .crit = b.find? .crit
  labels : d.labels.Perm b.labels
  values : ∀ l, Option.Rel (ComesBack false) (b.find? l) (d.find? l)

theorem Reports.refl (b : Bucket) : b.Reports b where
  algorithm := rfl
  kid := rfl
  critical := rfl
  labels := .refl _
  values l := by
    cases b.find? l with
    | none => exact .none
    | some v => exact .some (.refl false v)

/-- What is read from the bytes of a bucket is what the bucket reports. -/
theorem Labelled.reports_readEntries (labelled : b.Labelled) (valid : b.validate = .ok ())
    {n : Nat} (plain : b.Plain DistinctKeys n) (fixed : Option Bytes) :
    b.Reports
      { isProtected := b.isProtected, entries := b.readEntries .canonical, fixed := fixed } := by
  have rereads := b.rereads_readEntries .canonical fixed
  have alg := rereads.find?_eq_self labelled valid (.inl rfl)
  have kid := rereads.find?_eq_self labelled valid (.inr rfl)
  refine ⟨?_, ?_, rereads.find?_crit_eq_self labelled valid, rereads.labels_perm, fun l => ?_⟩
  · rw [Bucket.algorithm, Bucket.algorithm, alg]
  · rw [Bucket.kid, Bucket.kid, kid]
  · rw [rereads.find?_eq labelled]
    cases found : b.find? l with
    | none => exact .none
    | some v =>
      have own := plain _ (mem_of_find? found)
      exact .some (Cbor.comesBack_received own false fun frozen => absurd frozen Bool.false_ne_true)

/-- **The fixed bytes of a bucket** are decoded to the parameters that it reports. -/
theorem WellFormed.reports (h : b.WellFormed) (fixed : b.fixed = some p)
    (plain : b.Plain DistinctKeys (Cbor.maxDepth - 1)) (fits : p.length < 2 ^ 64) :
    ∃ d, decodeProtected (.bytes p) = .ok d ∧ b.Reports d := by
  obtain ⟨isProtected, received | own⟩ := h.fixed p fixed
  · exact ⟨b, received, .refl b⟩
  have labelled : Labelled b.unfixed := ⟨h.labelled.nodup, h.labelled.canonical⟩
  have decoded := labelled.decodeProtected_encode plain (fun _ => Value.SimpleKeys.distinctKeys)
    rfl own fits
  have valid : b.validate = .ok () := by
    obtain ⟨-, again | ⟨-, ⟨empty, -⟩ | ⟨valid, -⟩⟩⟩ := encode_eq_ok own
    · cases again
    · have none_left : b.entries = [] := empty
      rw [validate, none_left]
      simp [has, find?, none_left]
    · exact valid
  have reports := h.labelled.reports_readEntries valid plain (some p)
  rw [isProtected] at reports
  exact ⟨_, decoded, reports⟩

/-! ## Any operations -/

/-- **What the headers report is what is fixed.** A bucket that is new, or received, is worked on by
any operations, which may fail. It is finalized exactly if no later operations change what it is
encoded as. Only a protected bucket is; and from then on it is left as it is by all operations, it is
encoded as and finalized with the same bytes, and these are decoded to the parameters that it
reports, as long as they are plain data. -/
theorem reports_what_is_fixed (starts : b.Starts) (ops : List Operation) :
    let t := b.run ops
    (t.isFinalized = true ↔ ∃ p, ∀ later, (t.run later).encode = .ok p) ∧
      (t.isFinalized = true → t.isProtected = true ∧ ∃ p, t.fixed = some p ∧
        (∀ later, t.run later = t) ∧ t.encode = .ok p ∧ t.finalize = .ok (t, p) ∧
        (t.Plain DistinctKeys (Cbor.maxDepth - 1) → p.length < 2 ^ 64 →
          ∃ d, decodeProtected (.bytes p) = .ok d ∧ t.Reports d)) := by
  intro t
  have wf : t.WellFormed := starts.wellFormed.run ops
  refine ⟨wf.isFinalized_iff, fun finalized => ?_⟩
  obtain ⟨p, fixed⟩ := isFinalized_iff_exists.mp finalized
  have own : t.Fixed := wf.isFixed fixed
  have encoded := own.encode_eq fixed
  exact ⟨own.isProtected, p, fixed, own.run, encoded, own.finalize_eq encoded, wf.reports fixed⟩

/-- A bucket with an algorithm, and with a map under a label of its own that has a tuple for a key. -/
def keyedByTuple : Bucket where
  isProtected := true
  entries := [(.alg, .int (-7)), (.int 40, .map [(.tuple [.int 1], .buffer [7])])]

/-- The encoded entries of the map inside the bucket. -/
def keyedByTupleWithin : List (Bytes × Bytes) :=
  [([0x81, 1], [0x41, 7])]

/-- The encoded entries of the bucket, in the order in which they stand. -/
def keyedByTupleEntries : List (Bytes × Bytes) :=
  [([1], [0x26]), ([0x18, 40], Cbor.joinEntries keyedByTupleWithin)]

-- Evaluation does not go through the sorting of entries, so the order is given by the lemma for it.

theorem encode_keyedByTuple : keyedByTuple.encode = .ok (Cbor.joinEntries keyedByTupleEntries) := by
  have within : Cbor.arrange .canonical keyedByTupleWithin = keyedByTupleWithin :=
    Cbor.arrange_of_sorted (.refl _) (by decide) (by decide)
  have outside : Cbor.arrange .canonical keyedByTupleEntries = keyedByTupleEntries :=
    Cbor.arrange_of_sorted (.refl _) (by decide) (by decide)
  rw [← outside, keyedByTupleEntries, ← within]
  with_unfolding_all rfl

theorem plain_keyedByTuple : keyedByTuple.Plain DistinctKeys (Cbor.maxDepth - 1) := by
  have tuple : (Value.tuple [.int 1]).Plain DistinctKeys 2 :=
    .tuple (by simpa using .int (by decide))
  have map : (Value.map [(.tuple [.int 1], .buffer [7])]).Plain DistinctKeys 3 :=
    .map ⟨by simp [Value.isHashable, Value.areHashable], by simp⟩ (by simpa using tuple)
      (by simpa using .buffer 1 [7])
  simp only [Bucket.Plain, keyedByTuple, List.forall_mem_cons]
  exact ⟨.bigInt _ _, map.mono (by decide), fun e he => absurd he List.not_mem_nil⟩

/-- The bucket is finalized, refuses a key identifier, and reports what its bytes are decoded to. -/
theorem reports_what_is_fixed_tuple :
    let p : Bytes := [0xa2, 1, 0x26, 0x18, 40, 0xa1, 0x81, 1, 0x41, 7]
    let t := run { isProtected := true } [.setAlgorithm (.algorithm .es256),
      .change (.set (.int 40) (.map [(.tuple [.int 1], .buffer [7])])), .finalize,
      .setKid (.bytes [0x31])]
    t.encode = .ok p ∧ (∀ later, t.run later = t) ∧
      ∃ d, decodeProtected (.bytes p) = .ok d ∧ d.algorithm = .ok (some .es256) ∧ d.kid = .null ∧
        t.Reports d := by
  intro p t
  have reached : t = keyedByTuple.fix p := by
    have finalized : (keyedByTuple.perform .finalize).after =
        keyedByTuple.fix p := by
      rw [perform, finalize_of_encode encode_keyedByTuple]
      rfl
    show ((keyedByTuple.perform .finalize).after.perform (.setKid (.bytes [0x31]))).after = _
    rw [finalized]
    rfl
  have own : t.isFinalized = true := by rw [reached]; rfl
  obtain ⟨-, q, fixed, stays, encoded, -, reports⟩ :=
    (reports_what_is_fixed (@Starts.new true .none _ rfl) _).2 own
  obtain rfl : q = p := Option.some.inj (fixed.symm.trans (congrArg Bucket.fixed reached))
  have plain : t.Plain DistinctKeys (Cbor.maxDepth - 1) := by
    rw [reached]
    exact plain_keyedByTuple
  obtain ⟨d, decoded, same⟩ := reports plain (by decide)
  refine ⟨encoded, stays, d, decoded, same.algorithm.trans ?_, same.kid.trans ?_, same⟩
  · show t.algorithm = _
    rw [reached]
    rfl
  · show t.kid = _
    rw [reached]
    rfl

end Cose.Bucket
