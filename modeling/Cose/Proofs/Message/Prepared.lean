import Cose.Proofs.Header.WellFormed
import Cose.Proofs.Message.Signing

/-!
# What a signature covers stays

A signature covers the bytes of the protected bucket, and whoever checks it later looks at three
things in the headers: these bytes, the algorithm that the protected bucket names, and the key
identifier by which the key is found. None of the three changes when the bucket is fixed, nor when
the layer is encoded and decoded.

## Main definitions

* `Layer.Prepared.layer`: the layer with the protected bucket that is signed
* `Layer.Prepared.Kept`: a layer with the same bytes, algorithm and key identifier

## Main results

* `Layer.Prepared.check`, `Layer.Prepared.wellFormed`, `Layer.Prepared.plain`: the layer that is
  signed is as good as the one before
* `Layer.Prepared.kept`, `Layer.Prepared.Kept.readBack`: what a signature covers stays
-/

namespace Cose

/-! ## Algorithms and key identifiers

The rules for headers make both of them simple values, which come back as they are. -/

namespace Bucket

variable {b b' : Bucket} {f : Value → Value} {l : Label} {v : Value}

theorem isSimpleKey_of_validate (valid : b.validate = .ok ()) (hl : l = .alg ∨ l = .kid)
    (mem : (l, v) ∈ b.entries) : v.IsSimpleKey := by
  have admitted := (validate_eq_ok.mp valid).1 _ mem
  rcases hl with rfl | rfl
  · have id := admitted.algorithm rfl
    cases v <;> first | constructor | cases id
  · have isBytes := admitted.keyId rfl
    cases v <;> first | constructor | cases isBytes

/-- The algorithm and the key identifier of a bucket come back as they are. -/
theorem Rereads.find?_eq_self (h : Rereads f b b') (labelled : b.Labelled)
    (valid : b.validate = .ok ()) (hl : l = .alg ∨ l = .kid) : b'.find? l = b.find? l := by
  rw [h.find?_eq labelled]
  cases found : b.find? l with
  | none => rfl
  | some v =>
    have simple := isSimpleKey_of_validate valid hl (mem_of_find? found)
    rw [Option.map_some, h.rereading.simple simple]

theorem kid_cases (valid : b.validate = .ok ()) : b.kid = .null ∨ ∃ k, b.kid = .bytes k := by
  rw [kid]
  cases found : b.find? .kid with
  | none => exact .inl rfl
  | some v =>
    have isBytes := ((validate_eq_ok.mp valid).1 _ (mem_of_find? found)).keyId rfl
    right
    cases v <;> first | exact ⟨_, rfl⟩ | cases isBytes

/-- Whether an algorithm agrees with a bucket depends on the algorithm in the bucket only. -/
theorem checkAlgorithm_congr (same : b'.find? .alg = b.find? .alg) (alg : Value) :
    b'.checkAlgorithm alg = b.checkAlgorithm alg := by
  rw [checkAlgorithm, checkAlgorithm, algorithm, algorithm, same]

end Bucket

namespace Layer

variable {h h' h'' : Layer} {a : Algorithm} {keys : List Value → Prop} {n : Nat}

/-- The key identifier of a layer that passes the rules is absent or a byte string. -/
theorem kid_cases (checked : h.check = .ok ()) : h.kid = .null ∨ ∃ k, h.kid = .bytes k := by
  obtain ⟨valid, apart⟩ := check_eq_ok.mp checked
  have valid_unprot := (checkBuckets_eq_ok.mp apart).1
  rw [kid, keyId]
  rcases Bucket.kid_cases valid_unprot with e | ⟨k, e⟩
  · rw [e]
    exact Bucket.kid_cases valid
  · rw [e]
    exact .inr ⟨k, rfl⟩

theorem kid_congr (prot : h'.prot.find? .kid = h.prot.find? .kid)
    (unprot : h'.unprot.find? .kid = h.unprot.find? .kid) : h'.kid = h.kid := by
  rw [kid, kid, keyId, keyId, Bucket.kid, Bucket.kid, Bucket.kid, Bucket.kid, prot, unprot]

/-! ## The bucket with the algorithm -/

section Filled

variable (noAlgorithm : h.prot.has .alg = false)

include noAlgorithm

theorem labelled_filled (labelled : h.prot.Labelled) : (h.filled a).Labelled := by
  have fresh := Bucket.has_eq_false_iff.mp noAlgorithm
  have copied : Bucket.Labelled { isProtected := true, entries := h.prot.entries } :=
    labelled.of_labels_eq rfl
  have stored := copied.store (l := .alg) rfl (.int a.value)
  rwa [Bucket.store, storeEntry_of_not_mem fresh] at stored

theorem find?_filled_alg : (h.filled a).find? .alg = some (.int a.value) := by
  rw [Bucket.has, Option.isSome_eq_false_iff, Option.isNone_iff_eq_none] at noAlgorithm
  rw [Bucket.find?, filled, List.lookup_append]
  rw [Bucket.find?] at noAlgorithm
  rw [noAlgorithm]
  rfl

end Filled

theorem find?_filled_of_ne {l : Label} (other : l ≠ .alg) :
    (h.filled a).find? l = h.prot.find? l := by
  have apart : (l == Label.alg) = false := by simpa using other
  rw [Bucket.find?, filled, List.lookup_append, List.lookup_cons, apart]
  simp [Bucket.find?]

/-! ## The layer that is signed -/

namespace Prepared

/-- **The layer that is signed**: its protected bucket is fixed. -/
def layer (p : h.Prepared a) : Layer := { h with prot := p.fixed }

variable (p : h.Prepared a)

theorem layer_encode : p.layer.prot.encode = .ok p.bytes :=
  Bucket.encode_fix (Bucket.encode_eq_ok p.bytes_eq).1 p.bytes

theorem check (labelled : h.prot.Labelled) (checked : h.check = .ok ()) :
    p.layer.check = .ok () := by
  have valid : p.fixed.validate = .ok () := p.valid
  refine check_eq_ok.mpr ⟨valid, ?_⟩
  obtain ⟨-, ⟨-, e⟩ | ⟨-, -, apart⟩⟩ := withAlgorithm_eq_ok labelled p.bucket_eq
  · have apart := (check_eq_ok.mp checked).2
    rw [← e] at apart
    exact apart
  · exact apart

theorem wellFormed (wf : h.WellFormed) : p.layer.WellFormed := by
  have bucket : p.bucket.WellFormed := by
    obtain ⟨-, ⟨-, e⟩ | ⟨copies, e, -⟩⟩ := withAlgorithm_eq_ok wf.prot.labelled p.bucket_eq
    · exact e ▸ wf.prot
    · rw [keepsBucket, Bool.or_eq_false_iff] at copies
      rw [e]
      exact (labelled_filled copies.1 wf.prot.labelled).wellFormed rfl
  exact ⟨bucket.fixed_encode p.bytes_eq, wf.unprot, (Bucket.encode_eq_ok p.bytes_eq).1,
    wf.isUnprotected⟩

theorem plain (labelled : h.prot.Labelled) (plain : h.Plain keys n) : p.layer.Plain keys n := by
  refine ⟨?_, plain.unprot⟩
  obtain ⟨-, ⟨-, e⟩ | ⟨-, e, -⟩⟩ := withAlgorithm_eq_ok labelled p.bucket_eq
  · intro entry mem
    rw [layer, fixed, e] at mem
    exact plain.prot entry mem
  · intro entry mem
    rw [layer, fixed, e] at mem
    rcases List.mem_append.mp mem with old | new
    · exact plain.prot entry old
    · rw [List.mem_singleton.mp new]
      exact .bigInt _ _

/-- What a signature covers is kept by a layer: the bytes of the protected bucket, the algorithm
in it, and the key identifier. -/
structure Kept (p : h.Prepared a) (h' : Layer) : Prop where
  encoded : h'.prot.encode = .ok p.bytes
  agrees : h'.prot.checkAlgorithm (.algorithm a) = .ok ()
  kid_eq : h'.kid = h.kid

/-- The algorithm in the bucket that is signed is the one it is signed with, if there is one. -/
theorem kept (labelled : h.prot.Labelled) (registered : Algorithm.lookup (.int a.value) = .ok a) :
    p.Kept p.layer := by
  obtain ⟨agrees, ⟨-, e⟩ | ⟨copies, e, -⟩⟩ := withAlgorithm_eq_ok labelled p.bucket_eq
  · have same : ∀ l, p.fixed.find? l = h.prot.find? l := fun l => by rw [← e]; rfl
    refine ⟨p.layer_encode, ?_, kid_congr (same .kid) rfl⟩
    rw [layer, Bucket.checkAlgorithm_congr (same .alg), agrees]
  · have same : ∀ l, p.fixed.find? l = (h.filled a).find? l := fun l => by rw [← e]; rfl
    rw [keepsBucket, Bool.or_eq_false_iff] at copies
    refine ⟨p.layer_encode, ?_, kid_congr ?_ rfl⟩
    · have named : p.fixed.algorithm = .ok (some a) := by
        rw [Bucket.algorithm, same, find?_filled_alg copies.1]
        simp only [registered]
        rfl
      rw [layer, Bucket.checkAlgorithm, named]
      simp [Value.same, Value.sameAtom]
    · rw [layer, same, find?_filled_of_ne (by decide)]

/-- **What a signature covers is kept on the way** from a layer to what it is decoded to. -/
theorem Kept.readBack {p : h.Prepared a} {q : Bytes} (kept : p.Kept h') (wf : h'.WellFormed)
    (back : ReadBack q h' h'') : p.Kept h'' := by
  obtain ⟨f, prot⟩ := back.prot
  have unprot := back.rereads_unprot wf
  obtain ⟨valid, apart⟩ := check_eq_ok.mp back.checked
  have valid_unprot := (checkBuckets_eq_ok.mp apart).1
  have bytes_eq : q = p.bytes := Except.ok.inj (back.encoded.symm.trans kept.encoded)
  refine ⟨bytes_eq ▸ back.prot_encode, ?_, ?_⟩
  · have same := prot.find?_eq_self wf.prot.labelled valid (.inl rfl)
    rw [Bucket.checkAlgorithm_congr same, kept.agrees]
  · rw [kid_congr (prot.find?_eq_self wf.prot.labelled valid (.inr rfl))
      (unprot.find?_eq_self wf.unprot.labelled valid_unprot (.inr rfl)), kept.kid_eq]

end Prepared

end Layer

end Cose
