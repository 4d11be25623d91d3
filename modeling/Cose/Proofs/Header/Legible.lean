import Cose.Proofs.Errors
import Cose.Proofs.Header.Duplicates

/-!
# Headers whose integers can be written

The message of an error may name a label or an algorithm, and an integer with too many digits has no
numeral. Where that happens, the failure to write takes the place of the error. In headers whose
integers can all be written it does not happen: they are refused with errors of the COSE family
only, and so are the algorithms that disagree with them.

## Main definitions

* `Bucket.Legible`, `Layer.Legible`: all integers can be written

## Main results

* `Bucket.Legible.isCose_validate`, `Layer.Legible.isCose_check`: the rules for headers
* `Bucket.Legible.isCose_checkAlgorithm`, `Layer.Legible.isCose_withAlgorithm`: algorithms
-/

namespace Cose

/-! ## Integers that can be written -/

theorem Value.isWritable_of_mem {v : Value} {xs : List Value} (h : areWritable xs = true)
    (mem : v ∈ xs) : v.isWritable = true := by
  induction xs with
  | nil => cases mem
  | cons x xs ih =>
    rw [areWritable, Bool.and_eq_true] at h
    rcases List.mem_cons.mp mem with rfl | mem
    · exact h.1
    · exact ih h.2 mem

theorem Value.isWritable_of_mem_entries {e : Value × Value} {es : List (Value × Value)}
    (h : entriesAreWritable es = true) (mem : e ∈ es) :
    e.1.isWritable = true ∧ e.2.isWritable = true := by
  induction es with
  | nil => cases mem
  | cons d es ih =>
    rw [entriesAreWritable, Bool.and_eq_true, Bool.and_eq_true] at h
    rcases List.mem_cons.mp mem with rfl | mem
    · exact h.1
    · exact ih h.2 mem

/-- A label can be written if the value that spells it can. -/
theorem Label.isWritable_of_ofValue {v : Value} {l : Label} (h : ofValue v = .ok l)
    (writable : v.isWritable = true) : l.isWritable = true := by
  cases v with
  | int n =>
    cases h
    exact writable
  | text s =>
    cases h
    exact isWritable_ofText s
  | _ => cases h

/-- The identifiers of registered algorithms can be written. -/
theorem Algorithm.isWritable_of_mem {a : Algorithm} (h : a ∈ Registry.standard.algorithms) :
    (Value.algorithm a).isWritable = true := by
  have short : ∀ a ∈ Registry.standard.algorithms, a.value.natAbs < Text.maxDigits := by decide
  rw [Value.isWritable]
  exact Text.isWritable_of_lt (short a h)

/-! ## Errors of the family -/

theorem Error.isCose_writing {e : Error} {writable : Bool} (h : e.isCose = true)
    (able : writable = true) : (Error.writing writable e).isCose = true := by
  rw [able]
  exact h

theorem Registry.isCose_lookup (r : Registry) {id : Value} (writable : id.isWritable = true) :
    Fails Error.isCose (r.lookup id) := by
  fun_cases Registry.lookup r id
  case case5 =>
    rw [Value.isWritable] at writable
    exact .error (Error.isCose_writing rfl writable)
  all_goals first | exact .ok _ | exact .error rfl

namespace Bucket

variable {b : Bucket}

/-- **A bucket whose integers can be written.** -/
structure Legible (b : Bucket) : Prop where
  label : ∀ l ∈ b.labels, l.isWritable = true
  value : ∀ e ∈ b.entries, e.2.isWritable = true

theorem isCose_criticalLabelFault {v : Value} {e : Error} (writable : v.isWritable = true)
    (h : b.criticalLabelFault? v = some e) : e.isCose = true := by
  rw [criticalLabelFault?] at h
  split at h
  next e' spelled =>
    cases h
    exact Label.fails_ofValue (fun _ => rfl) v _ spelled
  next l spelled =>
    simp only at h
    split at h
    · cases h
    · cases h
      exact Error.isCose_writing rfl (Label.isWritable_of_ofValue spelled writable)

theorem isCose_criticalFault {v : Value} {e : Error} (writable : v.isWritable = true)
    (h : b.criticalFault? v = some e) : e.isCose = true := by
  unfold criticalFault? at h
  split at h
  · cases h
    rfl
  split at h
  · cases h
    rfl
  next xs _ =>
    obtain ⟨x, mem, fault⟩ := List.exists_of_findSome?_eq_some h
    rw [Value.isWritable] at writable
    exact isCose_criticalLabelFault (Value.isWritable_of_mem writable mem) fault
  · cases h
    rfl

theorem isCose_entryFault {entry : Label × Value} {e : Error}
    (writable : entry.2.isWritable = true) (h : b.entryFault? entry = some e) :
    e.isCose = true := by
  obtain ⟨l, v⟩ := entry
  by_cases critical : l = .crit
  · subst critical
    exact isCose_criticalFault writable h
  · have rule (f : HeaderFault) : (Error.header f).isCose = true := rfl
    rw [entryFault?, if_neg critical] at h
    grind

namespace Legible

variable (h : b.Legible)

include h

theorem isCose_validate : Fails Error.isCose b.validate := by
  rw [validate]
  split
  next e fault =>
    obtain ⟨entry, mem, fault⟩ := List.exists_of_findSome?_eq_some fault
    exact .error (isCose_entryFault (h.value entry mem) fault)
  · split
    · exact .error rfl
    · exact .ok _

theorem isCose_algorithm : Fails Error.isCose b.algorithm := by
  rw [algorithm]
  split
  · exact .ok _
  next v found =>
    obtain writable := h.value _ (mem_of_find? found)
    exact (Registry.isCose_lookup _ writable).map _

theorem isCose_checkAlgorithm {alg : Value} (writable : alg.isWritable = true) :
    Fails Error.isCose (b.checkAlgorithm alg) := by
  refine h.isCose_algorithm.bind fun named => ?_
  cases named with
  | none => exact .ok _
  | some named =>
    simp only
    split
    · exact .ok _
    · exact .error (Error.isCose_writing rfl writable)

end Legible

/-! ## The copy with an algorithm -/

section Labels

variable {b' : Bucket} {l k : Label} {v : Value}

theorem mem_labels_store (h : k ∈ (b.store l v).labels) : k = l ∨ k ∈ b.labels := by
  by_cases there : l ∈ b.labels
  · right
    rwa [labels, Bucket.store, map_fst_storeEntry_of_mem there] at h
  · rw [labels, Bucket.store, storeEntry_of_not_mem there, List.map_append, List.mem_append] at h
    rcases h with old | new
    · exact .inr old
    · exact .inl (List.mem_singleton.mp new)

theorem label_set {label value : Value} (legible : ∀ l ∈ b.labels, l.isWritable = true)
    (writable : label.isWritable = true) (h : b.set label value = .ok b') :
    ∀ l ∈ b'.labels, l.isWritable = true := by
  obtain ⟨-, l, v, spelled, rfl⟩ := set_eq_ok h
  intro k mem
  rcases mem_labels_store mem with rfl | mem
  · exact Label.isWritable_of_ofValue spelled writable
  · exact legible k mem

theorem label_update {ps : List (Value × Value)} (legible : ∀ l ∈ b.labels, l.isWritable = true)
    (writable : ∀ p ∈ ps, p.1.isWritable = true) :
    ∀ l ∈ (b.update (ps.map .ok)).1.labels, l.isWritable = true := by
  induction ps generalizing b with
  | nil => exact legible
  | cons p ps ih =>
    rw [List.forall_mem_cons] at writable
    rw [List.map_cons, update]
    split
    · next set => exact ih (label_set legible writable.1 set) writable.2
    · exact legible

theorem isWritable_toValue : l.toValue.isWritable = l.isWritable := by
  cases l with
  | int n => rw [Label.toValue, Value.isWritable, Label.isWritable]
  | text s => rfl

/-- A copy has no labels that could not be written before. -/
theorem label_ofSource {isProtected : Bool} (legible : ∀ l ∈ b.labels, l.isWritable = true)
    (h : ofSource isProtected (.bucket b) = .ok b') : ∀ l ∈ b'.labels, l.isWritable = true := by
  rw [ofSource] at h
  split at h
  · rw [updateFrom, Source.parameters] at h
    have given : ∀ p ∈ b.toEntries, p.1.isWritable = true := by
      intro p mem
      obtain ⟨e, there, rfl⟩ := List.mem_map.mp mem
      rw [isWritable_toValue]
      exact legible e.1 (List.mem_map_of_mem there)
    have kept := @label_update { isProtected := isProtected } b.toEntries (by simp [labels]) given
    simp only at h
    split at h
    next updated =>
      cases h
      rwa [updated] at kept
    · cases h
  · cases h
    simp [labels]

end Labels

end Bucket

theorem isCose_checkBuckets {prot unprot : Bucket}
    (labels : ∀ l ∈ prot.labels, l.isWritable = true) (h : unprot.Legible) :
    Fails Error.isCose (checkBuckets prot unprot) := by
  refine h.isCose_validate.bind fun _ => ?_
  simp only
  split
  · refine .error (Error.isCose_writing rfl (List.all_eq_true.mpr fun l mem => ?_))
    exact labels l (List.mem_filter.mp mem).1
  · split
    · exact .error rfl
    · exact .ok _

namespace Layer

/-- The key identifier of a layer can be written if those of its buckets can. -/
theorem isWritable_kid {h : Layer}
    (prot : ∀ v, h.prot.find? .kid = some v → v.isWritable = true)
    (unprot : ∀ v, h.unprot.find? .kid = some v → v.isWritable = true) :
    h.kid.isWritable = true := by
  have stored {b : Bucket} (each : ∀ v, b.find? .kid = some v → v.isWritable = true) :
      b.kid.isWritable = true := by
    rw [Bucket.kid]
    cases found : b.find? .kid with
    | none => rfl
    | some v => exact each v found
  rw [kid, keyId]
  split
  · exact stored prot
  · exact stored unprot

/-- **A layer whose integers can be written.** -/
structure Legible (h : Layer) : Prop where
  prot : h.prot.Legible
  unprot : h.unprot.Legible

namespace Legible

variable {h : Layer} (legible : h.Legible)

include legible

theorem isWritable_kid : h.kid.isWritable = true :=
  Layer.isWritable_kid (fun _ found => legible.prot.value _ (Bucket.mem_of_find? found))
    (fun _ found => legible.unprot.value _ (Bucket.mem_of_find? found))

/-- **The rules for a layer** fail with errors of the family only. -/
theorem isCose_check : Fails Error.isCose h.check :=
  legible.prot.isCose_validate.bind fun _ => isCose_checkBuckets legible.prot.label legible.unprot

/-- **A registered algorithm** that cannot be signed with is refused with an error of the family. -/
theorem isCose_withAlgorithm {a : Algorithm} (registered : a ∈ Registry.standard.algorithms) :
    Fails Error.isCose (h.withAlgorithm (.algorithm a)) := by
  have rule (f : HeaderFault) : Error.isCose (.header f) = true := rfl
  have agrees := legible.prot.isCose_checkAlgorithm (Algorithm.isWritable_of_mem registered)
  refine agrees.bind fun _ => ?_
  split
  · exact .ok _
  rcases copied : Bucket.ofSource true (.bucket h.prot) with e | copy
  · exact .error (Bucket.fails_ofSource h.prot rule true e copied)
  rcases set : copy.setAlgorithm (.algorithm a) with e | filled
  · simp only [Except.ok_bind, set]
    exact .error (Bucket.fails_set copy rule _ _ e set)
  · simp only [Except.ok_bind, set]
    have short : Label.alg.toValue.isWritable = true := by
      rw [Bucket.isWritable_toValue]
      exact Label.isWritable_ofText "alg"
    have labels := Bucket.label_set (Bucket.label_ofSource legible.prot.label copied) short set
    exact (isCose_checkBuckets labels legible.unprot).bind fun _ => .ok _

end Legible

end Layer

end Cose
