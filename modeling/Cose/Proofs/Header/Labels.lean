import Cose.Header.Layer
import Cose.Proofs.Except
import Mathlib.Data.List.Nodup

/-!
# Buckets as finite maps

A bucket has one value for each of its labels, and its labels are canonical: every operation that
stores a value goes through the canonical label, and replaces the value that is there. The copy
that signing makes of a bucket is the bucket itself with the algorithm behind its entries.

## Main definitions

* `Label.IsCanonical`: labels that spell themselves
* `Bucket.Labelled`: the labels of a bucket are canonical and distinct

## Main results

* `Bucket.Labelled.set`, `Bucket.Labelled.erase`: storing and erasing keep it
* `Layer.withAlgorithm_eq_ok`: the bucket to sign with an algorithm
-/

namespace Cose

/-- A label that spells itself: an integer, or a text that is no alias. -/
def Label.IsCanonical (l : Label) : Prop :=
  Label.ofValue l.toValue = .ok l

theorem Label.isCanonical_of_mem_common : ∀ e ∈ Label.common, e.2.IsCanonical := by
  simp [Label.common, Label.IsCanonical, Label.ofValue, Label.toValue, Label.alg, Label.crit,
    Label.contentType, Label.kid, Label.iv, Label.partialIv, Label.counterSignature]

/-- What a value spells is a canonical label. -/
theorem Label.isCanonical_of_ofValue {v : Value} {l : Label} (h : Label.ofValue v = .ok l) :
    l.IsCanonical := by
  cases v with
  | int n => cases h; rfl
  | text s =>
    cases h
    cases spelled : Label.common.lookup s with
    | none => simp [Label.IsCanonical, Label.ofText, spelled, Label.toValue, Label.ofValue]
    | some l =>
      obtain ⟨before, after, split, -⟩ := List.lookup_eq_some_iff.mp spelled
      have mem : (s, l) ∈ Label.common := by simp [split]
      simpa [Label.ofText, spelled] using Label.isCanonical_of_mem_common _ mem
  | _ => cases h

theorem Label.toValue_inj {l l' : Label} (h : l.toValue = l'.toValue) : l = l' := by
  cases l <;> cases l' <;> cases h <;> rfl

/-! ## Storing and erasing -/

section Entries

variable {l : Label} {v : Value} {es : List (Label × Value)}

theorem storeEntry_of_not_mem (h : l ∉ es.map Prod.fst) : storeEntry l v es = es ++ [(l, v)] := by
  induction es with
  | nil => rfl
  | cons e es ih =>
    rw [List.map_cons, List.mem_cons, not_or] at h
    rw [storeEntry, if_neg (Ne.symm h.1), ih h.2, List.cons_append]

theorem map_fst_storeEntry_of_mem (h : l ∈ es.map Prod.fst) :
    (storeEntry l v es).map Prod.fst = es.map Prod.fst := by
  induction es with
  | nil => cases h
  | cons e es ih =>
    rw [storeEntry]
    split
    · next he => rw [List.map_cons, List.map_cons, he]
    · next he =>
      rw [List.map_cons, List.mem_cons] at h
      rw [List.map_cons, List.map_cons, ih (h.resolve_left (Ne.symm he))]

theorem eraseEntry_sublist : (eraseEntry l es).Sublist es := by
  induction es with
  | nil => exact .slnil
  | cons e es ih =>
    rw [eraseEntry]
    split
    · exact List.sublist_cons_self e es
    · exact ih.cons_cons e

end Entries

namespace Bucket

/-- The labels of a bucket are canonical and distinct. -/
structure Labelled (b : Bucket) : Prop where
  nodup : b.labels.Nodup
  canonical : ∀ l ∈ b.labels, l.IsCanonical

variable {b b' : Bucket} {l : Label} {v : Value}

theorem has_iff : b.has l = true ↔ l ∈ b.labels := by
  simp [has, find?, labels, List.lookup_isSome_iff]

theorem has_eq_false_iff : b.has l = false ↔ l ∉ b.labels := by
  rw [← has_iff, Bool.not_eq_true]

theorem mem_of_find? (h : b.find? l = some v) : (l, v) ∈ b.entries := by
  obtain ⟨before, after, split, -⟩ := List.lookup_eq_some_iff.mp h
  simp [split]

theorem find?_eq_none_iff : b.find? l = none ↔ l ∉ b.labels := by
  rw [← has_iff, has, Option.isSome_iff_ne_none, not_not]

/-- The value of a label is the one of its only entry. -/
theorem Labelled.find?_eq_some_iff (h : b.Labelled) : b.find? l = some v ↔ (l, v) ∈ b.entries := by
  refine ⟨mem_of_find?, fun mem => ?_⟩
  obtain ⟨before, after, split⟩ := List.append_of_mem mem
  have nodup := h.nodup
  rw [labels, split, List.map_append, List.map_cons] at nodup
  have fresh : ∀ e ∈ before, (l == e.1) = false := by
    intro e he
    have apart := (List.nodup_append.mp nodup).2.2 e.1 (List.mem_map_of_mem he) l
      (List.mem_cons_self ..)
    simpa using Ne.symm apart
  exact List.lookup_eq_some_iff.mpr ⟨before, after, split, fun e he => by simpa using fresh e he⟩

theorem isFinalized_iff_exists : b.isFinalized = true ↔ ∃ p, b.fixed = some p := by
  rw [isFinalized_eq, Option.isSome_iff_exists]

theorem isFinalized_eq_false_iff : b.isFinalized = false ↔ b.fixed = none := by
  rw [isFinalized_eq, Option.isSome_eq_false_iff, Option.isNone_iff_eq_none]

theorem labelled_empty (isProtected : Bool) (fixed : Option Bytes) :
    Labelled { isProtected := isProtected, fixed := fixed } :=
  ⟨List.nodup_nil, fun _ h => absurd h List.not_mem_nil⟩

/-- Being labelled is a property of the entries. -/
theorem Labelled.of_labels_eq (h : b.Labelled) (e : b'.labels = b.labels) : b'.Labelled :=
  ⟨e ▸ h.nodup, e ▸ h.canonical⟩

theorem Labelled.store (h : b.Labelled) (hl : l.IsCanonical) (v : Value) :
    (b.store l v).Labelled := by
  by_cases mem : l ∈ b.labels
  · exact h.of_labels_eq (map_fst_storeEntry_of_mem mem)
  · have labels_eq : (b.store l v).labels = b.labels ++ [l] := by
      rw [labels, Bucket.store, storeEntry_of_not_mem mem, List.map_append]
      rfl
    refine ⟨?_, ?_⟩
    · rw [labels_eq, List.nodup_append]
      refine ⟨h.nodup, List.nodup_singleton l, fun a ha c hc => ?_⟩
      rw [List.mem_singleton.mp hc]
      exact fun e => mem (e ▸ ha)
    · rw [labels_eq]
      intro a ha
      rcases List.mem_append.mp ha with ha | ha
      · exact h.canonical a ha
      · rwa [List.mem_singleton.mp ha]

/-- Setting a parameter stores a value for a canonical label in a bucket that is not finalized.
It is the value that was given, but for an algorithm, which is stored as its identifier. -/
theorem set_cases {label value : Value} (h : b.set label value = .ok b') :
    b.isFinalized = false ∧ ∃ l v, Label.ofValue label = .ok l ∧ b' = b.store l v ∧
      (l = .alg ∧ normalizeAlgorithm value = .ok v ∨ l ≠ .alg ∧ v = value) := by
  obtain ⟨_, mutable, h⟩ := Except.bind_eq_ok.mp h
  have unfixed : b.isFinalized = false := by
    by_contra fixed
    rw [checkMutable, if_pos (by simpa using fixed)] at mutable
    cases mutable
  obtain ⟨l, hl, h⟩ := Except.bind_eq_ok.mp h
  split at h
  next isAlg =>
    obtain ⟨v, normal, h⟩ := Except.bind_eq_ok.mp h
    cases h
    exact ⟨unfixed, l, v, hl, rfl, .inl ⟨isAlg, normal⟩⟩
  next other =>
    cases h
    exact ⟨unfixed, l, value, hl, rfl, .inr ⟨other, rfl⟩⟩

theorem set_eq_ok {label value : Value} (h : b.set label value = .ok b') :
    b.isFinalized = false ∧ ∃ l v, Label.ofValue label = .ok l ∧ b' = b.store l v := by
  obtain ⟨unfixed, l, v, hl, stored, -⟩ := set_cases h
  exact ⟨unfixed, l, v, hl, stored⟩

theorem Labelled.set {label value : Value} (h : b.Labelled) (hs : b.set label value = .ok b') :
    b'.Labelled := by
  obtain ⟨-, l, v, hl, rfl⟩ := set_eq_ok hs
  exact h.store (Label.isCanonical_of_ofValue hl) v

/-- Erasing a parameter takes its entry out of a bucket that is not finalized. -/
theorem erase_eq_ok {label : Value} (h : b.erase label = .ok b') :
    b.isFinalized = false ∧
      ∃ l, Label.ofValue label = .ok l ∧ b' = { b with entries := eraseEntry l b.entries } := by
  obtain ⟨_, mutable, h⟩ := Except.bind_eq_ok.mp h
  have unfixed : b.isFinalized = false := by
    by_contra fixed
    rw [checkMutable, if_pos (by simpa using fixed)] at mutable
    cases mutable
  obtain ⟨l, hl, h⟩ := Except.bind_eq_ok.mp h
  split at h
  · cases h
    exact ⟨unfixed, l, hl, rfl⟩
  · cases h

theorem Labelled.erase {label : Value} (h : b.Labelled) (he : b.erase label = .ok b') :
    b'.Labelled := by
  obtain ⟨-, l, -, rfl⟩ := erase_eq_ok he
  have sub : (eraseEntry l b.entries).map Prod.fst |>.Sublist b.labels :=
    eraseEntry_sublist.map Prod.fst
  exact ⟨h.nodup.sublist sub, fun a ha => h.canonical a (sub.subset ha)⟩

/-! ## The copy that signing makes -/

/-- Setting further parameters that name no algorithm puts them behind the others. -/
theorem update_entries (isProtected : Bool) {es rest : List (Label × Value)}
    (canonical : ∀ e ∈ rest, e.1.IsCanonical) (noAlgorithm : ∀ e ∈ rest, e.1 ≠ .alg)
    (nodup : ((es ++ rest).map Prod.fst).Nodup) :
    Bucket.update { isProtected := isProtected, entries := es }
        (rest.map fun e => .ok (e.1.toValue, e.2)) =
      ({ isProtected := isProtected, entries := es ++ rest }, .ok ()) := by
  -- Each label is fresh when it is set, so what has been set so far only grows at the end.
  induction rest generalizing es with
  | nil => simp [Bucket.update]
  | cons e rest ih =>
    obtain ⟨l, v⟩ := e
    rw [List.forall_mem_cons] at canonical noAlgorithm
    have fresh : l ∉ es.map Prod.fst := by
      rw [List.map_append, List.nodup_append] at nodup
      intro mem
      exact nodup.2.2 l mem l (List.mem_cons_self ..) rfl
    have stored : Bucket.set { isProtected := isProtected, entries := es } l.toValue v =
        .ok { isProtected := isProtected, entries := es ++ [(l, v)] } := by
      have spelled : Label.ofValue l.toValue = .ok l := canonical.1
      rw [Bucket.set, spelled]
      simp only [checkMutable, Option.isSome_none, Bool.false_eq_true, if_false, Except.ok_bind,
        if_neg noAlgorithm.1, Bucket.store, storeEntry_of_not_mem fresh]
      rfl
    rw [List.map_cons, Bucket.update, stored]
    simp only
    rw [ih canonical.2 noAlgorithm.2 (by simpa using nodup), List.append_assoc,
      List.singleton_append]

/-- The copy of a bucket that names no algorithm has the same entries. -/
theorem Labelled.ofSource_bucket (h : b.Labelled) (noAlgorithm : b.has .alg = false)
    (isProtected : Bool) :
    ofSource isProtected (.bucket b) =
      .ok { isProtected := isProtected, entries := b.entries } := by
  rw [has_eq_false_iff] at noAlgorithm
  rw [ofSource, Source.isTruthy]
  split
  · have parameters : (Source.bucket b).parameters =
        .ok (b.entries.map fun e => .ok (e.1.toValue, e.2)) := by
      simp [Source.parameters, toEntries, Function.comp_def]
    have canonical : ∀ e ∈ b.entries, e.1.IsCanonical := fun e he =>
      h.canonical e.1 (List.mem_map_of_mem he)
    have other : ∀ e ∈ b.entries, e.1 ≠ .alg := fun e he same =>
      noAlgorithm (same ▸ List.mem_map_of_mem he)
    rw [Bucket.updateFrom, parameters]
    simp only
    have nodup : (([] ++ b.entries).map Prod.fst).Nodup := h.nodup
    rw [update_entries isProtected canonical other nodup]
    rfl
  · next empty =>
    have none_left : b.entries = [] := by simpa using empty
    rw [none_left]

/-- An algorithm that is set in a bucket without one is put behind its entries. -/
theorem setAlgorithm_of_absent (unfixed : b.fixed = none) (absent : b.has .alg = false)
    (a : Algorithm) :
    b.setAlgorithm (.algorithm a) =
      .ok { b with entries := b.entries ++ [(.alg, .int a.value)] } := by
  have fresh : Label.alg ∉ b.entries.map Prod.fst := has_eq_false_iff.mp absent
  simp only [setAlgorithm, Bucket.set, checkMutable, isFinalized_eq, unfixed, Option.isSome_none,
    Bool.false_eq_true, if_false, Label.toValue, Label.alg, Label.ofValue, Except.ok_bind, if_true,
    normalizeAlgorithm, Except.pure_eq, Except.ok.injEq, Bucket.store]
  exact eq_of_fields rfl (storeEntry_of_not_mem fresh) rfl

theorem encode_fix (isProtected : b.isProtected = true) (p : Bytes) :
    (b.fix p).encode = .ok p := by
  rw [encode, fix_isProtected, isProtected]
  rfl

theorem finalize_of_encode {p : Bytes} (h : b.encode = .ok p) : b.finalize = .ok (b.fix p, p) := by
  rw [finalize, h]
  rfl

end Bucket

namespace Layer

variable {h : Layer} {a : Algorithm} {prot : Bucket}

/-- The protected bucket with an algorithm added, as it is signed. -/
def filled (h : Layer) (a : Algorithm) : Bucket :=
  { isProtected := true, entries := h.prot.entries ++ [(.alg, .int a.value)] }

/-- **The bucket to sign with an algorithm** is the protected bucket itself if that names the
algorithm or is finalized, else the protected bucket with the algorithm behind its entries. -/
theorem withAlgorithm_eq_ok (labelled : h.prot.Labelled)
    (e : h.withAlgorithm (.algorithm a) = .ok prot) :
    h.prot.checkAlgorithm (.algorithm a) = .ok () ∧
      (h.keepsBucket = true ∧ prot = h.prot ∨
        h.keepsBucket = false ∧ prot = h.filled a ∧ checkBuckets prot h.unprot = .ok ()) := by
  obtain ⟨_, agrees, e⟩ := Except.bind_eq_ok.mp e
  refine ⟨agrees, ?_⟩
  split at e
  · next keeps =>
    cases e
    exact .inl ⟨keeps, rfl⟩
  · next copies =>
    have copies : h.keepsBucket = false := by simpa using copies
    have noAlgorithm : h.prot.has .alg = false := by
      simp only [keepsBucket, Bool.or_eq_false_iff] at copies
      exact copies.1
    obtain ⟨copy, hc, e⟩ := Except.bind_eq_ok.mp e
    rw [labelled.ofSource_bucket noAlgorithm] at hc
    obtain ⟨prot', hf, e⟩ := Except.bind_eq_ok.mp e
    obtain ⟨_, apart, e⟩ := Except.bind_eq_ok.mp e
    cases e
    cases hc
    have absent : Bucket.has { isProtected := true, entries := h.prot.entries } .alg = false :=
      noAlgorithm
    have stored := Bucket.setAlgorithm_of_absent rfl absent a
    exact .inr ⟨copies, Except.ok.inj (hf.symm.trans stored), apart⟩

end Layer

end Cose
