import Cose.Proofs.Value.Keys
import Mathlib.Data.List.Induction

/-!
# Merging equal keys

Of equal keys a map keeps the first one, with the last value. Which keys are equal is a matter of
what the keys are, and need not be an equivalence: what is not a number differs from itself. It is
enough that labels are told apart, so that no key is equal to two of them. Values are compared in
such a way, with integers, floats and truth values compared by their number.

## Main definitions

* `Value.IsLabel`: integers and texts, the keys that are labels
* `Value.KeyEquality`: equalities of keys that tell labels apart
* `Value.keysBy`, `Value.entriesBy`: what is kept of keys and of pairs

## Main results

* `Value.keyEquality_same`: the equality of values is such
* `Value.keys_entriesBy`: the keys of a map are the first ones of equal keys
* `Value.find?_entriesBy`: the value of a label is the last one of an equal key
-/

namespace Cose

/-! ## Numbers -/

namespace Float.Number

variable {x : Number} {n : Int}

theorem ratio?_pos {num : Int} {den : Nat} (h : x.ratio? = some (num, den)) : 0 < den := by
  unfold ratio? at h
  split at h
  · simp only at h
    split at h
    · cases h
      exact Nat.one_pos
    · cases h
      exact Nat.two_pow_pos _
  · cases h

theorem isInt_iff : x.isInt n = true ↔ ∃ num den, x.ratio? = some (num, den) ∧ num = n * den := by
  rw [isInt]
  rcases x.ratio? with _ | ⟨num, den⟩ <;> simp

/-- A number has the value of one integer at most. -/
theorem isInt_eq_beq {m : Int} (h : x.isInt n = true) : x.isInt m = (m == n) := by
  obtain ⟨num, den, hr, rfl⟩ := isInt_iff.mp h
  have pos : (den : Int) ≠ 0 := by
    have := ratio?_pos hr
    omega
  rw [isInt, hr, Bool.eq_iff_iff, beq_iff_eq, beq_iff_eq]
  exact ⟨fun same => (Int.eq_of_mul_eq_mul_right pos same).symm, fun same => by rw [same]⟩

end Float.Number

/-! ## Equality of keys -/

namespace Value

/-- **A key is a label**: an integer or a text. -/
inductive IsLabel : Value → Prop
  | int (n : Int) : IsLabel (.int n)
  | text (s : String) : IsLabel (.text s)

theorem IsLabel.isSimpleKey {v : Value} (h : v.IsLabel) : v.IsSimpleKey := by
  cases h
  · exact .int _
  · exact .text _

/-- An equality of keys tells labels apart: a label is equal to itself, and no key is equal to
two labels. -/
structure KeyEquality (eq : Value → Value → Bool) : Prop where
  refl {l : Value} : l.IsLabel → eq l l = true
  unique {k l l' : Value} : l.IsLabel → l'.IsLabel → eq k l = true → eq k l' = true → l = l'

theorem KeyEquality.iff {eq : Value → Value → Bool} (h : KeyEquality eq) {l l' : Value}
    (hl : l.IsLabel) (hl' : l'.IsLabel) : eq l l' = true ↔ l = l' := by
  constructor
  · exact fun equal => h.unique hl hl' (h.refl hl) equal
  · rintro rfl
    exact h.refl hl

theorem KeyEquality.eq_false {eq : Value → Value → Bool} (h : KeyEquality eq) {l l' : Value}
    (hl : l.IsLabel) (hl' : l'.IsLabel) (apart : l ≠ l') : eq l l' = false :=
  Bool.eq_false_iff.mpr fun equal => apart ((h.iff hl hl').mp equal)

theorem same_text_iff {k : Value} {s : String} : same k (.text s) = true ↔ k = .text s := by
  cases k <;> simp [same, sameAtom]

/-- What is equal to two integers makes them equal. -/
theorem int_unique {k : Value} {n m : Int} (h : same k (.int n) = true)
    (h' : same k (.int m) = true) : n = m := by
  cases k with
  | bool a =>
    simp only [same, sameAtom, beq_iff_eq] at h h'
    exact h.trans h'.symm
  | int a =>
    simp only [same, sameAtom, beq_iff_eq] at h h'
    exact h.symm.trans h'
  | float x =>
    simp only [same, sameAtom] at h h'
    rw [Float.Number.isInt_eq_beq h, beq_iff_eq] at h'
    exact h'.symm
  | _ => simp [same, sameAtom] at h

/-- **Values are compared** so that labels are told apart. -/
theorem keyEquality_same : KeyEquality same where
  refl hl := (same_iff_of_isSimpleKey hl.isSimpleKey hl.isSimpleKey).mpr rfl
  unique hl hl' h h' := by
    cases hl with
    | int n =>
      cases hl' with
      | int m => rw [int_unique h h']
      | text s =>
        rw [same_text_iff.mp h'] at h
        simp [same, sameAtom] at h
    | text s =>
      rw [same_text_iff.mp h] at h'
      exact (same_iff_of_isSimpleKey (.text s) hl'.isSimpleKey).mp h'

/-! ## What is kept -/

section Kept

variable (eq : Value → Value → Bool)

/-- The keys that are kept: the first ones of equal keys. -/
def keysBy (ks : List Value) : List Value :=
  ks.foldl (fun kept k => if kept.any (eq k) then kept else kept ++ [k]) []

/-- Entries with a value stored for a key: in the place of an equal key, else at the end. -/
def insertBy (key value : Value) : List (Value × Value) → List (Value × Value)
  | [] => [(key, value)]
  | (k, v) :: es => if eq key k then (k, value) :: es else (k, v) :: insertBy key value es

/-- The entries that are kept of pairs: equal keys are merged. -/
def entriesBy (pairs : List (Value × Value)) : List (Value × Value) :=
  pairs.foldl (fun es e => insertBy eq e.1 e.2 es) []

theorem insert_eq_insertBy (k v : Value) (es : List (Value × Value)) :
    insert k v es = insertBy same k v es := by
  induction es with
  | nil => rfl
  | cons e es ih => rw [insert, insertBy, ih]

theorem ofEntries_eq_entriesBy (pairs : List (Value × Value)) :
    ofEntries pairs = entriesBy same pairs := by
  simp only [ofEntries, entriesBy, insert_eq_insertBy]

variable {eq} {ks : List Value} {k : Value}

theorem keysBy_concat (ks : List Value) (k : Value) :
    keysBy eq (ks ++ [k]) =
      if (keysBy eq ks).any (eq k) then keysBy eq ks else keysBy eq ks ++ [k] := by
  rw [keysBy, List.foldl_append]
  rfl

theorem keysBy_subset_append (ks ls : List Value) : keysBy eq ks ⊆ keysBy eq (ks ++ ls) := by
  induction ls using List.reverseRecOn with
  | nil => rw [List.append_nil]; exact List.Subset.refl _
  | append_singleton ls l ih =>
    rw [← List.append_assoc, keysBy_concat]
    split
    · exact ih
    · exact List.Subset.trans ih (List.subset_append_left _ _)

theorem mem_of_mem_keysBy (h : k ∈ keysBy eq ks) : k ∈ ks := by
  induction ks using List.reverseRecOn with
  | nil => cases h
  | append_singleton ks l ih =>
    rw [keysBy_concat] at h
    split at h
    · exact List.mem_append_left _ (ih h)
    · exact (List.mem_append.mp h).elim (fun h => List.mem_append_left _ (ih h))
        (List.mem_append_right _)

/-- What stands somewhere is kept, unless it is equal to something that was kept before. -/
theorem mem_or_equal_of_split (before : List Value) (k : Value) (after : List Value) :
    k ∈ keysBy eq (before ++ k :: after) ∨ ∃ d ∈ keysBy eq before, eq k d = true := by
  by_cases merged : (keysBy eq before).any (eq k) = true
  · exact .inr (by simpa using merged)
  · left
    have kept : k ∈ keysBy eq (before ++ [k]) := by
      rw [keysBy_concat, if_neg merged]
      simp
    have all := keysBy_subset_append (before ++ [k]) after kept
    rwa [List.append_assoc, List.singleton_append] at all

/-- A label is kept as soon as all that is kept are labels. -/
theorem IsLabel.mem_keysBy (h : k.IsLabel) (equality : KeyEquality eq)
    (labels : ∀ d ∈ keysBy eq ks, IsLabel d) (hk : k ∈ ks) : k ∈ keysBy eq ks := by
  obtain ⟨before, after, rfl⟩ := List.append_of_mem hk
  rcases mem_or_equal_of_split before k after with kept | ⟨d, hd, equal⟩
  · exact kept
  · have kept := keysBy_subset_append before (k :: after) hd
    exact (equality.iff h (labels d kept)).mp equal ▸ kept

/-- What is kept is equal to nothing that is kept before it. -/
theorem pairwise_keysBy (ks : List Value) :
    (keysBy eq ks).Pairwise fun d k => eq k d = false := by
  induction ks using List.reverseRecOn with
  | nil => exact List.Pairwise.nil
  | append_singleton ks l ih =>
    rw [keysBy_concat]
    split
    · exact ih
    next fresh =>
    refine List.pairwise_append.mpr ⟨ih, List.pairwise_singleton _ _, fun d hd l' hl' => ?_⟩
    cases List.mem_singleton.mp hl'
    simpa using fun equal => fresh (List.any_eq_true.mpr ⟨d, hd, equal⟩)

theorem nodup_keysBy_of_labels (equality : KeyEquality eq)
    (labels : ∀ d ∈ keysBy eq ks, IsLabel d) : (keysBy eq ks).Nodup := by
  refine List.Pairwise.imp_of_mem (fun {d k} hd _ apart => ?_) (pairwise_keysBy ks)
  rintro rfl
  rw [equality.refl (labels d hd)] at apart
  cases apart

theorem map_fst_insertBy (k v : Value) (es : List (Value × Value)) :
    (insertBy eq k v es).map Prod.fst =
      if (es.map Prod.fst).any (eq k) then es.map Prod.fst else es.map Prod.fst ++ [k] := by
  induction es with
  | nil => rfl
  | cons e es ih =>
    rw [insertBy, List.map_cons, List.any_cons]
    by_cases merges : eq k e.1 = true
    · rw [if_pos merges, merges, Bool.true_or, if_pos rfl, List.map_cons]
    · rw [if_neg merges, Bool.not_eq_true _ |>.mp merges, Bool.false_or, List.map_cons, ih]
      split <;> rfl

theorem entriesBy_concat (pairs : List (Value × Value)) (e : Value × Value) :
    entriesBy eq (pairs ++ [e]) = insertBy eq e.1 e.2 (entriesBy eq pairs) := by
  rw [entriesBy, List.foldl_append]
  rfl

/-- **The keys of a map** are the first ones of equal keys. -/
theorem keys_entriesBy (pairs : List (Value × Value)) :
    (entriesBy eq pairs).map Prod.fst = keysBy eq (pairs.map Prod.fst) := by
  induction pairs using List.reverseRecOn with
  | nil => rfl
  | append_singleton pairs e ih =>
    rw [List.map_append, List.map_singleton, keysBy_concat, entriesBy_concat, map_fst_insertBy, ih]

theorem find?_insertBy (equality : KeyEquality eq) {k' v : Value} {es : List (Value × Value)}
    (hk : k.IsLabel) (labels : ∀ e ∈ insertBy eq k' v es, e.1.IsLabel) :
    ((insertBy eq k' v es).find? fun e => eq k e.1).map Prod.snd =
      if eq k' k then some v else (es.find? fun e => eq k e.1).map Prod.snd := by
  induction es with
  | nil =>
    have hk' := labels (k', v) (List.mem_singleton_self _)
    by_cases equal : k = k'
    · subst equal
      simp [insertBy, equality.refl hk]
    · simp [insertBy, equality.eq_false hk hk' equal, equality.eq_false hk' hk (Ne.symm equal)]
  | cons e es ih =>
    obtain ⟨d, w⟩ := e
    rw [insertBy] at labels ⊢
    by_cases merges : eq k' d = true
    · rw [if_pos merges] at labels ⊢
      have hd := labels (d, v) (List.mem_cons_self ..)
      by_cases equal : k = d
      · subst equal
        simp [equality.refl hk, merges]
      · have other : eq k' k = false :=
          Bool.eq_false_iff.mpr fun h => equal (equality.unique hk hd h merges)
        simp [equality.eq_false hk hd equal, other]
    · rw [if_neg merges] at labels ⊢
      have hd := labels (d, w) (List.mem_cons_self ..)
      rw [List.forall_mem_cons] at labels
      by_cases equal : k = d
      · subst equal
        simp [equality.refl hk, merges]
      · rw [List.find?_cons, List.find?_cons, equality.eq_false hk hd equal]
        exact ih labels.2

/-- **The value of a label** in a map is that of the last pair with an equal key, if the keys that
are kept are labels. -/
theorem find?_entriesBy (equality : KeyEquality eq) (hk : k.IsLabel)
    {pairs : List (Value × Value)} (labels : ∀ d ∈ keysBy eq (pairs.map Prod.fst), IsLabel d) :
    ((entriesBy eq pairs).find? fun e => eq k e.1).map Prod.snd =
      (pairs.reverse.find? fun e => eq e.1 k).map Prod.snd := by
  induction pairs using List.reverseRecOn with
  | nil => rfl
  | append_singleton pairs e ih =>
    have kept : ∀ d ∈ keysBy eq (pairs.map Prod.fst), IsLabel d := fun d hd =>
      labels d (List.map_append ▸ keysBy_subset_append _ _ hd)
    rw [← keys_entriesBy, List.forall_mem_map, entriesBy_concat] at labels
    rw [entriesBy_concat, find?_insertBy equality hk labels, ih kept, List.reverse_append,
      List.reverse_singleton, List.singleton_append, List.find?_cons]
    cases eq e.1 k <;> rfl

end Kept

end Value

end Cose
