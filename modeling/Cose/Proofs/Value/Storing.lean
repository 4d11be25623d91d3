import Cose.Proofs.Value.Merging

/-!
# Storing entries under labels

Labels that are equal are the same, so an entry is stored in the place of the one with its label, or
at the end. Storing in order what a map keeps of some pairs comes to storing the pairs themselves:
the places are those of the first pairs of each label, and the values those of the last. The pairs
of some labels can be looked at on their own.

## Main definitions

* `Value.merge`: storing entries in order

## Main results

* `Value.merge_ofEntries`: storing what a map keeps of some pairs
* `Value.filter_ofEntries`: the entries of some labels
-/

namespace Cose

namespace Value

variable {k k' v w : Value} {es ds : List (Value × Value)}

/-! ## One entry -/

theorem IsLabel.same_self (hk : k.IsLabel) : same k k = true :=
  keyEquality_same.refl hk

theorem IsLabel.same_eq_false (hk : k.IsLabel) (hk' : k'.IsLabel) (apart : k ≠ k') :
    same k k' = false :=
  keyEquality_same.eq_false hk hk' apart

theorem insert_cons (k v : Value) (e : Value × Value) (es : List (Value × Value)) :
    insert k v (e :: es) = if same k e.1 then (e.1, v) :: es else e :: insert k v es :=
  rfl

theorem insert_cons_self (hk : k.IsLabel) (v w : Value) (es : List (Value × Value)) :
    insert k v ((k, w) :: es) = (k, v) :: es := by
  rw [insert_cons, if_pos hk.same_self]

theorem insert_cons_of_ne (hk : k.IsLabel) (hk' : k'.IsLabel) (apart : k ≠ k') (v w : Value)
    (es : List (Value × Value)) : insert k v ((k', w) :: es) = (k', w) :: insert k v es := by
  rw [insert_cons, hk.same_eq_false hk' apart, if_neg Bool.false_ne_true]

theorem mem_insert_of_isLabel {e : Value × Value} (hk : k.IsLabel) (labels : ∀ e ∈ es, e.1.IsLabel)
    (mem : e ∈ insert k v es) : e = (k, v) ∨ e ∈ es := by
  induction es with
  | nil => exact .inl (List.mem_singleton.mp mem)
  | cons d es ih =>
    obtain ⟨k', w⟩ := d
    rw [List.forall_mem_cons] at labels
    by_cases same : k = k'
    · subst same
      rw [insert_cons_self hk] at mem
      exact (List.mem_cons.mp mem).imp_right (List.mem_cons_of_mem _)
    · rw [insert_cons_of_ne hk labels.1 same] at mem
      rcases List.mem_cons.mp mem with rfl | mem
      · exact .inr (List.mem_cons_self ..)
      · exact (ih labels.2 mem).imp_right (List.mem_cons_of_mem _)

theorem isLabel_insert (hk : k.IsLabel) (labels : ∀ e ∈ es, e.1.IsLabel) :
    ∀ e ∈ insert k v es, e.1.IsLabel := by
  intro e mem
  rcases mem_insert_of_isLabel hk labels mem with rfl | mem
  · exact hk
  · exact labels e mem

theorem mem_map_fst_insert (hk : k.IsLabel) (labels : ∀ e ∈ es, e.1.IsLabel) (v : Value) :
    k' ∈ (insert k v es).map Prod.fst ↔ k' = k ∨ k' ∈ es.map Prod.fst := by
  rw [insert_eq_insertBy, map_fst_insertBy]
  split
  next held =>
    obtain ⟨d, hd, same⟩ := List.any_eq_true.mp held
    obtain ⟨e, he, rfl⟩ := List.mem_map.mp hd
    rw [(keyEquality_same.iff hk (labels e he)).mp same]
    exact ⟨.inr, fun h => h.elim (· ▸ List.mem_map_of_mem he) id⟩
  · rw [List.mem_append, List.mem_singleton, or_comm]

/-- What is stored for a key is replaced by what is stored for it later. -/
theorem insert_insert_self (hk : k.IsLabel) (labels : ∀ e ∈ es, e.1.IsLabel) :
    insert k v (insert k w es) = insert k v es := by
  induction es with
  | nil => exact insert_cons_self hk v w []
  | cons e es ih =>
    obtain ⟨k', u⟩ := e
    rw [List.forall_mem_cons] at labels
    by_cases same : k = k'
    · subst same
      simp only [insert_cons_self hk]
    · simp only [insert_cons_of_ne hk labels.1 same, ih labels.2]

/-- A key that is there already may be stored before or after another one. -/
theorem insert_comm (hk : k.IsLabel) (hk' : k'.IsLabel) (labels : ∀ e ∈ es, e.1.IsLabel)
    (apart : k ≠ k') (there : k ∈ es.map Prod.fst) :
    insert k v (insert k' w es) = insert k' w (insert k v es) := by
  induction es with
  | nil => cases there
  | cons e es ih =>
    obtain ⟨l, u⟩ := e
    rw [List.forall_mem_cons] at labels
    by_cases first : k = l
    · subst first
      simp only [insert_cons_self hk, insert_cons_of_ne hk' hk (Ne.symm apart)]
    have there := (List.mem_cons.mp there).resolve_left first
    by_cases second : k' = l
    · subst second
      simp only [insert_cons_self hk', insert_cons_of_ne hk hk' apart]
    · simp only [insert_cons_of_ne hk labels.1 first, insert_cons_of_ne hk' labels.1 second,
        ih labels.2 there]

/-! ## Entries in order -/

/-- The entries `ds` with the entries `es` stored in order. -/
def merge (ds es : List (Value × Value)) : List (Value × Value) :=
  es.foldl (fun ds e => insert e.1 e.2 ds) ds

theorem ofEntries_append (ds es : List (Value × Value)) :
    ofEntries (ds ++ es) = merge (ofEntries ds) es :=
  List.foldl_append

theorem ofEntries_concat (es : List (Value × Value)) (e : Value × Value) :
    ofEntries (es ++ [e]) = insert e.1 e.2 (ofEntries es) :=
  List.foldl_append

/-- A map of labels keeps some of the pairs that it is made from. -/
theorem mem_of_mem_ofEntries (labels : ∀ e ∈ es, e.1.IsLabel) : ofEntries es ⊆ es := by
  induction es using List.reverseRecOn with
  | nil => exact List.Subset.refl _
  | append_singleton es e ih =>
    rw [List.forall_mem_append, List.forall_mem_singleton] at labels
    intro d mem
    rw [ofEntries_concat] at mem
    have kept : ∀ e ∈ ofEntries es, e.1.IsLabel := fun e he => labels.1 e (ih labels.1 he)
    rcases mem_insert_of_isLabel labels.2 kept mem with rfl | mem
    · exact List.mem_append_right _ (List.mem_singleton_self _)
    · exact List.mem_append_left _ (ih labels.1 mem)

theorem isLabel_ofEntries (labels : ∀ e ∈ es, e.1.IsLabel) : ∀ e ∈ ofEntries es, e.1.IsLabel :=
  fun e he => labels e (mem_of_mem_ofEntries labels he)

theorem nodup_ofEntries (labels : ∀ e ∈ es, e.1.IsLabel) : ((ofEntries es).map Prod.fst).Nodup := by
  rw [ofEntries_eq_entriesBy, keys_entriesBy]
  refine nodup_keysBy_of_labels keyEquality_same fun k hk => ?_
  obtain ⟨e, he, rfl⟩ := List.mem_map.mp (mem_of_mem_keysBy hk)
  exact labels e he

/-- A key that is there may be stored before or after other ones. -/
theorem insert_merge (hk : k.IsLabel) (labels : ∀ e ∈ es, e.1.IsLabel)
    (labels' : ∀ e ∈ ds, e.1.IsLabel) (fresh : k ∉ es.map Prod.fst) (there : k ∈ ds.map Prod.fst) :
    insert k v (merge ds es) = merge (insert k v ds) es := by
  induction es generalizing ds with
  | nil => rfl
  | cons e es ih =>
    rw [List.forall_mem_cons] at labels
    rw [List.map_cons, List.mem_cons, not_or] at fresh
    have step := @ih (insert e.1 e.2 ds) labels.2 (isLabel_insert labels.1 labels') fresh.2
      ((mem_map_fst_insert labels.1 labels' e.2).mpr (.inr there))
    rw [merge, List.foldl_cons, ← merge, step, insert_comm hk labels.1 labels' fresh.1 there]
    rfl

/-- Storing in what is stored later is storing afterwards. -/
theorem merge_insert (hk : k.IsLabel) (labels : ∀ e ∈ es, e.1.IsLabel)
    (labels' : ∀ e ∈ ds, e.1.IsLabel) (nodup : (es.map Prod.fst).Nodup) :
    merge ds (insert k v es) = insert k v (merge ds es) := by
  induction es generalizing ds with
  | nil => rfl
  | cons e es ih =>
    obtain ⟨k', u⟩ := e
    rw [List.forall_mem_cons] at labels
    obtain ⟨fresh, nodup⟩ := List.nodup_cons.mp nodup
    have stored := isLabel_insert (v := u) labels.1 labels'
    by_cases same : k = k'
    · subst same
      have there : k ∈ (insert k u ds).map Prod.fst :=
        (mem_map_fst_insert hk labels' u).mpr (.inl rfl)
      rw [insert_cons_self hk]
      show merge (insert k v ds) es = insert k v (merge (insert k u ds) es)
      rw [insert_merge hk labels.2 stored fresh there, insert_insert_self hk labels']
    · rw [insert_cons_of_ne hk labels.1 same]
      exact ih labels.2 stored nodup

/-- **Storing what a map keeps** of some pairs is storing the pairs one by one. -/
theorem merge_ofEntries (labels : ∀ e ∈ es, e.1.IsLabel) (labels' : ∀ e ∈ ds, e.1.IsLabel) :
    merge ds (ofEntries es) = merge ds es := by
  induction es using List.reverseRecOn with
  | nil => rfl
  | append_singleton es e ih =>
    rw [List.forall_mem_append, List.forall_mem_singleton] at labels
    rw [ofEntries_concat, merge_insert labels.2 (isLabel_ofEntries labels.1) labels'
      (nodup_ofEntries labels.1), ih labels.1, merge, merge, List.foldl_append]
    rfl

/-! ## Some of the keys -/

variable {q : Value → Bool}

theorem filter_insert (hk : k.IsLabel) (labels : ∀ e ∈ es, e.1.IsLabel) :
    (insert k v es).filter (fun e => q e.1) =
      if q k then insert k v (es.filter fun e => q e.1) else es.filter fun e => q e.1 := by
  induction es with
  | nil => cases held : q k <;> simp [insert, held]
  | cons e es ih =>
    obtain ⟨k', u⟩ := e
    rw [List.forall_mem_cons] at labels
    by_cases same : k = k'
    · subst same
      rw [insert_cons_self hk, List.filter_cons, List.filter_cons]
      split
      · rw [insert_cons_self hk]
      · rfl
    · rw [insert_cons_of_ne hk labels.1 same, List.filter_cons, List.filter_cons, ih labels.2]
      split <;> split
      · rw [insert_cons_of_ne hk labels.1 same]
      · rfl
      · rfl
      · rfl

/-- **A map of some of the keys** is made from the pairs that have these keys. -/
theorem filter_ofEntries (labels : ∀ e ∈ es, e.1.IsLabel) :
    (ofEntries es).filter (fun e => q e.1) = ofEntries (es.filter fun e => q e.1) := by
  induction es using List.reverseRecOn with
  | nil => rfl
  | append_singleton es e ih =>
    rw [List.forall_mem_append, List.forall_mem_singleton] at labels
    rw [ofEntries_concat, filter_insert labels.2 (isLabel_ofEntries labels.1), ih labels.1,
      List.filter_append]
    cases held : q e.1 with
    | true =>
      rw [if_pos rfl, List.filter_singleton, held, cond_true, ofEntries_concat]
    | false =>
      rw [if_neg Bool.false_ne_true, List.filter_singleton, held, cond_false, List.append_nil]

end Value

end Cose
