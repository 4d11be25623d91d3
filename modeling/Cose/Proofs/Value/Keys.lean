import Cose.Value.Equality
import Mathlib.Data.List.Nodup

/-!
# Maps with simple keys

A map is built from its entries as they are if no two of its keys are equal. Integers, texts and
byte strings are compared by their type and content alone, so distinct ones are such keys.

## Main definitions

* `Value.IsSimpleKey`: integers, texts and byte strings
* `Value.SimpleKeys`: distinct simple keys

## Main results

* `Value.ofEntries_of_pairwise`, `Value.ofEntries_of_simpleKeys`: entries with unequal keys, and
  those with distinct simple ones, are a map already
* `Value.forall_ofEntries`: the keys and values of a map that is built from pairs
-/

namespace Cose.Value

/-- The keys that are compared by their type and content alone. -/
inductive IsSimpleKey : Value → Prop
  | int (i : Int) : IsSimpleKey (.int i)
  | text (s : String) : IsSimpleKey (.text s)
  | bytes (b : Bytes) : IsSimpleKey (.bytes b)

/-- The keys of a map that are all simple and distinct. -/
def SimpleKeys (ks : List Value) : Prop :=
  ks.Nodup ∧ ∀ k ∈ ks, k.IsSimpleKey

theorem same_iff_of_isSimpleKey {k k' : Value} (h : k.IsSimpleKey) (h' : k'.IsSimpleKey) :
    same k k' = true ↔ k = k' := by
  cases h <;> cases h' <;> simp [same, sameAtom]

theorem insert_of_fresh {k v : Value} {es : List (Value × Value)}
    (h : ∀ e ∈ es, same k e.1 = false) : insert k v es = es ++ [(k, v)] := by
  induction es with
  | nil => rfl
  | cons e es ih =>
    rw [List.forall_mem_cons] at h
    rw [insert, if_neg (by simp [h.1]), ih h.2, List.cons_append]

theorem foldl_insert_of_pairwise {es fs : List (Value × Value)}
    (h : ((es ++ fs).map Prod.fst).Pairwise fun k k' => same k' k = false) :
    fs.foldl (fun es e => insert e.1 e.2 es) es = es ++ fs := by
  induction fs generalizing es with
  | nil => rw [List.foldl_nil, List.append_nil]
  | cons e fs ih =>
    have fresh : ∀ d ∈ es, same e.1 d.1 = false := by
      intro d hd
      rw [List.map_append, List.pairwise_append] at h
      exact h.2.2 d.1 (List.mem_map_of_mem hd) e.1 (List.mem_cons_self ..)
    rw [List.foldl_cons, insert_of_fresh fresh, ih (by simpa using h), List.append_assoc,
      List.singleton_append]

/-- **A map whose keys are all unequal** is built from its entries as they are. -/
theorem ofEntries_of_pairwise {es : List (Value × Value)}
    (h : (es.map Prod.fst).Pairwise fun k k' => same k' k = false) : ofEntries es = es :=
  @foldl_insert_of_pairwise [] es h

theorem SimpleKeys.pairwise {ks : List Value} (h : SimpleKeys ks) :
    ks.Pairwise fun k k' => same k' k = false := by
  refine h.1.imp_of_mem fun {k k'} hk hk' apart => ?_
  rw [← Bool.not_eq_true, same_iff_of_isSimpleKey (h.2 k' hk') (h.2 k hk)]
  exact Ne.symm apart

/-- A map with distinct simple keys is built from its entries as they are. -/
theorem ofEntries_of_simpleKeys {es : List (Value × Value)} (h : SimpleKeys (es.map Prod.fst)) :
    ofEntries es = es :=
  ofEntries_of_pairwise h.pairwise

theorem SimpleKeys.perm {ks ks' : List Value} (h : SimpleKeys ks) (p : ks.Perm ks') :
    SimpleKeys ks' :=
  ⟨p.nodup h.1, fun k hk => h.2 k (p.symm.subset hk)⟩

theorem mem_insert {k v : Value} {es : List (Value × Value)} {e : Value × Value}
    (h : e ∈ insert k v es) :
    e ∈ es ∨ e.2 = v ∧ (e.1 = k ∨ ∃ d ∈ es, e.1 = d.1) := by
  induction es with
  | nil =>
    rw [insert, List.mem_singleton] at h
    exact .inr (by simp [h])
  | cons d es ih =>
    rw [insert] at h
    split at h
    · rcases List.mem_cons.mp h with rfl | h
      · exact .inr ⟨rfl, .inr ⟨d, List.mem_cons_self .., rfl⟩⟩
      · exact .inl (List.mem_cons_of_mem d h)
    · rcases List.mem_cons.mp h with rfl | h
      · exact .inl (List.mem_cons_self ..)
      · rcases ih h with old | ⟨value, key | ⟨d', hd', key⟩⟩
        · exact .inl (List.mem_cons_of_mem d old)
        · exact .inr ⟨value, .inl key⟩
        · exact .inr ⟨value, .inr ⟨d', List.mem_cons_of_mem d hd', key⟩⟩

/-- The keys and values of a map are among those that it was built from. -/
theorem forall_ofEntries {P Q : Value → Prop} {pairs : List (Value × Value)}
    (hk : ∀ e ∈ pairs, P e.1) (hv : ∀ e ∈ pairs, Q e.2) :
    ∀ e ∈ ofEntries pairs, P e.1 ∧ Q e.2 := by
  have run : ∀ (es : List (Value × Value)), (∀ e ∈ es, P e.1 ∧ Q e.2) →
      ∀ e ∈ pairs.foldl (fun es e => insert e.1 e.2 es) es, P e.1 ∧ Q e.2 := by
    induction pairs with
    | nil => exact fun es h => h
    | cons p pairs ih =>
      rw [List.forall_mem_cons] at hk hv
      intro es h
      rw [List.foldl_cons]
      refine ih hk.2 hv.2 _ fun e he => ?_
      rcases mem_insert he with old | ⟨value, key | ⟨d, hd, key⟩⟩
      · exact h e old
      · exact ⟨key ▸ hk.1, value ▸ hv.1⟩
      · exact ⟨key ▸ (h d hd).1, value ▸ hv.1⟩
  exact run [] fun e he => absurd he List.not_mem_nil

end Cose.Value
