import Cose.Proofs.Cbor.Plain
import Cose.Proofs.Except
import Cose.Proofs.Value.Keys

/-!
# Plain data comes back

The keys of a map may be any values that do not change, as long as no two of them are equal. They
are read frozen, where tuples stay tuples and maps stay frozen ones, and they are equal to the same
keys as before; so no two of them are merged when a map is read, and its entries come back one by
one. With that, all plain data comes back, within lists, tuples and maps, up to the distinctions
that CBOR does not make.

## Main definitions

* `Value.DistinctKeys`: the keys of a map
* `Value.Unchanging`: plain data that may be a key
* `Value.ComesBack`: what a value may come back as, mutable or frozen

## Main results

* `same_received`: equal keys stay equal, and unequal ones unequal
* `received_map_of_distinctKeys`: the entries of a map are read back one by one
* `comesBack_received`: all plain data comes back
-/

namespace Cose

namespace Value

/-! ## Distinct keys -/

/-- **The keys of a map**: values that may be keys, no two of them equal. -/
structure DistinctKeys (ks : List Value) : Prop where
  hashable : ∀ k ∈ ks, k.isHashable = true
  pairwise : ks.Pairwise fun k k' => same k k' = false ∧ same k' k = false

variable {ks ks' : List Value}

theorem DistinctKeys.perm (h : DistinctKeys ks) (perm : ks.Perm ks') : DistinctKeys ks' :=
  ⟨fun k hk => h.hashable k (perm.symm.subset hk),
    perm.pairwise h.pairwise fun apart => ⟨apart.2, apart.1⟩⟩

theorem SimpleKeys.distinctKeys (h : SimpleKeys ks) : DistinctKeys ks := by
  refine ⟨fun k hk => ?_, ?_⟩
  · cases h.2 k hk <;> rfl
  · refine h.1.imp_of_mem fun {k k'} hk hk' apart => ?_
    rw [← Bool.not_eq_true, ← Bool.not_eq_true, same_iff_of_isSimpleKey (h.2 k hk) (h.2 k' hk'),
      same_iff_of_isSimpleKey (h.2 k' hk') (h.2 k hk)]
    exact ⟨apart, Ne.symm apart⟩

/-! ## Equality of containers -/

theorem areHashable_iff {xs : List Value} :
    areHashable xs = true ↔ ∀ x ∈ xs, x.isHashable = true := by
  induction xs with
  | nil => simp [areHashable]
  | cons x xs ih => simp [areHashable, ih]

theorem entriesAreHashable_iff {es : List (Value × Value)} :
    entriesAreHashable es = true ↔ ∀ e ∈ es, e.1.isHashable = true ∧ e.2.isHashable = true := by
  induction es with
  | nil => simp [entriesAreHashable]
  | cons e es ih => simp [entriesAreHashable, ih, and_assoc]

/-- Sequences are equal element by element. -/
theorem sameItems_map {f : Value → Value} {xs ys : List Value}
    (h : ∀ x ∈ xs, ∀ y ∈ ys, same (f x) (f y) = same x y) :
    sameItems (xs.map f) (ys.map f) = sameItems xs ys := by
  induction xs generalizing ys with
  | nil => cases ys <;> simp [sameItems]
  | cons x xs ih =>
    cases ys with
    | nil => simp [sameItems]
    | cons y ys =>
      have first := h x (List.mem_cons_self ..) y (List.mem_cons_self ..)
      have rest := @ih ys fun x hx y hy =>
        h x (List.mem_cons_of_mem _ hx) y (List.mem_cons_of_mem _ hy)
      rw [List.map_cons, List.map_cons, sameItems, sameItems, first, rest]

theorem hasEntries_eq (ys xs : List (Value × Value)) :
    hasEntries ys xs = xs.all fun x => ys.any fun y => same x.1 y.1 && same x.2 y.2 := by
  induction xs with
  | nil => rw [hasEntries, List.all_nil]
  | cons x xs ih => rw [hasEntries, ih, List.all_cons]

/-- Maps are equal whatever the order of their entries. -/
theorem hasEntries_perm {ys ys' xs xs' : List (Value × Value)} (hy : ys.Perm ys')
    (hx : xs.Perm xs') : hasEntries ys xs = hasEntries ys' xs' := by
  rw [hasEntries_eq, hasEntries_eq, hx.all_eq]
  simp only [hy.any_eq]

/-- Maps are equal entry by entry. -/
theorem hasEntries_map {f : Value × Value → Value × Value} {ys xs : List (Value × Value)}
    (h : ∀ x ∈ xs, ∀ y ∈ ys,
      same (f x).1 (f y).1 = same x.1 y.1 ∧ same (f x).2 (f y).2 = same x.2 y.2) :
    hasEntries (ys.map f) (xs.map f) = hasEntries ys xs := by
  induction xs with
  | nil => rw [List.map_nil, hasEntries, hasEntries]
  | cons x xs ih =>
    rw [List.forall_mem_cons] at h
    have first : ys.any (fun y => same (f x).1 (f y).1 && same (f x).2 (f y).2) =
        ys.any fun y => same x.1 y.1 && same x.2 y.2 := by
      rw [Bool.eq_iff_iff, List.any_eq_true, List.any_eq_true]
      refine exists_congr fun y => and_congr_right fun hy => ?_
      rw [(h.1 y hy).1, (h.1 y hy).2]
    rw [List.map_cons, hasEntries, hasEntries, List.any_map, ih h.2]
    exact congrArg (· && _) first

/-! ## Plain data that does not change -/

/-- The values that CBOR has items of its own for, and that have no parts. -/
inductive IsAtom : Value → Prop
  | null : IsAtom .null
  | bool (b : Bool) : IsAtom (.bool b)
  | int (i : Int) : IsAtom (.int i)
  | text (s : String) : IsAtom (.text s)
  | bytes (b : Bytes) : IsAtom (.bytes b)
  | float (bits : UInt64) : IsAtom (.float bits)

/-- Plain data that may be a key, within a number of levels: atoms, and tuples and frozen maps
of such data. -/
inductive Unchanging : Nat → Value → Prop
  | atom (n : Nat) {v : Value} (h : v.IsAtom) : Unchanging (n + 1) v
  | tuple {n : Nat} {xs : List Value} (items : ∀ x ∈ xs, Unchanging n x) :
      Unchanging (n + 1) (.tuple xs)
  | frozenMap {n : Nat} {es : List (Value × Value)} (admitted : DistinctKeys (es.map Prod.fst))
      (labels : ∀ e ∈ es, Unchanging n e.1) (values : ∀ e ∈ es, Unchanging n e.2) :
      Unchanging (n + 1) (.frozenMap es)

theorem Plain.unchanging {n : Nat} {v : Value} (h : v.Plain DistinctKeys n)
    (hashable : v.isHashable = true) : v.Unchanging n := by
  induction h with
  | null n => exact .atom n .null
  | bool n b => exact .atom n (.bool b)
  | int => exact .atom _ (.int _)
  | bigInt n i => exact .atom (n + 1) (.int i)
  | text n s => exact .atom n (.text s)
  | bytes n b => exact .atom n (.bytes b)
  | float n bits => exact .atom n (.float bits)
  | buffer | list | map => simp [isHashable] at hashable
  | tuple _ ih =>
    rw [isHashable, areHashable_iff] at hashable
    exact .tuple fun x hx => ih x hx (hashable x hx)
  | frozenMap admitted _ _ ihk ihv =>
    rw [isHashable, entriesAreHashable_iff] at hashable
    exact .frozenMap admitted (fun e he => ihk e he (hashable e he).1)
      fun e he => ihv e he (hashable e he).2

end Value

/-- What a value may come back as, mutable or frozen. Nothing else is lost than what CBOR does
not tell apart: tuples from lists where both are mutable, buffers from byte strings, the order of
the entries of a map, and the patterns that are not a number. -/
inductive Value.ComesBack : Bool → Value → Value → Prop
  | refl (frozen : Bool) (v : Value) : ComesBack frozen v v
  | buffer (b : Bytes) : ComesBack false (.buffer b) (.bytes b)
  | notANumber (frozen : Bool) {bits bits' : UInt64}
      (h : Float.Format.double.decode bits.toNat = .notANumber)
      (h' : Float.Format.double.decode bits'.toNat = .notANumber) :
      ComesBack frozen (.float bits) (.float bits')
  | list {xs ys : List Value} (items : List.Forall₂ (ComesBack false) xs ys) :
      ComesBack false (.list xs) (.list ys)
  | tuple {xs ys : List Value} (items : List.Forall₂ (ComesBack false) xs ys) :
      ComesBack false (.tuple xs) (.list ys)
  | frozenTuple {xs ys : List Value} (items : List.Forall₂ (ComesBack true) xs ys) :
      ComesBack true (.tuple xs) (.tuple ys)
  | map {es fs gs : List (Value × Value)}
      (labels : List.Forall₂ (ComesBack true) (es.map Prod.fst) (fs.map Prod.fst))
      (values : List.Forall₂ (ComesBack false) (es.map Prod.snd) (fs.map Prod.snd))
      (order : fs.Perm gs) : ComesBack false (.map es) (.map gs)
  | thawedMap {es fs gs : List (Value × Value)}
      (labels : List.Forall₂ (ComesBack true) (es.map Prod.fst) (fs.map Prod.fst))
      (values : List.Forall₂ (ComesBack false) (es.map Prod.snd) (fs.map Prod.snd))
      (order : fs.Perm gs) : ComesBack false (.frozenMap es) (.map gs)
  | frozenMap {es fs gs : List (Value × Value)}
      (labels : List.Forall₂ (ComesBack true) (es.map Prod.fst) (fs.map Prod.fst))
      (values : List.Forall₂ (ComesBack true) (es.map Prod.snd) (fs.map Prod.snd))
      (order : fs.Perm gs) : ComesBack true (.frozenMap es) (.frozenMap gs)

namespace Cbor

open Value (DistinctKeys IsAtom Unchanging ComesBack same)

variable {form : Form} {n : Nat}

/-! ## Keys that are read -/

/-- Reading a float back keeps the number that it stands for. -/
theorem decode_receivedFloat (bits : UInt64) :
    Float.Format.double.decode (receivedFloat bits).toNat =
      Float.Format.double.decode bits.toNat := by
  rw [receivedFloat]
  split
  · next nan => rw [nan]; rfl
  · rfl

theorem same_received_atom {v w : Value} (hv : v.IsAtom) (hw : w.IsAtom) :
    same (received form v true) (received form w true) = same v w := by
  cases hv <;> cases hw <;> simp only [received, same, Value.sameAtom, decode_receivedFloat]

/-- No two entries of a map are merged if their keys stay unequal. -/
theorem ofEntries_receivedEntry {frozen : Bool} {es : List (Value × Value)}
    (keys : DistinctKeys (es.map Prod.fst))
    (kept : ∀ d ∈ es, ∀ e ∈ es,
      same (received form d.1 true) (received form e.1 true) = same d.1 e.1) :
    Value.ofEntries ((ordered form es).map (receivedEntry form frozen)) =
      (ordered form es).map (receivedEntry form frozen) := by
  have perm := ordered_perm form es
  apply Value.ofEntries_of_pairwise
  rw [List.map_map, List.pairwise_map]
  have apart := (keys.perm (perm.symm.map Prod.fst)).pairwise
  rw [List.pairwise_map] at apart
  refine apart.imp_of_mem fun {d e} hd he apart => ?_
  show same (received form e.1 true) (received form d.1 true) = false
  rw [kept e (perm.subset he) d (perm.subset hd)]
  exact apart.2

/-- **Keys stay equal or unequal** when they are read back. -/
theorem same_received {v w : Value} (hv : v.Unchanging n) (hw : w.Unchanging n) :
    same (received form v true) (received form w true) = same v w := by
  -- Two keys of one map are compared as well, so the induction is on the levels of both values.
  induction n generalizing v w with
  | zero => cases hv
  | succ n ih =>
    cases hv with
    | atom _ hv =>
      cases hw with
      | atom _ hw => exact same_received_atom hv hw
      | tuple => cases hv <;> simp [received, same, Value.sameAtom]
      | frozenMap => cases hv <;> simp [received, same, Value.sameAtom]
    | @tuple _ xs items =>
      cases hw with
      | atom _ hw => cases hw <;> simp [received, same, Value.sameAtom]
      | @tuple _ ys items' =>
        rw [received_tuple, received_tuple, received_list, received_list, if_pos rfl, if_pos rfl,
          same, same]
        exact Value.sameItems_map fun x hx y hy => ih (items x hx) (items' y hy)
      | frozenMap => simp [received, same, Value.sameAtom]
    | @frozenMap _ xs admitted labels values =>
      cases hw with
      | atom _ hw => cases hw <;> simp [received, same, Value.sameAtom]
      | tuple => simp [received, same, Value.sameAtom]
      | @frozenMap _ ys admitted' labels' values' =>
        have own := @ofEntries_receivedEntry form true xs admitted fun d hd e he =>
          ih (labels d hd) (labels e he)
        have other := @ofEntries_receivedEntry form true ys admitted' fun d hd e he =>
          ih (labels' d hd) (labels' e he)
        have sorted := ordered_perm form xs
        have sorted' := ordered_perm form ys
        have entries : Value.hasEntries ((ordered form ys).map (receivedEntry form true))
            ((ordered form xs).map (receivedEntry form true)) = Value.hasEntries ys xs := by
          rw [Value.hasEntries_map, Value.hasEntries_perm sorted' sorted]
          intro x hx y hy
          have hx := sorted.subset hx
          have hy := sorted'.subset hy
          exact ⟨ih (labels x hx) (labels' y hy), ih (values x hx) (values' y hy)⟩
        rw [received_frozenMap, received_frozenMap, received_map, received_map, if_pos rfl,
          if_pos rfl, own, other, same, same, List.length_map, List.length_map, entries,
          sorted.length_eq, sorted'.length_eq]

/-- **With distinct keys the entries of a map are read back one by one.** -/
theorem received_map_of_distinctKeys {es : List (Value × Value)} {frozen : Bool}
    (keys : DistinctKeys (es.map Prod.fst))
    (labels : ∀ e ∈ es, e.1.Plain DistinctKeys n) :
    received form (.map es) frozen =
      if frozen then .frozenMap ((ordered form es).map (receivedEntry form true))
      else .map ((ordered form es).map (receivedEntry form false)) := by
  have unchanging : ∀ e ∈ es, e.1.Unchanging n := fun e he =>
    (labels e he).unchanging (keys.hashable e.1 (List.mem_map_of_mem he))
  have kept : ∀ d ∈ es, ∀ e ∈ es,
      same (received form d.1 true) (received form e.1 true) = same d.1 e.1 :=
    fun d hd e he => same_received (unchanging d hd) (unchanging e he)
  rw [received_map, ofEntries_receivedEntry keys kept]
  cases frozen <;> rfl

/-! ## All plain data -/

section Parts

variable {frozen : Bool}

/-- The step for the items of an array. -/
theorem forall₂_comesBack {xs : List Value}
    (h : ∀ x ∈ xs, ComesBack frozen x (received form x frozen)) :
    List.Forall₂ (ComesBack frozen) xs (xs.map fun x => received form x frozen) := by
  rw [List.forall₂_map_right_iff, List.forall₂_same]
  exact h

/-- The step for the keys of a map. -/
theorem forall₂_comesBack_fst {es : List (Value × Value)}
    (h : ∀ e ∈ es, ComesBack true e.1 (received form e.1 true)) :
    List.Forall₂ (ComesBack true) (es.map Prod.fst)
      ((es.map (receivedEntry form frozen)).map Prod.fst) := by
  rw [List.map_map]
  exact Forall₂.map_of_forall h

/-- The step for the values of a map. -/
theorem forall₂_comesBack_snd {es : List (Value × Value)}
    (h : ∀ e ∈ es, ComesBack frozen e.2 (received form e.2 frozen)) :
    List.Forall₂ (ComesBack frozen) (es.map Prod.snd)
      ((es.map (receivedEntry form frozen)).map Prod.snd) := by
  rw [List.map_map]
  exact Forall₂.map_of_forall h

end Parts

theorem comesBack_receivedFloat (frozen : Bool) (bits : UInt64) :
    ComesBack frozen (.float bits) (.float (receivedFloat bits)) := by
  rw [receivedFloat]
  split
  · next nan => exact .notANumber frozen nan rfl
  · exact .refl _ _

/-- **All plain data comes back**; what is read as a key, or within one, may be one. -/
theorem comesBack_received {v : Value} (plain : v.Plain DistinctKeys n) (frozen : Bool)
    (hashable : frozen = true → v.isHashable = true) :
    ComesBack frozen v (received form v frozen) := by
  induction plain generalizing frozen with
  | null | bool | int | bigInt | text | bytes => exact .refl _ _
  | buffer n b =>
    cases frozen with
    | false => exact .buffer b
    | true => simp [Value.isHashable] at hashable
  | float n bits => exact comesBack_receivedFloat frozen bits
  | list _ ih =>
    cases frozen with
    | false =>
      rw [received_list, if_neg Bool.false_ne_true]
      exact .list (forall₂_comesBack fun x hx => ih x hx false nofun)
    | true => simp [Value.isHashable] at hashable
  | tuple _ ih =>
    rw [received_tuple, received_list]
    cases frozen with
    | false => exact .tuple (forall₂_comesBack fun x hx => ih x hx false nofun)
    | true =>
      have items := Value.areHashable_iff.mp (by simpa [Value.isHashable] using hashable)
      exact .frozenTuple (forall₂_comesBack fun x hx => ih x hx true fun _ => items x hx)
  | @map _ es keys labels _ ihk ihv =>
    have fst := fun e he => ihk e he true fun _ => keys.hashable e.1 (List.mem_map_of_mem he)
    cases frozen with
    | false =>
      rw [received_map_of_distinctKeys keys labels]
      exact .map (forall₂_comesBack_fst fst)
        (forall₂_comesBack_snd fun e he => ihv e he false nofun)
        ((ordered_perm form es).symm.map _)
    | true => simp [Value.isHashable] at hashable
  | @frozenMap _ es keys labels _ ihk ihv =>
    have fst := fun e he => ihk e he true fun _ => keys.hashable e.1 (List.mem_map_of_mem he)
    rw [received_frozenMap, received_map_of_distinctKeys keys labels]
    cases frozen with
    | false =>
      exact .thawedMap (forall₂_comesBack_fst fst)
        (forall₂_comesBack_snd fun e he => ihv e he false nofun)
        ((ordered_perm form es).symm.map _)
    | true =>
      have entries := Value.entriesAreHashable_iff.mp (by simpa [Value.isHashable] using hashable)
      exact .frozenMap (forall₂_comesBack_fst fst)
        (forall₂_comesBack_snd fun e he => ihv e he true fun _ => (entries e he).2)
        ((ordered_perm form es).symm.map _)

end Cbor

end Cose
