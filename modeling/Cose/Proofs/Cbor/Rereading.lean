import Cose.Proofs.Cbor.Given
import Cose.Proofs.Except

/-!
# Reading and writing again

Plain data whose maps have distinct integers, texts and byte strings as keys comes back as itself
up to what CBOR does not tell apart: tuples are read as lists, buffers as byte strings, and what is
not a number has one pattern; in the canonical form the entries of a map come back sorted. So what
is read back is written as before, and what a reader gives is read back as it is.

## Main definitions

* `Value.ReadAs`: a value as what stands for another one in CBOR
* `Faithful`: plain data that is read is read back as it is
* `Nests`: the levels that the parts of an item have left

## Main results

* `readAs_received`: what is read back stands for what was written
* `encode_received`: what is read back is written as before
* `faithful`, `Gives.nests`: every reader is faithful, and its items are nested no deeper than it
  goes
-/

namespace Cose

/-- **What stands for a value** in CBOR: lists for tuples, byte strings for buffers, maps for frozen
ones with their entries in any order, and any pattern that is not a number for another one. -/
inductive Value.ReadAs : Value → Value → Prop
  | refl (v : Value) : ReadAs v v
  | buffer (b : Bytes) : ReadAs (.buffer b) (.bytes b)
  | notANumber {bits bits' : UInt64}
      (h : Float.Format.double.decode bits.toNat = .notANumber)
      (h' : Float.Format.double.decode bits'.toNat = .notANumber) :
      ReadAs (.float bits) (.float bits')
  | list {xs ys : List Value} (items : List.Forall₂ ReadAs xs ys) : ReadAs (.list xs) (.list ys)
  | tuple {xs ys : List Value} (items : List.Forall₂ ReadAs xs ys) : ReadAs (.tuple xs) (.list ys)
  | map {es fs gs : List (Value × Value)} (labels : es.map Prod.fst = fs.map Prod.fst)
      (values : List.Forall₂ ReadAs (es.map Prod.snd) (fs.map Prod.snd)) (order : fs.Perm gs) :
      ReadAs (.map es) (.map gs)
  | frozenMap {es fs gs : List (Value × Value)} (labels : es.map Prod.fst = fs.map Prod.fst)
      (values : List.Forall₂ ReadAs (es.map Prod.snd) (fs.map Prod.snd)) (order : fs.Perm gs) :
      ReadAs (.frozenMap es) (.map gs)

namespace Cbor

open Value (IsSimpleKey SimpleKeys ReadAs)

variable {form : Form} {frozen : Bool} {n : Nat}

/-! ## What was written and is read -/

theorem received_of_isSimpleKey {k : Value} (h : k.IsSimpleKey) (frozen : Bool) :
    received form k frozen = k := by
  cases h <;> rfl

theorem map_fst_receivedEntry {es : List (Value × Value)} (h : SimpleKeys (es.map Prod.fst)) :
    (es.map (receivedEntry form frozen)).map Prod.fst = es.map Prod.fst := by
  rw [List.map_map]
  refine List.map_congr_left fun e he => ?_
  exact received_of_isSimpleKey (h.2 e.1 (List.mem_map_of_mem he)) true

/-- With simple keys the entries of a map are read back one by one. -/
theorem received_map_of_simpleKeys {es : List (Value × Value)}
    (h : SimpleKeys (es.map Prod.fst)) :
    received form (.map es) false = .map ((ordered form es).map (receivedEntry form false)) := by
  have keys : SimpleKeys ((ordered form es).map Prod.fst) :=
    h.perm ((ordered_perm form es).symm.map Prod.fst)
  rw [received_map, if_neg Bool.false_ne_true, Value.ofEntries_of_simpleKeys]
  rwa [map_fst_receivedEntry keys]

theorem readAs_receivedFloat (bits : UInt64) :
    ReadAs (.float bits) (.float (receivedFloat bits)) := by
  rw [receivedFloat]
  split
  · next nan => exact .notANumber nan rfl
  · exact .refl _

/-- The step for the items of an array. -/
theorem forall₂_readAs {xs : List Value} (h : ∀ x ∈ xs, ReadAs x (received form x false)) :
    List.Forall₂ ReadAs xs (xs.map fun x => received form x false) := by
  rw [List.forall₂_map_right_iff, List.forall₂_same]
  exact h

/-- **What is read back** stands for what was written. -/
theorem readAs_received {v : Value} (plain : v.Plain SimpleKeys n) :
    ReadAs v (received form v false) := by
  induction plain with
  | null | bool | int | bigInt | text | bytes => exact .refl _
  | buffer n b => exact .buffer b
  | float n bits => exact readAs_receivedFloat bits
  | list _ ih =>
    rw [received_list, if_neg Bool.false_ne_true]
    exact .list (forall₂_readAs ih)
  | tuple _ ih =>
    rw [received_tuple, received_list, if_neg Bool.false_ne_true]
    exact .tuple (forall₂_readAs ih)
  | map keys _ _ _ ih =>
    rw [received_map_of_simpleKeys keys]
    refine .map (map_fst_receivedEntry keys).symm ?_ ((ordered_perm form _).symm.map _)
    rw [List.map_map]
    exact Forall₂.map_of_forall ih
  | frozenMap keys _ _ _ ih =>
    rw [received_frozenMap, received_map_of_simpleKeys keys]
    refine .frozenMap (map_fst_receivedEntry keys).symm ?_ ((ordered_perm form _).symm.map _)
    rw [List.map_map]
    exact Forall₂.map_of_forall ih

/-! ## What was read and is written -/

theorem encodeItems_map {f : Value → Value} {xs : List Value}
    (h : ∀ x ∈ xs, encode form (f x) = encode form x) :
    encodeItems form (xs.map f) = encodeItems form xs := by
  induction xs with
  | nil => rfl
  | cons x xs ih =>
    rw [List.forall_mem_cons] at h
    rw [List.map_cons, encodeItems, encodeItems, h.1, ih h.2]

theorem encodeEntries_map {f : Value × Value → Value × Value} {es : List (Value × Value)}
    (hk : ∀ e ∈ es, (f e).1 = e.1) (hv : ∀ e ∈ es, encode form (f e).2 = encode form e.2) :
    encodeEntries form (es.map f) = encodeEntries form es := by
  induction es with
  | nil => rfl
  | cons e es ih =>
    rw [List.forall_mem_cons] at hk hv
    rw [List.map_cons, encodeEntries, encodeEntries, hk.1, hv.1, ih hk.2 hv.2]

theorem encodeFloat_received (bits : UInt64) :
    encodeFloat .plain (receivedFloat bits) = encodeFloat .plain bits := by
  rw [receivedFloat]
  split
  · next nan =>
    unfold encodeFloat
    simp only [nan]
    rfl
  · rfl

/-- **What is read back** is written as before. -/
theorem encode_received {v : Value} (plain : v.Plain SimpleKeys n) :
    encode .plain (received .plain v false) = encode .plain v := by
  have items : ∀ {xs : List Value},
      (∀ x ∈ xs, encode .plain (received .plain x false) = encode .plain x) →
      encode .plain (received .plain (.list xs) false) = encode .plain (.list xs) := by
    intro xs ih
    rw [received_list, if_neg Bool.false_ne_true, encode, encode, encodeItems_map ih]
  have entries : ∀ {es : List (Value × Value)}, SimpleKeys (es.map Prod.fst) →
      (∀ e ∈ es, encode .plain (received .plain e.2 false) = encode .plain e.2) →
      encode .plain (received .plain (.map es) false) = encode .plain (.map es) := by
    intro es keys ih
    have same : ∀ e ∈ es, (receivedEntry .plain false e).1 = e.1 := fun e he =>
      received_of_isSimpleKey (keys.2 e.1 (List.mem_map_of_mem he)) true
    rw [received_map_of_simpleKeys keys, ordered, encode, encode, encodeEntries_map same ih]
  induction plain with
  | null | bool | int | bigInt | text | bytes => rfl
  | buffer n b => rfl
  | float n bits => rw [received, encode, encode, encodeFloat_received]
  | list _ ih => exact items ih
  | tuple _ ih =>
    rw [received_tuple, encode_tuple]
    exact items ih
  | map keys _ _ _ ih => exact entries keys ih
  | frozenMap keys _ _ _ ih =>
    rw [received_frozenMap, encode_frozenMap]
    exact entries keys ih

/-! ## What was read and is read back -/

/-- Readers are faithful at a depth if the plain data that they give is nested no deeper and is
read back as it is. -/
def Faithful (n : Nat) : Prop :=
  ∀ (frozen : Bool) (levels : Nat) (v : Value), Gives (decodeItem n frozen) v →
    v.Plain SimpleKeys levels → v.Plain SimpleKeys n ∧ received .plain v frozen = v

section Step

variable {levels : Nat} (faithful : Faithful n)

include faithful

/-- The step for the elements of an array. -/
theorem Faithful.items {xs : List Value} (gives : ∀ x ∈ xs, Gives (decodeItem n frozen) x)
    (plain : ∀ x ∈ xs, x.Plain SimpleKeys levels) :
    (∀ x ∈ xs, x.Plain SimpleKeys n) ∧ (xs.map fun x => received .plain x frozen) = xs := by
  refine ⟨fun x hx => (faithful frozen levels x (gives x hx) (plain x hx)).1, ?_⟩
  calc xs.map (fun x => received .plain x frozen)
    _ = xs.map id := List.map_congr_left fun x hx =>
      (faithful frozen levels x (gives x hx) (plain x hx)).2
    _ = xs := List.map_id xs

/-- The step for arrays. -/
theorem Faithful.array {xs : List Value} (gives : ∀ x ∈ xs, Gives (decodeItem n frozen) x)
    (plain : (if frozen then Value.tuple xs else .list xs).Plain SimpleKeys levels) :
    (if frozen then Value.tuple xs else .list xs).Plain SimpleKeys (n + 1) ∧
      received .plain (if frozen then .tuple xs else .list xs) frozen =
        if frozen then .tuple xs else .list xs := by
  cases frozen with
  | false =>
    simp only [Bool.false_eq_true, if_false] at plain ⊢
    cases plain with
    | list items =>
      obtain ⟨within, same⟩ := faithful.items gives items
      exact ⟨.list within, by rw [received_list, if_neg Bool.false_ne_true, same]⟩
  | true =>
    simp only [if_true] at plain ⊢
    cases plain with
    | tuple items =>
      obtain ⟨within, same⟩ := faithful.items gives items
      exact ⟨.tuple within, by rw [received_tuple, received_list, if_pos rfl, same]⟩

/-- The step for the entries of a map. -/
theorem Faithful.entries {es : List (Value × Value)} (keys : SimpleKeys (es.map Prod.fst))
    (gives : ∀ e ∈ es, Gives (decodeItem n true) e.1 ∧ Gives (decodeItem n frozen) e.2)
    (labels : ∀ e ∈ es, e.1.Plain SimpleKeys levels)
    (values : ∀ e ∈ es, e.2.Plain SimpleKeys levels) :
    (∀ e ∈ es, e.1.Plain SimpleKeys n) ∧ (∀ e ∈ es, e.2.Plain SimpleKeys n) ∧
      Value.ofEntries ((ordered .plain es).map (receivedEntry .plain frozen)) = es := by
  have label := fun e he => faithful true levels e.1 (gives e he).1 (labels e he)
  have value := fun e he => faithful frozen levels e.2 (gives e he).2 (values e he)
  refine ⟨fun e he => (label e he).1, fun e he => (value e he).1, ?_⟩
  have same : es.map (receivedEntry .plain frozen) = es := by
    calc es.map (receivedEntry .plain frozen)
      _ = es.map id := List.map_congr_left fun e he =>
        Prod.ext (label e he).2 (value e he).2
      _ = es := List.map_id es
  rw [ordered, same, Value.ofEntries_of_simpleKeys keys]

/-- The step for maps. -/
theorem Faithful.map {es : List (Value × Value)}
    (gives : ∀ e ∈ es, Gives (decodeItem n true) e.1 ∧ Gives (decodeItem n frozen) e.2)
    (plain : (if frozen then Value.frozenMap es else .map es).Plain SimpleKeys levels) :
    (if frozen then Value.frozenMap es else .map es).Plain SimpleKeys (n + 1) ∧
      received .plain (if frozen then Value.frozenMap es else .map es) frozen =
        if frozen then Value.frozenMap es else .map es := by
  cases frozen with
  | false =>
    simp only [Bool.false_eq_true, if_false] at plain ⊢
    cases plain with
    | map keys labels values =>
      obtain ⟨labels, values, same⟩ := faithful.entries keys gives labels values
      exact ⟨.map keys labels values, by rw [received_map, if_neg Bool.false_ne_true, same]⟩
  | true =>
    simp only [if_true] at plain ⊢
    cases plain with
    | frozenMap keys labels values =>
      obtain ⟨labels, values, same⟩ := faithful.entries keys gives labels values
      exact ⟨.frozenMap keys labels values, by
        rw [received_frozenMap, received_map, if_pos rfl, same]⟩

/-- The step for tags: those that plain data may come from are integers that no head holds, and the
mark in front of any data. -/
theorem Faithful.tag {number : Nat} {content v : Value}
    (gives : Gives (decodeItem n (frozen || number == setTag)) content)
    (meaning : Meaning frozen number content v) (plain : v.Plain SimpleKeys levels) :
    v.Plain SimpleKeys (n + 1) ∧ received .plain v frozen = v := by
  obtain ⟨k, rfl⟩ := gives.depth_pos
  cases meaning with
  | int i => exact ⟨.bigInt k i, rfl⟩
  | set => cases frozen <;> cases plain
  | same other =>
    have unfrozen : (frozen || number == setTag) = frozen := by simp [other]
    rw [unfrozen] at gives
    obtain ⟨within, same⟩ := faithful frozen levels _ gives plain
    exact ⟨within.mono (by omega), same⟩
  | tag => cases plain

end Step

/-- **Readers are faithful** at every depth. -/
theorem faithful (n : Nat) : Faithful n := by
  induction n with
  | zero =>
    intro frozen levels v gives
    obtain ⟨k, zero⟩ := gives.depth_pos
    cases zero
  | succ n ih =>
    intro frozen levels v read plain
    cases read.given with
    | null => exact ⟨.null n, rfl⟩
    | bool b => exact ⟨.bool n b, rfl⟩
    | int head => exact ⟨.int head, rfl⟩
    | bytes b => exact ⟨.bytes n b, rfl⟩
    | text s => exact ⟨.text n s, rfl⟩
    | float same => exact ⟨.float n _, by rw [received, same]⟩
    | array gives => exact ih.array gives plain
    | map gives => exact ih.map gives plain
    | tag gives meaning => exact ih.tag gives meaning plain
    | undefined | stop | simple => cases plain

/-! ## Levels of what a reader gives -/

/-- The parts of a list, a map or a tag are given by a reader that goes less deep. -/
def Nests (n : Nat) : Value → Prop
  | .list xs => ∃ k < n, ∀ x ∈ xs, Gives (decodeItem k false) x
  | .map es => ∃ k < n, ∀ e ∈ es, Gives (decodeItem k true) e.1 ∧ Gives (decodeItem k false) e.2
  | .tag _ content => ∃ k < n, Gives (decodeItem k false) content
  | _ => True

theorem Nests.succ {v : Value} (h : Nests n v) : Nests (n + 1) v := by
  unfold Nests at h ⊢
  split
  · obtain ⟨k, lt, parts⟩ := h
    exact ⟨k, lt.trans (Nat.lt_succ_self n), parts⟩
  · obtain ⟨k, lt, parts⟩ := h
    exact ⟨k, lt.trans (Nat.lt_succ_self n), parts⟩
  · obtain ⟨k, lt, parts⟩ := h
    exact ⟨k, lt.trans (Nat.lt_succ_self n), parts⟩
  · trivial

/-- **Each level takes one off** the depth of the reader; the mark in front of any data takes one
more. -/
theorem Gives.nests {v : Value} (h : Gives (decodeItem n false) v) : Nests n v := by
  induction n generalizing v with
  | zero =>
    obtain ⟨k, zero⟩ := h.depth_pos
    cases zero
  | succ n ih =>
    cases h.given with
    | array gives => exact ⟨n, Nat.lt_succ_self n, gives⟩
    | map gives => exact ⟨n, Nat.lt_succ_self n, gives⟩
    | @tag number content v gives meaning =>
      cases meaning with
      | int | set => trivial
      | same other =>
        have unfrozen : (false || number == setTag) = false := by simp [other]
        rw [unfrozen] at gives
        exact (ih gives).succ
      | tag other =>
        have unfrozen : (false || number == setTag) = false := by simp [other]
        rw [unfrozen] at gives
        exact ⟨n, Nat.lt_succ_self n, gives⟩
    | _ => trivial

end Cbor

end Cose
