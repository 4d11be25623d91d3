import Cose.Proofs.Cbor.Rereading
import Cose.Proofs.Except

/-!
# The canonical form

The entries of a map are written in the order of their encoded keys. Distinct keys have distinct
encodings, so there is one such order for a set of entries, in whatever order these were given. It
follows that values are written as the same bytes if they are the same data, at every depth; the
converse comes from what is read back.

## Main definitions

* `Value.SameData`: values that are the same data

## Main results

* `arrange_eq_of_perm`: the order of entries in a map does not depend on how they were given
* `encode_of_readAs`: what stands for a value is written as the value
* `bytesOf_eq_of_sameData`: the same data is written as the same bytes
* `sameData_of_received_eq`: what is read back tells other data apart
-/

namespace Cose

/-- Numbers of equally many digits are the same digits if they are the same number. -/
theorem Bytes.toNat_inj {a b : Bytes} (length : a.length = b.length) (h : a.toNat = b.toNat) :
    a = b := by
  induction a generalizing b with
  | nil => exact (List.length_eq_zero_iff.mp length.symm).symm
  | cons x a ih =>
    cases b with
    | nil => cases length
    | cons y b =>
      have length : a.length = b.length := Nat.succ.inj length
      have digit {n r : Nat} (lt : r < 256 ^ b.length) :
          (n * 256 ^ b.length + r) / 256 ^ b.length = n := by
        rw [Nat.mul_comm, Nat.mul_add_div (Nat.pow_pos (by decide)), Nat.div_eq_of_lt lt,
          Nat.add_zero]
      rw [toNat_cons, toNat_cons, length] at h
      have first : x.toNat = y.toNat := calc
        x.toNat = (x.toNat * 256 ^ b.length + toNat a) / 256 ^ b.length :=
          (digit (length ▸ toNat_lt a)).symm
        _ = (y.toNat * 256 ^ b.length + toNat b) / 256 ^ b.length := by rw [h]
        _ = y.toNat := digit (toNat_lt b)
      rw [first, Nat.add_left_cancel_iff] at h
      rw [UInt8.toNat_inj.mp first, ih length h]

namespace Value

/-- **The same data**: one value stands for both. Tuples are the same data as lists, buffers as byte
strings, and maps whatever the order of their entries; what is not a number is the same for every
pattern, while the two zeros are two floats. -/
def SameData (v w : Value) : Prop :=
  ∃ r, v.ReadAs r ∧ w.ReadAs r

theorem IsSimpleKey.plain {keys : List Value → Prop} {k : Value} (h : k.IsSimpleKey) (n : Nat) :
    k.Plain keys (n + 2) := by
  cases h with
  | int i => exact .bigInt n i
  | text s => exact .text (n + 1) s
  | bytes b => exact .bytes (n + 1) b

end Value

namespace Cbor

open Value (IsSimpleKey SimpleKeys ReadAs)

/-! ## The order of entries -/

section Order

variable {a b c : Bytes}

theorem inOrder_iff :
    inOrder a b = true ↔ a.length < b.length ∨ a.length = b.length ∧ a.toNat ≤ b.toNat := by
  simp [inOrder]

theorem inOrder_trans (h : inOrder a b = true) (h' : inOrder b c = true) :
    inOrder a c = true := by
  rw [inOrder_iff] at h h' ⊢
  omega

theorem inOrder_total (a b : Bytes) : (inOrder a b || inOrder b a) = true := by
  rw [Bool.or_eq_true, inOrder_iff, inOrder_iff]
  omega

theorem inOrder_antisymm (h : inOrder a b = true) (h' : inOrder b a = true) : a = b := by
  rw [inOrder_iff] at h h'
  exact Bytes.toNat_inj (by omega) (by omega)

end Order

/-- **There is one order of entries** with distinct keys, in whatever order they were given. -/
theorem arrange_eq_of_perm {α : Type} {es fs : List (Bytes × α)} (perm : es.Perm fs)
    (distinct : (es.map Prod.fst).Nodup) : arrange .canonical es = arrange .canonical fs := by
  have trans (c d e : Bytes × α) :
      inOrder c.1 d.1 = true → inOrder d.1 e.1 = true → inOrder c.1 e.1 = true := inOrder_trans
  have total (d e : Bytes × α) : (inOrder d.1 e.1 || inOrder e.1 d.1) = true := inOrder_total _ _
  have sorted (gs : List (Bytes × α)) :
      (arrange .canonical gs).Pairwise fun d e => inOrder d.1 e.1 = true :=
    List.pairwise_mergeSort trans total gs
  have own (gs : List (Bytes × α)) : (arrange .canonical gs).Perm gs := List.mergeSort_perm gs _
  have same : (arrange .canonical es).Perm (arrange .canonical fs) :=
    (own es).trans (perm.trans (own fs).symm)
  refine same.eq_of_pairwise (fun d e hd he le ge => ?_) (sorted es) (sorted fs)
  -- Two entries in both orders have one key, and there is only one entry for it.
  have key : d.1 = e.1 := inOrder_antisymm le ge
  have mem := (own es).subset hd
  have mem' := (own es).subset (same.symm.subset he)
  exact List.inj_on_of_nodup_map distinct mem mem' key

/-- Entries that are in order are the order of all their permutations. -/
theorem arrange_of_sorted {α : Type} {es fs : List (Bytes × α)} (perm : es.Perm fs)
    (sorted : fs.Pairwise fun d e => inOrder d.1 e.1 = true) (distinct : (es.map Prod.fst).Nodup) :
    arrange .canonical es = fs := by
  rw [arrange_eq_of_perm perm distinct]
  exact List.mergeSort_of_pairwise sorted

/-! ## What stands for a value -/

variable {n : Nat}

/-- Keys with one encoding are one key. -/
theorem eq_of_bytesOf_eq {k k' : Value} (simple : k.IsSimpleKey) (simple' : k'.IsSimpleKey)
    (fits : (bytesOf .canonical k).length < 2 ^ 64)
    (same : bytesOf .canonical k = bytesOf .canonical k') : k = k' := by
  have written {k : Value} (simple : k.IsSimpleKey) :
      encode .canonical k = some (bytesOf .canonical k) := by
    cases simple <;> rfl
  have plain : k.Plain SimpleKeys 2 := simple.plain 0
  have plain' : k'.Plain SimpleKeys 2 := simple'.plain 0
  have read := reads_encode plain (written simple) fits false
  have read' := reads_encode plain' (written simple') (same ▸ fits) false
  rw [received_of_isSimpleKey simple] at read
  rw [received_of_isSimpleKey simple', ← same] at read'
  exact congrArg Prod.fst (Option.some.inj ((read []).symm.trans (read' [])))

/-- What is not a number is written as the same bytes for every pattern. -/
theorem encodeFloat_of_notANumber {bits bits' : UInt64}
    (h : Float.Format.double.decode bits.toNat = .notANumber)
    (h' : Float.Format.double.decode bits'.toNat = .notANumber) :
    encodeFloat .canonical bits = encodeFloat .canonical bits' := by
  unfold encodeFloat
  simp only [h, h']
  rfl

/-- The step for arrays. -/
theorem encode_list_of_readAs {xs ys : List Value} {b : Bytes} (fits : b.length < 2 ^ 64)
    (written : encode .canonical (.list xs) = some b) (items : List.Forall₂ ReadAs xs ys)
    (ih : ∀ x ∈ xs, ∀ (y : Value) (c : Bytes), ReadAs x y → encode .canonical x = some c →
      c.length < 2 ^ 64 → encode .canonical y = some c) :
    encode .canonical (.list ys) = some b := by
  have same : List.Forall₂ (fun x y => encode .canonical y = some (bytesOf .canonical x)) xs ys :=
    Forall₂.imp_of_mem items fun x hx y _ related => by
      obtain ⟨own, part⟩ := length_bytesOf_le written hx
      exact ih x hx y _ related own (part.trans_lt fits)
  obtain ⟨-, rfl⟩ := encode_list.mp written
  have bytes : ys.map (bytesOf .canonical) = xs.map (bytesOf .canonical) :=
    (Forall₂.map_eq_map same fun _ _ own => (bytesOf_eq own).symm).symm
  refine encode_list.mpr ⟨fun y hy => ?_, by rw [bytes]⟩
  obtain ⟨x, -, own⟩ := Forall₂.exists_left same hy
  rw [bytesOf_eq own, own]

/-- The bytes of an entry, key and value. -/
def entryBytes (e : Value × Value) : Bytes × Bytes :=
  (bytesOf .canonical e.1, bytesOf .canonical e.2)

/-- Maps with the same bytes of entries are written as the same bytes. -/
theorem encode_map_eq_of_perm {es fs : List (Value × Value)} {b c : Bytes}
    (fits : b.length < 2 ^ 64) (keys : SimpleKeys (es.map Prod.fst))
    (written : encode .canonical (.map es) = some b)
    (written' : encode .canonical (.map fs) = some c)
    (perm : (es.map entryBytes).Perm (fs.map entryBytes)) : b = c := by
  have distinct : ((es.map entryBytes).map Prod.fst).Nodup := by
    have keys_eq : (es.map entryBytes).map Prod.fst =
        (es.map Prod.fst).map (bytesOf .canonical) := by
      rw [List.map_map, List.map_map]
      rfl
    rw [keys_eq]
    refine keys.1.map_on fun k hk k' hk' => ?_
    obtain ⟨e, he, rfl⟩ := List.mem_map.mp hk
    have part := (length_bytesOf_le_of_map written he).1
    exact eq_of_bytesOf_eq (keys.2 _ hk) (keys.2 _ hk') (part.trans_lt fits)
  rw [(encode_map.mp written).2, (encode_map.mp written').2, ← arrange_map, ← arrange_map]
  exact congrArg joinEntries (arrange_eq_of_perm perm distinct)

/-- The step for maps: the entries may come in another order. -/
theorem encode_map_of_readAs {es fs gs : List (Value × Value)} {b : Bytes}
    (fits : b.length < 2 ^ 64) (keys : SimpleKeys (es.map Prod.fst))
    (written : encode .canonical (.map es) = some b) (labels : es.map Prod.fst = fs.map Prod.fst)
    (values : List.Forall₂ ReadAs (es.map Prod.snd) (fs.map Prod.snd)) (order : fs.Perm gs)
    (ih : ∀ e ∈ es, ∀ (y : Value) (c : Bytes), ReadAs e.2 y → encode .canonical e.2 = some c →
      c.length < 2 ^ 64 → encode .canonical y = some c) :
    encode .canonical (.map gs) = some b := by
  obtain ⟨each, -⟩ := encode_map.mp written
  have same : List.Forall₂ (fun x y => encode .canonical y = some (bytesOf .canonical x))
      (es.map Prod.snd) (fs.map Prod.snd) :=
    Forall₂.imp_of_mem values fun x hx y _ related => by
      obtain ⟨e, he, rfl⟩ := List.mem_map.mp hx
      have part := (length_bytesOf_le_of_map written he).2
      exact ih e he y _ related (each e he).2 (part.trans_lt fits)
  have pairs : es.map entryBytes = fs.map entryBytes := by
    have split (hs : List (Value × Value)) : hs.map entryBytes =
        ((hs.map Prod.fst).map (bytesOf .canonical)).zip
          ((hs.map Prod.snd).map (bytesOf .canonical)) := by
      refine List.zip_of_prod ?_ ?_
      · rw [List.map_map, List.map_map]
        rfl
      · rw [List.map_map, List.map_map]
        rfl
    rw [split, split, labels, Forall₂.map_eq_map same fun _ _ own => (bytesOf_eq own).symm]
  obtain ⟨c, written'⟩ : ∃ c, encode .canonical (.map gs) = some c := by
    refine ⟨_, encode_map.mpr ⟨fun g hg => ?_, rfl⟩⟩
    have hf := order.symm.subset hg
    have label : g.1 ∈ es.map Prod.fst := labels ▸ List.mem_map_of_mem hf
    obtain ⟨e, he, label⟩ := List.mem_map.mp label
    obtain ⟨x, -, own⟩ := Forall₂.exists_left same (List.mem_map_of_mem hf)
    rw [bytesOf_eq own, own, ← label]
    exact ⟨(each e he).1, rfl⟩
  rw [written', encode_map_eq_of_perm fits keys written written' (pairs ▸ order.map entryBytes)]

/-- **What stands for a value** is written as the value. -/
theorem encode_of_readAs {v w : Value} {b : Bytes} (plain : v.Plain SimpleKeys n)
    (related : ReadAs v w) (written : encode .canonical v = some b) (fits : b.length < 2 ^ 64) :
    encode .canonical w = some b := by
  induction plain generalizing w b with
  | null | bool | int | bigInt | text | bytes =>
    cases related
    exact written
  | buffer =>
    cases related with
    | refl => exact written
    | buffer => exact written
  | float =>
    cases related with
    | refl => exact written
    | notANumber nan nan' =>
      rw [encode, encodeFloat_of_notANumber nan nan'] at written
      exact written
  | list _ ih =>
    cases related with
    | refl => exact written
    | list items =>
      exact encode_list_of_readAs fits written items fun x hx y c related => ih x hx related
  | tuple _ ih =>
    cases related with
    | refl => exact written
    | tuple items =>
      rw [encode_tuple] at written
      exact encode_list_of_readAs fits written items fun x hx y c related => ih x hx related
  | map keys _ _ _ ih =>
    cases related with
    | refl => exact written
    | map labels values order =>
      exact encode_map_of_readAs fits keys written labels values order
        fun e he y c related => ih e he related
  | frozenMap keys _ _ _ ih =>
    cases related with
    | refl => exact written
    | frozenMap labels values order =>
      rw [encode_frozenMap] at written
      exact encode_map_of_readAs fits keys written labels values order
        fun e he y c related => ih e he related

/-- **The same data** is written as the same bytes. -/
theorem bytesOf_eq_of_sameData {v w : Value} {m : Nat} (plain : v.Plain SimpleKeys n)
    (plain' : w.Plain SimpleKeys m) (same : v.SameData w)
    (fits : (bytesOf .canonical v).length < 2 ^ 64)
    (fits' : (bytesOf .canonical w).length < 2 ^ 64) :
    bytesOf .canonical v = bytesOf .canonical w := by
  obtain ⟨r, related, related'⟩ := same
  obtain ⟨b, written⟩ := exists_encode plain .canonical
  obtain ⟨c, written'⟩ := exists_encode plain' .canonical
  rw [bytesOf_eq written] at fits ⊢
  rw [bytesOf_eq written'] at fits' ⊢
  have first := encode_of_readAs plain related written fits
  have second := encode_of_readAs plain' related' written' fits'
  exact Option.some.inj (first.symm.trans second)

/-- What is read back as the same was the same data. -/
theorem sameData_of_received_eq {v w : Value} {m : Nat} (plain : v.Plain SimpleKeys n)
    (plain' : w.Plain SimpleKeys m)
    (same : received .canonical v false = received .canonical w false) : v.SameData w :=
  ⟨_, readAs_received plain, same ▸ readAs_received plain'⟩

end Cbor

end Cose
