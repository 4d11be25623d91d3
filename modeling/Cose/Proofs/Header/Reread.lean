import Cose.Proofs.Cbor.Rereading
import Cose.Proofs.Header.Labels

/-!
# Headers read back

A bucket that travels comes back with the same labels, and with values that stand for those that
were written. The rules for headers look at no more than that, so what passed them before passes
them again.

## Main definitions

* `Bucket.Admits`: the rules for a parameter
* `Value.Rereading`: views of values that keep what the rules look at
* `Bucket.Rereads`: a bucket that has come back
* `Bucket.Plain`: a bucket whose values are plain data
* `Bucket.readEntries`: the parameters of an encoded bucket as they are read back

## Main results

* `Bucket.validate_eq_ok`, `checkBuckets_eq_ok`: the rules as properties of labels and values
* `Layer.check_of_rereads`: the rules hold of what has come back
* `Bucket.load_eq_ok`: loading a map with the labels of a bucket
* `Bucket.Labelled.decodeUnprotected_received`, `Bucket.Labelled.decodeProtected_encode`: encoded
  buckets come back
-/

namespace Cose

open Cbor (Form encode received receivedEntry ordered bytesOf Reads)

/-! ## The rules -/

/-- **The rules for a parameter**: the common ones have types of their own. -/
structure Bucket.Admits (b : Bucket) (l : Label) (v : Value) : Prop where
  algorithm : l = .alg → isAlgorithmId v = true
  critical : l = .crit → b.criticalFault? v = none
  contentType : l = .contentType → isMediaType v = true
  keyId : l = .kid → v.isBytes = true
  vector : l = .iv ∨ l = .partialIv → v.isBytes = true

theorem Bucket.entryFault?_eq_none {b : Bucket} {l : Label} {v : Value} :
    b.entryFault? (l, v) = none ↔ b.Admits l v := by
  rw [entryFault?]
  constructor
  · intro ok
    constructor <;> intro hl
    · subst hl
      simpa using ok
    · subst hl
      simpa [Label.alg, Label.crit] using ok
    · subst hl
      simpa [Label.alg, Label.crit, Label.contentType] using ok
    · subst hl
      simpa [Label.alg, Label.crit, Label.contentType, Label.kid] using ok
    · rcases hl with rfl | rfl <;>
        simpa [Label.alg, Label.crit, Label.contentType, Label.kid, Label.iv, Label.partialIv]
          using ok
  · rintro ⟨algorithm, critical, contentType, keyId, vector⟩
    split
    · next hl => rw [if_pos (algorithm hl)]
    split
    · next hl => exact critical hl
    split
    · next hl => rw [if_pos (contentType hl)]
    split
    · next hl => rw [if_pos (keyId hl)]
    split
    · next hl => rw [if_pos (vector hl)]
    · rfl

theorem Bucket.validate_eq_ok {b : Bucket} :
    b.validate = .ok () ↔
      (∀ e ∈ b.entries, b.Admits e.1 e.2) ∧ ¬ (b.has .iv = true ∧ b.has .partialIv = true) := by
  rw [validate]
  cases found : b.entries.findSome? b.entryFault? with
  | some e =>
    refine ⟨nofun, fun h => ?_⟩
    obtain ⟨entry, mem, fault⟩ := List.exists_of_findSome?_eq_some found
    rw [entryFault?_eq_none.mpr (h.1 entry mem)] at fault
    cases fault
  | none =>
    rw [List.findSome?_eq_none_iff] at found
    have found : ∀ e ∈ b.entries, b.Admits e.1 e.2 := fun e he =>
      entryFault?_eq_none.mp (found e he)
    simp only [Bool.and_eq_true]
    split
    · next both => exact ⟨nofun, fun h => absurd both h.2⟩
    · next apart => exact ⟨fun _ => ⟨found, apart⟩, fun _ => rfl⟩

theorem checkBuckets_eq_ok {p u : Bucket} :
    checkBuckets p u = .ok () ↔
      u.validate = .ok () ∧ (∀ l ∈ p.labels, u.has l = false) ∧
        ¬ ((p.has .iv = true ∨ u.has .iv = true) ∧
          (p.has .partialIv = true ∨ u.has .partialIv = true)) := by
  have shared_iff : (sharedLabels p u).isEmpty = true ↔ ∀ l ∈ p.labels, u.has l = false := by
    simp [sharedLabels]
  rw [checkBuckets, Except.bind_eq_ok]
  constructor
  · rintro ⟨⟨⟩, valid, h⟩
    simp only at h
    split at h
    · cases h
    next shared =>
    simp only [Except.pure_eq] at h
    split at h
    · cases h
    next vectors =>
    refine ⟨valid, shared_iff.mp (by simpa using shared), ?_⟩
    simpa only [Bool.and_eq_true, Bool.or_eq_true] using vectors
  · rintro ⟨valid, shared, vectors⟩
    have apart : (!(sharedLabels p u).isEmpty) = false := by simp [shared_iff.mpr shared]
    refine ⟨(), valid, ?_⟩
    simp only [apart, Bool.false_eq_true, if_false, Except.pure_eq]
    rw [if_neg (by simpa only [Bool.and_eq_true, Bool.or_eq_true] using vectors)]

theorem Layer.check_eq_ok {h : Layer} :
    h.check = .ok () ↔ h.prot.validate = .ok () ∧ checkBuckets h.prot h.unprot = .ok () := by
  rw [check, Except.bind_eq_ok]
  exact ⟨fun ⟨⟨⟩, valid, apart⟩ => ⟨valid, apart⟩, fun ⟨valid, apart⟩ => ⟨(), valid, apart⟩⟩

/-! ## Buckets that have come back -/

/-- A view of values that keeps the keys of maps and goes through lists item by item. What it
shows stands for plain data. -/
structure Value.Rereading (f : Value → Value) : Prop where
  simple : ∀ {v : Value}, v.IsSimpleKey → f v = v
  list : ∀ xs : List Value, f (.list xs) = .list (xs.map f)
  readAs : ∀ {n : Nat} {v : Value}, v.Plain SimpleKeys n → ReadAs v (f v)

theorem Value.rereading_id : Value.Rereading id where
  simple _ := rfl
  list xs := by rw [List.map_id, id]
  readAs _ := .refl _

theorem Value.rereading_received (form : Form) :
    Value.Rereading fun v => received form v false where
  simple h := Cbor.received_of_isSimpleKey h false
  list xs := by rw [Cbor.received_list, if_neg Bool.false_ne_true]
  readAs := Cbor.readAs_received

namespace Bucket

variable {b b' : Bucket} {f : Value → Value} {l : Label}

/-- A bucket that has come back: the same entries in some order, with their values seen through
a view. -/
structure Rereads (f : Value → Value) (b b' : Bucket) : Prop where
  rereading : Value.Rereading f
  isProtected : b'.isProtected = b.isProtected
  entries : b'.entries.Perm (b.entries.map fun e => (e.1, f e.2))

namespace Rereads

theorem labels_perm (h : Rereads f b b') : b'.labels.Perm b.labels := by
  have perm := h.entries.map Prod.fst
  rwa [List.map_map] at perm

theorem has_eq (h : Rereads f b b') (l : Label) : b'.has l = b.has l := by
  rw [Bool.eq_iff_iff, has_iff, has_iff]
  exact h.labels_perm.mem_iff

theorem labelled (h : Rereads f b b') (labelled : b.Labelled) : b'.Labelled :=
  ⟨h.labels_perm.symm.nodup labelled.nodup,
    fun l hl => labelled.canonical l (h.labels_perm.subset hl)⟩

theorem find?_eq (h : Rereads f b b') (labelled : b.Labelled) (l : Label) :
    b'.find? l = (b.find? l).map f := by
  cases found : b.find? l with
  | none =>
    rw [Option.map_none, find?_eq_none_iff, h.labels_perm.mem_iff, ← find?_eq_none_iff, found]
  | some v =>
    rw [Option.map_some, (h.labelled labelled).find?_eq_some_iff, h.entries.mem_iff]
    exact List.mem_map.mpr ⟨(l, v), mem_of_find? found, rfl⟩

/-- A label in the list of critical ones is a simple value. -/
theorem criticalLabelFault?_eq (h : Rereads f b b') {v : Value}
    (ok : b.criticalLabelFault? v = none) : b'.criticalLabelFault? (f v) = none := by
  have simple : v.IsSimpleKey := by
    cases v <;> first | constructor | cases ok
  rw [h.rereading.simple simple]
  rw [criticalLabelFault?] at ok ⊢
  split at ok
  · cases ok
  next l spelled =>
  simp only [h.has_eq]
  exact ok

theorem criticalFault?_eq (h : Rereads f b b') {v : Value} (ok : b.criticalFault? v = none) :
    b'.criticalFault? (f v) = none := by
  unfold criticalFault? at ok
  split at ok
  · cases ok
  next isProtected =>
  split at ok
  · cases ok
  · next xs nonempty =>
    cases xs with
    | nil => exact absurd rfl nonempty
    | cons x xs =>
      have each : ((x :: xs).map f).findSome? b'.criticalLabelFault? = none := by
        rw [List.findSome?_eq_none_iff] at ok ⊢
        rw [List.forall_mem_map]
        exact fun x hx => h.criticalLabelFault?_eq (ok x hx)
      rw [h.rereading.list]
      unfold criticalFault?
      rw [h.isProtected, if_neg isProtected]
      exact each
  · cases ok

/-- No rule refuses a value that has come back. -/
theorem admits (h : Rereads f b b') {v : Value} (ok : b.Admits l v) : b'.Admits l (f v) := by
  -- Except for the list of critical labels, the rules ask for simple values, which come back as
  -- they are.
  have bytes : v.isBytes = true → f v = v := by
    intro isBytes
    cases v <;> first | exact h.rereading.simple (.bytes _) | cases isBytes
  constructor
  · intro hl
    have id := ok.algorithm hl
    have kept : f v = v := by
      cases v <;> first | exact h.rereading.simple (by constructor) | cases id
    rw [kept, id]
  · exact fun hl => h.criticalFault?_eq (ok.critical hl)
  · intro hl
    have media := ok.contentType hl
    have kept : f v = v := by
      cases v <;> first | exact h.rereading.simple (by constructor) | cases media
    rw [kept, media]
  · intro hl
    rw [bytes (ok.keyId hl), ok.keyId hl]
  · intro hl
    rw [bytes (ok.vector hl), ok.vector hl]

/-- The rules inside a bucket hold of what has come back. -/
theorem validate (h : Rereads f b b') (valid : b.validate = .ok ()) : b'.validate = .ok () := by
  rw [validate_eq_ok] at valid ⊢
  refine ⟨fun e he => ?_, ?_⟩
  · obtain ⟨d, hd, rfl⟩ := List.mem_map.mp (h.entries.subset he)
    exact h.admits (valid.1 d hd)
  · rw [h.has_eq, h.has_eq]
    exact valid.2

end Rereads

end Bucket

/-- **The rules for a layer** hold of what has come back. -/
theorem Layer.check_of_rereads {h h' : Layer} {f g : Value → Value} (check : h.check = .ok ())
    (prot : Bucket.Rereads f h.prot h'.prot) (unprot : Bucket.Rereads g h.unprot h'.unprot) :
    h'.check = .ok () := by
  rw [check_eq_ok, checkBuckets_eq_ok] at check ⊢
  obtain ⟨valid, valid_unprot, shared, vectors⟩ := check
  refine ⟨prot.validate valid, unprot.validate valid_unprot, fun l hl => ?_, ?_⟩
  · rw [unprot.has_eq]
    exact shared l (prot.labels_perm.subset hl)
  · simp only [prot.has_eq, unprot.has_eq]
    exact vectors

/-! ## Encoded buckets -/

namespace Bucket

variable {b : Bucket} {form : Form} {keys : List Value → Prop} {n : Nat}

/-- The values of a bucket are plain data within a number of levels. -/
def Plain (keys : List Value → Prop) (n : Nat) (b : Bucket) : Prop :=
  ∀ e ∈ b.entries, e.2.Plain keys n

/-- The parameters of a bucket in the order in which they are written. -/
def written (form : Form) (b : Bucket) : List (Label × Value) :=
  match form with
  | .plain => b.entries
  | .canonical => b.entries.mergeSort fun d e =>
    Cbor.inOrder (bytesOf .canonical d.1.toValue) (bytesOf .canonical e.1.toValue)

/-- The parameters of an encoded bucket as they are read back. -/
def readEntries (form : Form) (b : Bucket) : List (Label × Value) :=
  (b.written form).map fun e => (e.1, received form e.2 false)

theorem written_perm (form : Form) (b : Bucket) : (b.written form).Perm b.entries := by
  cases form with
  | plain => exact .refl _
  | canonical => exact List.mergeSort_perm _ _

theorem ordered_toEntries (form : Form) (b : Bucket) :
    ordered form b.toEntries = (b.written form).map fun e => (e.1.toValue, e.2) := by
  cases form with
  | plain => rfl
  | canonical =>
    have sorted := List.map_mergeSort (r := fun d e : Label × Value =>
        Cbor.inOrder (bytesOf .canonical d.1.toValue) (bytesOf .canonical e.1.toValue))
      (s := fun d e : Value × Value =>
        Cbor.inOrder (bytesOf .canonical d.1) (bytesOf .canonical e.1))
      (f := fun e => (e.1.toValue, e.2)) (l := b.entries) fun _ _ _ _ => rfl
    exact sorted.symm

theorem isSimpleKey_toValue (l : Label) : l.toValue.IsSimpleKey := by
  cases l <;> constructor

theorem Labelled.simpleKeys (h : b.Labelled) : Value.SimpleKeys (b.toEntries.map Prod.fst) := by
  have keys_eq : b.toEntries.map Prod.fst = b.labels.map Label.toValue := by
    rw [toEntries, labels, List.map_map, List.map_map]
    rfl
  rw [keys_eq]
  refine ⟨h.nodup.map fun l l' same => Label.toValue_inj same, ?_⟩
  rw [List.forall_mem_map]
  exact fun l _ => isSimpleKey_toValue l

/-- The map of a bucket is read back as the map of its parameters as they are read back. -/
theorem Labelled.received_toEntries (h : b.Labelled) (form : Form) :
    received form (.map b.toEntries) false =
      .map ((b.readEntries form).map fun e => (e.1.toValue, e.2)) := by
  rw [Cbor.received_map_of_simpleKeys h.simpleKeys, ordered_toEntries, readEntries, List.map_map,
    List.map_map]
  congr 1
  refine List.map_congr_left fun e _ => ?_
  exact Prod.ext (Cbor.received_of_isSimpleKey (isSimpleKey_toValue e.1) true) rfl

/-- What comes back has the labels of the bucket, and views of its values. -/
theorem rereads_readEntries (form : Form) (b : Bucket) (fixed : Option Bytes) :
    Rereads (fun v => received form v false) b
      { isProtected := b.isProtected, entries := b.readEntries form, fixed := fixed } :=
  ⟨Value.rereading_received form, rfl, (b.written_perm form).map _⟩

/-- The map of a bucket with plain values is plain data with one more level. -/
theorem Plain.toEntries (h : b.Plain keys (n + 2)) (labelled : b.Labelled)
    (simple : ∀ ks, Value.SimpleKeys ks → keys ks) :
    (Value.map b.toEntries).Plain keys (n + 3) := by
  refine .map (simple _ labelled.simpleKeys) ?_ ?_
  · intro e he
    obtain ⟨⟨l, v⟩, -, rfl⟩ := List.mem_map.mp he
    cases l with
    | int i => exact .bigInt n i
    | text s => exact .text _ s
  · intro e he
    obtain ⟨⟨l, v⟩, hd, rfl⟩ := List.mem_map.mp he
    exact h (l, v) hd

/-- A map with canonical and distinct labels is loaded as it is. -/
theorem load_eq_ok {es rest : List (Label × Value)} (nodup : ((es ++ rest).map Prod.fst).Nodup)
    (canonical : ∀ e ∈ rest, e.1.IsCanonical) :
    load es (rest.map fun e => (e.1.toValue, e.2)) = .ok (es ++ rest) := by
  induction rest generalizing es with
  | nil => rw [List.map_nil, load, List.append_nil]
  | cons e rest ih =>
    rw [List.forall_mem_cons] at canonical
    have fresh : es.lookup e.1 = none := by
      rw [List.map_append, List.nodup_append] at nodup
      have apart := fun d hd => nodup.2.2 d hd e.1 (List.mem_cons_self ..)
      rw [List.lookup_eq_none_iff]
      intro d hd
      simpa using (apart d.1 (List.mem_map_of_mem hd)).symm
    have spelled : Label.ofValue e.1.toValue = .ok e.1 := canonical.1
    have loaded := @ih (es ++ [(e.1, e.2)]) (by simpa using nodup) canonical.2
    rw [List.append_assoc, List.singleton_append] at loaded
    rw [List.map_cons, load, spelled]
    simp only [fresh, Option.isSome_none, Bool.false_eq_true, if_false, loaded]

theorem Labelled.load_readEntries (h : b.Labelled) (form : Form) :
    load [] ((b.readEntries form).map fun e => (e.1.toValue, e.2)) = .ok (b.readEntries form) := by
  have labelled := (b.rereads_readEntries form none).labelled h
  exact load_eq_ok labelled.nodup fun e he => labelled.canonical e.1 (List.mem_map_of_mem he)

/-- **An unprotected bucket comes back** from the map that is read. -/
theorem Labelled.decodeUnprotected_received (h : b.Labelled) (form : Form) :
    decodeUnprotected (received form (.map b.toEntries) false) =
      .ok { isProtected := false, entries := b.readEntries form } := by
  rw [h.received_toEntries, decodeUnprotected, h.load_readEntries]
  rfl

/-- The steps behind the bytes of a protected bucket. -/
theorem encode_eq_ok {p : Bytes} (h : b.encode = .ok p) :
    b.isProtected = true ∧ (b.fixed = some p ∨ b.fixed = none ∧ (b.entries = [] ∧ p = [] ∨
      b.validate = .ok () ∧ Cbor.encode .canonical (.map b.toEntries) = some p)) := by
  rw [Bucket.encode] at h
  split at h
  · cases h
  next isProtected =>
  refine ⟨by simpa using isProtected, ?_⟩
  split at h
  · next fixed =>
    cases h
    exact .inl fixed
  next unfixed =>
  refine .inr ⟨unfixed, ?_⟩
  split at h
  · next empty =>
    cases h
    exact .inl ⟨by simpa using empty, rfl⟩
  · obtain ⟨_, valid, h⟩ := Except.bind_eq_ok.mp h
    split at h
    · next encoded =>
      cases h
      exact .inr ⟨valid, encoded⟩
    · cases h

/-- **A protected bucket comes back** from its bytes, which are fixed then. -/
theorem Labelled.decodeProtected_encode {p : Bytes} (h : b.Labelled)
    (plain : b.Plain keys (Cbor.maxDepth - 1)) (simple : ∀ ks, Value.SimpleKeys ks → keys ks)
    (unfixed : b.fixed = none) (encoded : b.encode = .ok p) (fits : p.length < 2 ^ 64) :
    decodeProtected (.bytes p) =
      .ok { isProtected := true, entries := b.readEntries .canonical, fixed := some p } := by
  obtain ⟨-, fixed | ⟨-, ⟨empty, rfl⟩ | ⟨-, encoded⟩⟩⟩ := encode_eq_ok encoded
  · rw [unfixed] at fixed
    cases fixed
  · have none_left : b.readEntries .canonical = [] := by
      rw [readEntries, List.map_eq_nil_iff, ← List.perm_nil, ← empty]
      exact b.written_perm .canonical
    rw [none_left]
    rfl
  · have read : Reads (Cbor.decodeItem Cbor.maxDepth false) p
        (received .canonical (.map b.toEntries) false) :=
      Cbor.reads_encode (plain.toEntries h simple) encoded fits false
    have decoded : Cbor.decode? p = some (received .canonical (.map b.toEntries) false) := by
      have whole := read []
      rw [List.append_nil] at whole
      rw [Cbor.decode?, whole, Option.map_some]
    rw [h.received_toEntries] at decoded
    cases p with
    | nil => exact absurd rfl (Cbor.encode_ne_nil encoded)
    | cons x p =>
      rw [decodeProtected, Cbor.Reader.read_eq_ok.mpr decoded]
      · simp only [h.load_readEntries]
        rfl
      · exact List.cons_ne_nil x p

end Bucket

end Cose
