import Cose.Proofs.Cbor.Canonical
import Cose.Proofs.Header.Change
import Cose.Proofs.Message.Prepared

/-!
# The protected encoding is canonical

However a protected bucket was built, its bytes say which parameters it holds and nothing else: two
buckets have the same bytes exactly if they have the same labels with the same data. What is decoded
from the bytes holds the parameters of the bucket, and is encoded as these bytes again, as is every
bucket that is decoded from any bytes.

## Main definitions

* `Bucket.Built`: buckets that were made and changed in any way
* `Bucket.SameData`: buckets with the same labels and the same data
* `Bucket.Written`: a bucket that was built, with plain values, and its bytes

## Main results

* `Bucket.Written.eq_of_sameData`, `Bucket.Written.sameData_of_eq`: the bytes and the parameters
* `Bucket.Written.decodes`: what the bytes are decoded to
* `Bucket.encode_of_decodeProtected`: received bytes stay
* `Bucket.protected_encoding_canonical`: all of these
-/

namespace Cose.Bucket

open Value (SimpleKeys)
open Cbor (bytesOf entryBytes)

/-! ## Buckets that were built -/

/-- **A protected bucket that was built**: made from other data, and then changed any number of
times, whether the changes answered or failed. -/
inductive Built : Bucket → Prop
  | new {s : Source} {b : Bucket} (made : ofSource true s = .ok b) : Built b
  | change {b : Bucket} (before : Built b) (c : Change) : Built (b.apply c).after

/-- A bucket whose bytes are not fixed, with canonical and distinct labels. -/
structure Open (b : Bucket) : Prop where
  labelled : b.Labelled
  isProtected : b.isProtected = true
  unfixed : b.fixed = none

variable {b b' : Bucket} {p p' : Bytes}

theorem Open.apply (h : b.Open) (c : Change) : (b.apply c).after.Open := by
  have editable : b.Editable := ⟨h.labelled, h.unfixed⟩
  obtain ⟨after, kind⟩ := editable.apply c
  exact ⟨after.labelled, kind.trans h.isProtected, after.unfixed⟩

/-- What was built is open. -/
theorem Built.isOpen (h : b.Built) : b.Open := by
  have fresh : Open { isProtected := true } := ⟨labelled_empty true none, rfl, rfl⟩
  induction h with
  | @new s b made =>
    have updated := fresh.apply (.update s)
    rw [ofSource] at made
    split at made
    · split at made
      · next done =>
        cases made
        rw [Bucket.apply, done] at updated
        exact updated
      · cases made
    · cases made
      exact fresh
  | change _ c ih => exact ih.apply c

/-! ## Buckets with the same data -/

/-- The same labels with the same data. -/
def SameData (b b' : Bucket) : Prop :=
  ∀ l, Option.Rel Value.SameData (b.find? l) (b'.find? l)

theorem SameData.find?_cases (same : b.SameData b') (l : Label) :
    b.find? l = none ∧ b'.find? l = none ∨
      ∃ v w, b.find? l = some v ∧ b'.find? l = some w ∧ v.SameData w := by
  have related := same l
  generalize b.find? l = x, b'.find? l = y at related
  cases related with
  | none => exact .inl ⟨rfl, rfl⟩
  | some related => exact .inr ⟨_, _, rfl, rfl, related⟩

theorem SameData.labels_perm (same : b.SameData b') (labelled : b.Labelled)
    (labelled' : b'.Labelled) : b.labels.Perm b'.labels := by
  refine (List.perm_ext_iff_of_nodup labelled.nodup labelled'.nodup).mpr fun l => ?_
  rw [← not_iff_not, ← find?_eq_none_iff, ← find?_eq_none_iff]
  rcases same.find?_cases l with ⟨absent, absent'⟩ | ⟨v, w, found, found', -⟩
  · exact iff_of_true absent absent'
  · exact iff_of_false (by simp [found]) (by simp [found'])

/-- The bytes of the entry for a label, key and value. -/
def bytesAt (b : Bucket) (l : Label) : Bytes × Bytes :=
  (bytesOf .canonical l.toValue, bytesOf .canonical ((b.find? l).getD .null))

theorem Labelled.map_entryBytes (h : b.Labelled) :
    b.toEntries.map entryBytes = b.labels.map b.bytesAt := by
  rw [toEntries, labels, List.map_map, List.map_map]
  refine List.map_congr_left fun e he => ?_
  have found : b.find? e.1 = some e.2 := h.find?_eq_some_iff.mpr he
  simp only [Function.comp_apply, entryBytes, bytesAt, found, Option.getD_some]

/-- A bucket that was built, and its bytes: its values are plain data, nested no deeper than a
reader goes. -/
structure Written (b : Bucket) (p : Bytes) : Prop where
  built : b.Built
  plain : b.Plain SimpleKeys (Cbor.maxDepth - 1)
  encoded : b.encode = .ok p
  fits : p.length < 2 ^ 64

namespace Written

variable (h : b.Written p)

include h

theorem labelled : b.Labelled :=
  h.built.isOpen.labelled

/-- The bytes are those of the map, and empty if there are no entries. -/
theorem encode_cases : b.entries = [] ∧ p = [] ∨
    b.entries ≠ [] ∧ b.validate = .ok () ∧
      Cbor.encode .canonical (.map b.toEntries) = some p := by
  obtain ⟨-, fixed | ⟨-, empty | ⟨valid, written⟩⟩⟩ := encode_eq_ok h.encoded
  · cases h.built.isOpen.unfixed.symm.trans fixed
  · exact .inl empty
  · by_cases empty : b.entries = []
    · have none_left : b.encode = .ok [] := by
        rw [Bucket.encode, h.built.isOpen.isProtected, h.built.isOpen.unfixed, empty]
        rfl
      exact .inl ⟨empty, Except.ok.inj (h.encoded.symm.trans none_left)⟩
    · exact .inr ⟨empty, valid, written⟩

theorem eq_nil_iff : p = [] ↔ b.entries = [] := by
  rcases h.encode_cases with ⟨empty, rfl⟩ | ⟨nonempty, -, written⟩
  · exact ⟨fun _ => empty, fun _ => rfl⟩
  · exact iff_of_false (Cbor.encode_ne_nil written) nonempty

theorem valid : b.validate = .ok () := by
  rcases h.encode_cases with ⟨empty, -⟩ | ⟨-, valid, -⟩
  · rw [validate_eq_ok, has_iff, labels, empty]
    exact ⟨fun e he => absurd he List.not_mem_nil, fun both => absurd both.1 List.not_mem_nil⟩
  · exact valid

/-- The bytes of a value fit in those of the bucket. -/
theorem fits_of_find? {l : Label} {v : Value} (found : b.find? l = some v) :
    (bytesOf .canonical v).length < 2 ^ 64 := by
  have mem := mem_of_find? found
  rcases h.encode_cases with ⟨empty, -⟩ | ⟨-, -, written⟩
  · rw [empty] at mem
    cases mem
  · have part := (Cbor.length_bytesOf_le_of_map written (e := (l.toValue, v))
      (List.mem_map.mpr ⟨_, mem, rfl⟩)).2
    exact part.trans_lt h.fits

theorem bytesAt_eq (h' : b'.Written p') (same : b.SameData b') (l : Label) :
    b.bytesAt l = b'.bytesAt l := by
  rw [bytesAt, bytesAt]
  rcases same.find?_cases l with ⟨absent, absent'⟩ | ⟨v, w, found, found', related⟩
  · rw [absent, absent']
  · have same := Cbor.bytesOf_eq_of_sameData (h.plain _ (mem_of_find? found))
      (h'.plain _ (mem_of_find? found')) related (h.fits_of_find? found)
      (h'.fits_of_find? found')
    rw [found, found', Option.getD_some, Option.getD_some, same]

/-- **The same data is encoded as the same bytes**, however the buckets were built. -/
theorem eq_of_sameData (h' : b'.Written p') (same : b.SameData b') : p = p' := by
  have labels := same.labels_perm h.labelled h'.labelled
  have empty_iff : b.entries = [] ↔ b'.entries = [] := by
    rw [← List.map_eq_nil_iff (f := Prod.fst), ← List.map_eq_nil_iff (f := Prod.fst)]
    exact ⟨fun empty => (empty ▸ labels : List.Perm [] _).nil_eq.symm,
      fun empty => (empty ▸ labels : List.Perm _ []).eq_nil⟩
  rcases h.encode_cases with ⟨empty, rfl⟩ | ⟨nonempty, -, written⟩
  · exact (h'.eq_nil_iff.mpr (empty_iff.mp empty)).symm
  rcases h'.encode_cases with ⟨empty', -⟩ | ⟨-, -, written'⟩
  · exact absurd (empty_iff.mpr empty') nonempty
  refine Cbor.encode_map_eq_of_perm h.fits h.labelled.simpleKeys written written' ?_
  rw [h.labelled.map_entryBytes, h'.labelled.map_entryBytes, funext (h.bytesAt_eq h' same)]
  exact labels.map _

/-- What the bytes are decoded to. -/
theorem decodeProtected_eq : decodeProtected (.bytes p) =
    .ok { isProtected := true, entries := b.readEntries .canonical, fixed := some p } :=
  h.labelled.decodeProtected_encode h.plain (fun _ simple => simple) h.built.isOpen.unfixed
    h.encoded h.fits

/-- The bucket that the bytes are decoded to holds views of the values. -/
theorem rereads : Rereads (fun v => Cbor.received .canonical v false) b
    { isProtected := true, entries := b.readEntries .canonical, fixed := some p } := by
  have rereads := b.rereads_readEntries .canonical (some p)
  rwa [h.built.isOpen.isProtected] at rereads

/-- **Equal bytes hold the same data.** -/
theorem sameData_of_eq (h' : b'.Written p) : b.SameData b' := by
  intro l
  have entries : b.readEntries .canonical = b'.readEntries .canonical :=
    congrArg Bucket.entries (Except.ok.inj (h.decodeProtected_eq.symm.trans h'.decodeProtected_eq))
  have view := h.rereads.find?_eq h.labelled l
  rw [entries, h'.rereads.find?_eq h'.labelled l] at view
  rcases found : b.find? l with - | v <;> rcases found' : b'.find? l with - | w
  · exact .none
  · rw [found, found'] at view
    cases view
  · rw [found, found'] at view
    cases view
  · rw [found, found'] at view
    exact .some (Cbor.sameData_of_received_eq (h.plain _ (mem_of_find? found))
      (h'.plain _ (mem_of_find? found')) (Option.some.inj view).symm)

/-- **What the bytes are decoded to**: a finalized bucket with the parameters of the bucket, the
same algorithm and the same key identifier, which is encoded as the same bytes. -/
theorem decodes : ∃ d, decodeProtected (.bytes p) = .ok d ∧ d.isFinalized = true ∧ b.SameData d ∧
    d.algorithm = b.algorithm ∧ d.kid = b.kid ∧ d.encode = .ok p := by
  refine ⟨_, h.decodeProtected_eq, rfl, fun l => ?_, ?_, ?_, rfl⟩
  · rw [h.rereads.find?_eq h.labelled l]
    rcases found : b.find? l with - | v
    · exact .none
    · exact .some ⟨_, Cbor.readAs_received (h.plain _ (mem_of_find? found)), .refl _⟩
  · rw [Bucket.algorithm, Bucket.algorithm, h.rereads.find?_eq_self h.labelled h.valid (.inl rfl)]
  · rw [Bucket.kid, Bucket.kid, h.rereads.find?_eq_self h.labelled h.valid (.inr rfl)]

end Written

/-- **Received bytes stay**, in whatever form the entries stand there. -/
theorem encode_of_decodeProtected {raw : Bytes} (decoded : decodeProtected (.bytes raw) = .ok b) :
    b.encode = .ok raw := by
  obtain ⟨-, isProtected, q, same, fixed⟩ := wellFormed_of_decodeProtected decoded
  cases same
  rw [Bucket.encode, isProtected, fixed]
  rfl

/-- **The protected encoding is canonical.** Two buckets that were built in any way are encoded as
the same bytes exactly if they hold the same labels with the same data; the bytes of a bucket
without entries are empty, and those of no other. What is decoded from the bytes is finalized and
holds the parameters of the bucket, with the same algorithm and key identifier, and is encoded as
the same bytes; so is whatever is decoded from any bytes. -/
theorem protected_encoding_canonical :
    (∀ (b b' : Bucket) (p p' : Bytes), b.Written p → b'.Written p' →
      (p = p' ↔ b.SameData b')) ∧
    (∀ (b : Bucket) (p : Bytes), b.Written p →
      (p = [] ↔ b.entries = []) ∧
        ∃ d, decodeProtected (.bytes p) = .ok d ∧ d.isFinalized = true ∧ b.SameData d ∧
          d.algorithm = b.algorithm ∧ d.kid = b.kid ∧ d.encode = .ok p) ∧
    ∀ (raw : Bytes) (d : Bucket), decodeProtected (.bytes raw) = .ok d → d.encode = .ok raw := by
  refine ⟨fun b b' p p' h h' => ⟨?_, h.eq_of_sameData h'⟩, fun b p h => ⟨h.eq_nil_iff, h.decodes⟩,
    fun raw d => encode_of_decodeProtected⟩
  rintro rfl
  exact h.sameData_of_eq h'

/-- A bucket with an algorithm, a key identifier and a map under a label of its own. -/
def builtOnce : Bucket :=
  let b : Bucket := { isProtected := true }
  let b := (b.apply (.set (.text "alg") (.text "ES256"))).after
  let b := (b.apply (.set (.int 4) (.bytes [0x31]))).after
  (b.apply (.set (.text "x")
    (.map [(.int 1, .tuple [.buffer [7]]), (.text "a", .bool true)]))).after

/-- The same parameters in another order, under other spellings, one of them overwritten. -/
def builtTwice : Bucket :=
  let b : Bucket := { isProtected := true }
  let b := (b.apply (.set (.text "x")
    (.map [(.text "a", .bool true), (.int 1, .list [.bytes [7]])]))).after
  let b := (b.apply (.set (.int 1) (.int 5))).after
  let b := (b.apply (.set (.text "kid") (.bytes [0x31]))).after
  (b.apply (.set (.text "alg") (.int (-7)))).after

/-- The encoded entries of the map inside the two buckets, in the order in which they stand. -/
def builtWithin : List (Bytes × Bytes) :=
  [([1], [0x81, 0x41, 7]), ([0x61, 0x61], [0xf5])]

/-- The encoded entries of the two buckets, in the order in which they stand. -/
def builtEntries : List (Bytes × Bytes) :=
  [([1], [0x26]), ([4], [0x41, 0x31]), ([0x61, 0x78], Cbor.joinEntries builtWithin)]

-- Evaluation does not go through the sorting of entries, so the order is given by the lemma for it.

theorem encode_builtOnce : builtOnce.encode = .ok (Cbor.joinEntries builtEntries) := by
  have within : Cbor.arrange .canonical builtWithin = builtWithin :=
    Cbor.arrange_of_sorted (.refl _) (by decide) (by decide)
  have outside : Cbor.arrange .canonical builtEntries = builtEntries :=
    Cbor.arrange_of_sorted (.refl _) (by decide) (by decide)
  rw [← outside, builtEntries, ← within]
  with_unfolding_all rfl

theorem encode_builtTwice : builtTwice.encode = .ok (Cbor.joinEntries builtEntries) := by
  have within : Cbor.arrange .canonical [([0x61, 0x61], [0xf5]), ([1], [0x81, 0x41, 7])] =
      builtWithin := Cbor.arrange_of_sorted (by decide) (by decide) (by decide)
  have outside : Cbor.arrange .canonical [([0x61, 0x78], Cbor.joinEntries builtWithin),
      ([1], [0x26]), ([4], [0x41, 0x31])] = builtEntries :=
    Cbor.arrange_of_sorted (by decide) (by decide) (by decide)
  rw [← outside, ← within]
  with_unfolding_all rfl

/-- The two buckets are encoded as the same bytes, so they hold the same data, and the algorithm is
the one that is decoded. -/
theorem protected_encoding_canonical_twice :
    let p : Bytes := [0xa3, 1, 0x26, 4, 0x41, 0x31, 0x61, 0x78, 0xa2, 1, 0x81, 0x41, 7, 0x61, 0x61,
      0xf5]
    builtOnce.Written p ∧ builtTwice.Written p ∧ builtOnce.SameData builtTwice ∧
      ∃ d, decodeProtected (.bytes p) = .ok d ∧ d.algorithm = .ok (some .es256) ∧
        d.encode = .ok p := by
  intro p
  have fresh : Built { isProtected := true } := @Built.new .none _ rfl
  have map {k k' v w : Value} (simple : k.IsSimpleKey) (simple' : k'.IsSimpleKey) (apart : k ≠ k')
      (value : v.Plain SimpleKeys 2) (value' : w.Plain SimpleKeys 2) :
      (Value.map [(k, v), (k', w)]).Plain SimpleKeys (Cbor.maxDepth - 1) := by
    have within : (Value.map [(k, v), (k', w)]).Plain SimpleKeys 3 := by
      refine .map ⟨by simpa using apart, by simpa using ⟨simple, simple'⟩⟩ ?_ ?_
      · simpa using ⟨simple.plain 0, simple'.plain 0⟩
      · simpa using ⟨value, value'⟩
    exact within.mono (by decide)
  have once : builtOnce.Written p := by
    refine ⟨((fresh.change _).change _).change _, ?_, encode_builtOnce, by decide⟩
    have entries : builtOnce.entries = [(.alg, .int (-7)), (.kid, .bytes [0x31]),
      (.text "x", .map [(.int 1, .tuple [.buffer [7]]), (.text "a", .bool true)])] := rfl
    rw [Bucket.Plain, entries]
    simp only [List.forall_mem_cons]
    exact ⟨.bigInt _ _, .bytes _ _, map (.int 1) (.text "a") (by simp)
      (.tuple (by simpa using .buffer 0 [7])) (.bool 1 true),
      fun e he => absurd he List.not_mem_nil⟩
  have twice : builtTwice.Written p := by
    refine ⟨(((fresh.change _).change _).change _).change _, ?_, encode_builtTwice, by decide⟩
    have entries : builtTwice.entries =
      [(.text "x", .map [(.text "a", .bool true), (.int 1, .list [.bytes [7]])]),
        (.alg, .int (-7)), (.kid, .bytes [0x31])] := rfl
    rw [Bucket.Plain, entries]
    simp only [List.forall_mem_cons]
    exact ⟨map (.text "a") (.int 1) (by simp) (.bool 1 true)
      (.list (by simpa using .bytes 0 [7])), .bigInt _ _, .bytes _ _,
      fun e he => absurd he List.not_mem_nil⟩
  obtain ⟨d, decoded, -, -, algorithm, -, again⟩ := (protected_encoding_canonical.2.1 _ p once).2
  exact ⟨once, twice, (protected_encoding_canonical.1 _ _ p p once twice).mp rfl, d, decoded,
    algorithm.trans rfl, again⟩

end Cose.Bucket
