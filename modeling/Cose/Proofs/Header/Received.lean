import Cose.Proofs.Header.Rules

/-!
# Headers that are received

Headers are received as a byte string with a map in it, and a map. They are taken exactly if the
keys of both maps are labels, none of which is spelled twice, and the parameters obey the rules.
The integers in the maps of received headers are those of the buckets that are made from them. If
all of them can be written, so can those of the buckets, and the headers are refused with errors
about what was received only, or with those that the reader lets through.

## Main definitions

* `Bucket.Lists`, `Bucket.InBytes`, `Bucket.InMap`: buckets as they stand in what is received
* `Layer.Received`: headers that are taken
* `Layer.Writable`: all integers in the maps that are received can be written

## Main results

* `Layer.decode_eq_ok_iff_received`: which headers are taken
* `Layer.fails_decode`: the errors of receiving headers
* `Layer.legible_of_decode`: the headers that have been received
-/

namespace Cose

/-! ## What is taken -/

namespace Bucket

/-- **The entries that a map lists**: its keys spell labels, and no label is spelled twice. -/
structure Lists (pairs : List (Value × Value)) (es : List (Label × Value)) : Prop where
  loaded : List.Forall₂ Loaded pairs es
  distinct : (es.map Prod.fst).Nodup

/-- A protected bucket stands in a byte string, which is empty or begins with a map. The bytes
are those that the bucket is fixed to. -/
inductive InBytes [Cbor.Reader] : Value → Bucket → Prop
  | empty : InBytes (.bytes []) { isProtected := true, fixed := some [] }
  | map {b : Bytes} {pairs : List (Value × Value)} {es : List (Label × Value)}
      (nonempty : b ≠ []) (read : Cbor.Reader.read b = .ok (.map pairs)) (lists : Lists pairs es) :
      InBytes (.bytes b) { isProtected := true, entries := es, fixed := some b }

/-- An unprotected bucket stands in a map. -/
inductive InMap : Value → Bucket → Prop
  | map {pairs : List (Value × Value)} {es : List (Label × Value)} (lists : Lists pairs es) :
      InMap (.map pairs) { isProtected := false, entries := es }

theorem InMap.lists {pairs : List (Value × Value)} {b : Bucket} (h : InMap (.map pairs) b) :
    Lists pairs b.entries := by
  cases h with
  | map lists => exact lists

theorem load_nil_eq_ok_iff_lists {pairs : List (Value × Value)} {es : List (Label × Value)} :
    load [] pairs = .ok es ↔ Lists pairs es :=
  load_nil_eq_ok_iff.trans ⟨fun ⟨loaded, distinct⟩ => ⟨loaded, distinct⟩,
    fun ⟨loaded, distinct⟩ => ⟨loaded, distinct⟩⟩

theorem decodeProtected_eq_ok_iff [Cbor.Reader] {v : Value} {b : Bucket} :
    decodeProtected v = .ok b ↔ InBytes v b := by
  constructor
  · intro h
    unfold decodeProtected at h
    split at h
    · cases h
      exact .empty
    · next nonempty =>
      split at h
      · cases h
      · cases h
      · next read =>
        obtain ⟨es, loads, rfl⟩ := Except.map_eq_ok.mp h
        exact .map nonempty read (load_nil_eq_ok_iff_lists.mp loads)
      · cases h
    · cases h
  · intro h
    cases h with
    | empty => rfl
    | @map b pairs es nonempty read lists =>
      cases b with
      | nil => exact absurd rfl nonempty
      | cons x b =>
        simp only [decodeProtected, read, load_nil_eq_ok_iff_lists.mpr lists]
        rfl

theorem decodeUnprotected_eq_ok_iff {v : Value} {b : Bucket} :
    decodeUnprotected v = .ok b ↔ InMap v b := by
  constructor
  · intro h
    unfold decodeUnprotected at h
    split at h
    · obtain ⟨es, loads, rfl⟩ := Except.map_eq_ok.mp h
      exact .map (load_nil_eq_ok_iff_lists.mp loads)
    · cases h
  · rintro ⟨lists⟩
    rw [decodeUnprotected, load_nil_eq_ok_iff_lists.mpr lists]
    rfl

end Bucket

/-- Headers that are taken: both buckets stand in what is received, and obey the rules. -/
structure Layer.Received [Cbor.Reader] (prot unprot : Value) (h : Layer) : Prop where
  prot : Bucket.InBytes prot h.prot
  unprot : Bucket.InMap unprot h.unprot
  obeys : h.Obeys

theorem Layer.sided_of_buckets [Cbor.Reader] {prot unprot : Value} {h : Layer} (p : Bucket.InBytes prot h.prot)
    (u : Bucket.InMap unprot h.unprot) : h.Sided := by
  obtain ⟨b, c⟩ := h
  refine ⟨?_, ?_⟩
  · cases p <;> rfl
  · cases u
    rfl

/-- **Which headers are taken.** -/
theorem Layer.decode_eq_ok_iff_received [Cbor.Reader] {prot unprot : Value} {h : Layer} :
    decode prot unprot = .ok h ↔ Received prot unprot h := by
  constructor
  · intro decoded
    obtain ⟨p, hp, decoded⟩ := Except.bind_eq_ok.mp decoded
    obtain ⟨u, hu, decoded⟩ := Except.bind_eq_ok.mp decoded
    simp only at decoded
    split at decoded
    · next checked =>
      cases decoded
      have inBytes := Bucket.decodeProtected_eq_ok_iff.mp hp
      have inMap := Bucket.decodeUnprotected_eq_ok_iff.mp hu
      have sided : Sided ⟨p, u⟩ := sided_of_buckets inBytes inMap
      exact ⟨inBytes, inMap, (check_eq_ok_iff_obeys sided).mp checked⟩
    · cases decoded
    · cases decoded
  · rintro ⟨inBytes, inMap, obeys⟩
    have checked := (check_eq_ok_iff_obeys (sided_of_buckets inBytes inMap)).mpr obeys
    rw [decode, Bucket.decodeProtected_eq_ok_iff.mpr inBytes,
      Bucket.decodeUnprotected_eq_ok_iff.mpr inMap]
    simp only [Except.ok_bind, checked]
    rfl

/-! ## What is refused -/

namespace Layer

/-- The headers that are received can be written: all integers in both maps can, those of the
protected one as they stand in its bytes. -/
structure Writable [Cbor.Reader] (prot unprot : Value) : Prop where
  prot : ∀ b v, prot = .bytes b → Cbor.Reader.read b = .ok v → v.isWritable = true
  unprot : unprot.isWritable = true

end Layer

namespace Bucket

variable {es loaded : List (Label × Value)} {pairs : List (Value × Value)}

section Fails

variable {P : Error → Bool} (rule : ∀ f, P (.decode f) = true)

include rule

theorem fails_load
    (unwritable : ¬ Value.entriesAreWritable pairs = true → P (.fault .value) = true) :
    Fails P (load es pairs) := by
  induction pairs generalizing es with
  | nil => exact .ok _
  | cons p pairs ih =>
    obtain ⟨k, v⟩ := p
    rw [load]
    split
    · exact .error (rule _)
    · next e other failed =>
      cases k <;> cases failed <;> exact absurd rfl (other _)
    · next l spelled =>
      rw [Value.entriesAreWritable, Bool.and_eq_true, Bool.and_eq_true] at unwritable
      split
      · by_cases key : k.isWritable = true
        · rw [Label.isWritable_of_ofValue spelled key]
          exact .error (rule _)
        · exact .error (Error.writing_of (rule _) (unwritable fun h => key h.1.1) _)
      · exact ih fun rest => unwritable fun h => rest h.2

/-- Of a protected bucket what is received fails with an error about that, or because an integer in
it cannot be written, or with an error of the reader. -/
theorem fails_decodeProtected [Cbor.Reader] {v : Value}
    (unwritable : ∀ b w, v = .bytes b → Cbor.Reader.read b = .ok w → ¬ w.isWritable = true →
      P (.fault .value) = true)
    (lets : ∀ b fault, v = .bytes b → b ≠ [] → Cbor.Raises b fault → P (.fault fault) = true) :
    Fails P (decodeProtected v) := by
  unfold decodeProtected
  split
  · exact .ok _
  · next b nonempty =>
    split
    · exact .error (rule _)
    · next fault raised => exact .error (lets b fault rfl nonempty raised)
    · next read => exact (fails_load rule (unwritable b _ rfl read)).map _
    · exact .error (rule _)
  · exact .error (rule _)

theorem fails_decodeUnprotected {v : Value}
    (unwritable : ¬ v.isWritable = true → P (.fault .value) = true) :
    Fails P (decodeUnprotected v) := by
  unfold decodeUnprotected
  split
  · exact (fails_load rule unwritable).map _
  · exact .error (rule _)

end Fails

theorem legible_of_load (writable : Value.entriesAreWritable pairs = true)
    (h : load [] pairs = .ok loaded) (isProtected : Bool) (fixed : Option Bytes) :
    Legible { isProtected, entries := loaded, fixed } := by
  have answers := (load_nil_eq_ok_iff.mp h).1
  have each : ∀ e ∈ loaded, e.1.isWritable = true ∧ e.2.isWritable = true := by
    intro e mem
    obtain ⟨p, there, spelled, value⟩ := Forall₂.exists_left answers mem
    obtain ⟨key, kept⟩ := Value.isWritable_of_mem_entries writable there
    exact ⟨Label.isWritable_of_ofValue spelled key, value ▸ kept⟩
  refine ⟨fun l mem => ?_, fun e mem => (each e mem).2⟩
  obtain ⟨e, there, rfl⟩ := List.mem_map.mp mem
  exact (each e there).1

theorem legible_of_decodeProtected [Cbor.Reader] {b : Bytes} {bucket : Bucket}
    (writable : ∀ v, Cbor.Reader.read b = .ok v → v.isWritable = true)
    (h : decodeProtected (.bytes b) = .ok bucket) : bucket.Legible := by
  unfold decodeProtected at h
  split at h
  · cases h
    exact ⟨nofun, nofun⟩
  · next b _ given =>
    cases given
    split at h
    · cases h
    · cases h
    · next es read =>
      obtain ⟨loaded, loads, rfl⟩ := Except.map_eq_ok.mp h
      exact legible_of_load (writable _ read) loads true (some b)
    · cases h
  · cases h

theorem legible_of_decodeUnprotected {v : Value} {bucket : Bucket} (writable : v.isWritable = true)
    (h : decodeUnprotected v = .ok bucket) : bucket.Legible := by
  unfold decodeUnprotected at h
  split at h
  · obtain ⟨loaded, loads, rfl⟩ := Except.map_eq_ok.mp h
    exact legible_of_load writable loads false none
  · cases h

end Bucket

namespace Layer

variable {prot unprot : Value} {h : Layer}

theorem legible_of_buckets [Cbor.Reader] {p u : Bucket} (writable : Writable prot unprot)
    (hp : Bucket.decodeProtected prot = .ok p) (hu : Bucket.decodeUnprotected unprot = .ok u) :
    Legible ⟨p, u⟩ := by
  obtain ⟨-, -, b, rfl, -⟩ := Bucket.wellFormed_of_decodeProtected hp
  exact ⟨Bucket.legible_of_decodeProtected (writable.prot b · rfl) hp,
    Bucket.legible_of_decodeUnprotected writable.unprot hu⟩

/-- **Headers that are received** are refused with errors about what was received, or because an
integer in them cannot be written, or with an error of the reader. -/
theorem fails_decode [Cbor.Reader] {P : Error → Bool} (rule : ∀ f, P (.decode f) = true)
    (unwritable : ¬ Writable prot unprot → P (.fault .value) = true)
    (lets : ∀ b fault, prot = .bytes b → b ≠ [] → Cbor.Raises b fault → P (.fault fault) = true) :
    Fails P (decode prot unprot) := by
  rw [decode]
  rcases hp : Bucket.decodeProtected prot with e | p
  · refine .error (Bucket.fails_decodeProtected rule ?_ lets e hp)
    exact fun b v bytes read other => unwritable fun writable => other (writable.prot b v bytes read)
  rcases hu : Bucket.decodeUnprotected unprot with e | u
  · refine .error (Bucket.fails_decodeUnprotected rule ?_ e hu)
    exact fun other => unwritable fun writable => other writable.unprot
  simp only [Except.ok_bind]
  split
  · exact .ok _
  · exact .error (rule _)
  · next e other failed =>
    refine .error ?_
    by_cases writable : Writable prot unprot
    · obtain ⟨fault, rfl⟩ := (legible_of_buckets writable hp hu).check_eq_error failed
      exact absurd rfl (other fault)
    · have header : e.isHeader = true := Layer.isHeader_check _ e failed
      cases e with
      | header fault => exact absurd rfl (other fault)
      | fault f => cases f <;> first | exact unwritable writable | cases header
      | _ => cases header

/-- **Headers that have been received** can be written as well. -/
theorem legible_of_decode [Cbor.Reader] (writable : Writable prot unprot) (hd : decode prot unprot = .ok h) :
    h.Legible := by
  obtain ⟨p, hp, hd⟩ := Except.bind_eq_ok.mp hd
  obtain ⟨u, hu, hd⟩ := Except.bind_eq_ok.mp hd
  simp only at hd
  split at hd
  · cases hd
    exact legible_of_buckets writable hp hu
  · cases hd
  · cases hd

end Layer

end Cose
