import Cose.Proofs.Header.Duplicates
import Cose.Proofs.Message.Acceptance

/-!
# Messages with labels that are received twice

A message is refused if the keys that are received in one of its header maps clash, in its own
headers or in those of an entry. Equal keys do not clash: the reader merges them before labels are
looked at, and the last value counts.

## Main results

* `Message.decode_of_clashes`, `Message.decode_of_clashes_entry`: messages that are refused
* `received_labels`: which header maps are refused, in buckets and in messages
* `received_labels_twice`: a label that is received twice in the same spelling is not refused
-/

namespace Cose

namespace Message

section Reader

variable [Cbor.Reader] {eq : Value → Value → Bool} {b : Bytes} {t : Nat}
  {prot unprot payload rest : Value}

/-- The elements of a message that is read behind a tag. -/
theorem decodeTagged_of_read
    (read : Cbor.Reader.read b = .ok (.tag t (.list [prot, unprot, payload, rest])))
    (shape : Shape) :
    decodeTagged shape (.bytes b) =
      if t = shape.tag then .ok (prot, unprot, payload, rest)
      else .error (.decode (.wrongTag shape)) := by
  rw [decodeTagged, readData, Value.bytes?]
  simp only [read]

/-- **A message whose own headers clash is refused**, unless the reader fails over the protected
ones. -/
theorem decode_of_clashes (reader : Cbor.MergesKeys eq)
    (read : Cbor.Reader.read b = .ok (.tag t (.list [prot, unprot, payload, rest])))
    (clashes : Layer.Clashes eq prot unprot) (shape : Shape) :
    ∃ e, decode shape (.bytes b) = .error e ∧
      ((∃ fault, e = .decode fault) ∨ ∃ fault, Raises (.bytes b) fault shape ∧ e = .fault fault) := by
  have tagged := decodeTagged_of_read read shape
  by_cases kind : t = shape.tag
  · subst kind
    rw [if_pos rfl] at tagged
    obtain ⟨e, failed, why⟩ : ∃ e, Layer.decode prot unprot = .error e ∧
        ((∃ fault, e = .decode fault) ∨
          ∃ fault, Raises (.bytes b) fault shape ∧ e = .fault fault) := by
      rcases Layer.decode_of_clashes reader clashes with
        ⟨fault, failed⟩ | ⟨p, fault, rfl, nonempty, raised, failed⟩
      · exact ⟨_, failed, .inl ⟨fault, rfl⟩⟩
      · exact ⟨_, failed, .inr ⟨fault, .layer ⟨b, rfl, read⟩ nonempty raised, rfl⟩⟩
    cases shape with
    | sign =>
      refine ⟨e, ?_, why⟩
      rw [decode, Sign.decode, tagged, Except.ok_bind]
      simp only [failed]
      rfl
    | sign1 =>
      rw [decode, Sign1.decode, tagged, Except.ok_bind]
      simp only [failed]
      split
      · exact ⟨_, rfl, .inl ⟨_, rfl⟩⟩
      · exact ⟨e, rfl, why⟩
    | mac0 =>
      rw [decode, Mac0.decode, tagged, Except.ok_bind]
      simp only [failed]
      split
      · exact ⟨_, rfl, .inl ⟨_, rfl⟩⟩
      · exact ⟨e, rfl, why⟩
  · rw [if_neg kind] at tagged
    refine ⟨.decode (.wrongTag shape), ?_, .inl ⟨_, rfl⟩⟩
    cases shape with
    | sign => rw [decode, Sign.decode, tagged]; rfl
    | sign1 => rw [decode, Sign1.decode, tagged]; rfl
    | mac0 => rw [decode, Mac0.decode, tagged]; rfl

/-- **A message is refused** if the headers of one of its entries clash, at the latest there. -/
theorem decode_of_clashes_entry (reader : Cbor.MergesKeys eq) {entries : List Value} {p u s : Value}
    (read : Cbor.Reader.read b = .ok (.tag t (.list [prot, unprot, payload, .list entries])))
    (mem : .list [p, u, s] ∈ entries) (clashes : Layer.Clashes eq p u) :
    ∃ e, decode .sign (.bytes b) = .error e := by
  rcases decodes : decode .sign (.bytes b) with e | m
  · exact ⟨e, rfl⟩
  exfalso
  obtain ⟨m, decodes, -⟩ := Except.map_eq_ok.mp decodes
  obtain ⟨prot', unprot', xs, elements, -, -, -, each, -⟩ := Sign.decode_eq_ok decodes
  rw [decodeTagged_of_read read] at elements
  split at elements
  · cases elements
    obtain ⟨i, hi⟩ := List.getElem?_of_mem mem
    obtain ⟨entry, -, decoded⟩ := Forall₂.exists_getElem? each hi
    obtain ⟨p', u', list_eq, layer, -⟩ := Entry.decode_eq_ok decoded
    cases list_eq
    rcases Layer.decode_of_clashes reader clashes with ⟨fault, failed⟩ | ⟨-, fault, -, -, -, failed⟩
    · cases failed.symm.trans layer
    · cases failed.symm.trans layer
  · cases elements

end Reader

end Message

/-- **Which header maps are refused.** The reader may be any that makes maps of the pairs that are
written, merging keys that are equal to it. A map that is received as a protected bucket is refused
exactly for a clash of the keys of these pairs; otherwise each label has the value of the last pair
with an equal key. A message is refused for a clash in a map of its own headers, or of the headers
of an entry. Its error is about what was received, except where the reader fails over a protected
header, or an integer in the headers of the message cannot be written. -/
theorem received_labels [Cbor.Reader] {eq : Value → Value → Bool} (reader : Cbor.MergesKeys eq)
    (b : Bytes) :
    (∀ pairs, b ≠ [] → Cbor.Reader.read b = .ok (.map (Value.entriesBy eq pairs)) →
      ((∃ fault, Bucket.decodeProtected (.bytes b) = .error (.decode fault)) ↔
        Clash eq (pairs.map Prod.fst)) ∧
      (¬ Clash eq (pairs.map Prod.fst) →
        ∃ bucket, Bucket.decodeProtected (.bytes b) = .ok bucket ∧
          ∀ k ∈ pairs.map Prod.fst, ∀ l, Label.ofValue k = .ok l →
            bucket.find? l = (pairs.reverse.find? fun e => eq e.1 k).map Prod.snd)) ∧
      (∀ shape t prot unprot payload rest,
        Cbor.Reader.read b = .ok (.tag t (.list [prot, unprot, payload, rest])) →
        Layer.Clashes eq prot unprot →
        ∃ e, Message.decode shape (.bytes b) = .error e ∧
          ((∃ fault, e = .decode fault) ∨
            ∃ fault, Message.Raises (.bytes b) fault shape ∧ e = .fault fault)) ∧
      ∀ t prot unprot payload entries p u s,
        Cbor.Reader.read b = .ok (.tag t (.list [prot, unprot, payload, .list entries])) →
        .list [p, u, s] ∈ entries → Layer.Clashes eq p u →
        ∃ e, Message.decode .sign (.bytes b) = .error e ∧
          ((∃ fault, e = .decode fault) ∨
            e = .fault .value ∧ ¬ Message.HeadersWritable .sign (.bytes b) ∨
            ∃ fault, Message.Raises (.bytes b) fault .sign ∧ e = .fault fault) := by
  refine ⟨?_, ?_, ?_⟩
  · intro pairs nonempty read
    obtain ⟨refused, accepted⟩ := Bucket.decodeProtected_of_read reader.equality nonempty read
    refine ⟨⟨?_, refused⟩, accepted⟩
    rintro ⟨fault, failed⟩
    by_contra free
    obtain ⟨bucket, ok, -⟩ := accepted free
    exact absurd (failed.symm.trans ok) (by simp)
  · intro shape t prot unprot payload rest read clashes
    exact Message.decode_of_clashes reader read clashes shape
  · intro t prot unprot payload entries p u s read mem clashes
    obtain ⟨e, failed⟩ := Message.decode_of_clashes_entry reader read mem clashes
    exact ⟨e, failed, Message.decode_eq_error failed⟩

/-- A map with two algorithms, under the label 1 and under its alias, is refused. -/
theorem received_labels_alias :
    let b : Bytes := [0xa2, 0x01, 0x26, 0x63, 0x61, 0x6c, 0x67, 0x27]
    Cbor.written? b = some (.map [(.int 1, .int (-7)), (.text "alg", .int (-8))]) ∧
      ∃ fault, Bucket.decodeProtected (.bytes b) = .error (.decode fault) := by
  intro b
  have written : Cbor.written? b =
      some (.map [(.int 1, .int (-7)), (.text "alg", .int (-8))]) := by rfl
  have read := Cbor.read_of_written written
  refine ⟨written, ((received_labels Cbor.mergesKeys_same b).1 _ (by decide) read).1.mpr ?_⟩
  refine @Clash.spelling _ _ 1 "alg" ?_ ?_ (by decide)
  · simp [Value.mergedEntries, Value.merged]
  · simp [Value.mergedEntries, Value.merged]

/-- A map with the label 1 twice, the second time with another algorithm. -/
def twiceAlgorithm : Bytes := [0xa2, 0x01, 0x26, 0x01, 0x27]

/-- A label that is received twice in the same spelling is not refused: the last value counts. -/
theorem received_labels_twice :
    Cbor.written? twiceAlgorithm = some (.map [(.int 1, .int (-7)), (.int 1, .int (-8))]) ∧
      ∃ bucket, Bucket.decodeProtected (.bytes twiceAlgorithm) = .ok bucket ∧
        bucket.find? .alg = some (.int (-8)) := by
  have written : Cbor.written? twiceAlgorithm =
      some (.map [(.int 1, .int (-7)), (.int 1, .int (-8))]) := by rfl
  have free : ¬ Clash Value.same [.int 1, .int 1] := by
    rintro (@⟨before, after, k, place, other, -⟩ | ⟨-, text, -⟩)
    · have mem : k ∈ [Value.int 1, .int 1] := place ▸ by simp
      simp only [List.mem_cons, List.not_mem_nil, or_false, or_self] at mem
      exact other (mem ▸ .int 1)
    · simp at text
  obtain ⟨bucket, ok, last⟩ := (Bucket.decodeProtected_of_read Value.keyEquality_same (by decide)
    (Cbor.read_of_written written)).2 free
  refine ⟨written, bucket, ok, ?_⟩
  rw [last (.int 1) (by simp [Value.mergedEntries, Value.merged]) .alg rfl]
  simp [Value.mergedEntries, Value.merged, Value.same, Value.sameAtom]

end Cose
