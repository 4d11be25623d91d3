import Cose.Proofs.Header.Received
import Cose.Proofs.Message.Wire

/-!
# What is taken as a message

Bytes are taken as a message of a kind exactly if they begin with the tag of the kind around four
elements: two for the headers, which have to be such as are taken, the payload, and what the kind
signs or tags with. For the kind with several signers the last element lists entries, which have
headers of their own. All else is refused, and with an error about what was received, unless an
integer cannot be written or the reader raises an error of its own. All this is so for every reader.

## Main definitions

* `Entry.Received`, `Message.Received`: the entries and messages that are taken
* `Message.HeadersWritable`: headers whose integers can be written
* `Message.Raises`: the errors of the reader that get through

## Main results

* `Message.decode_eq_ok_iff_received`: which data is taken as a message
* `Message.decode_eq_error`: the errors of all other data
* `Message.acceptance`: both for every kind of message and all data
-/

namespace Cose

section Reader

variable [Cbor.Reader]

/-- **An entry that is taken**: an array of its headers and its signature. -/
inductive Entry.Received : Value → Entry → Prop
  | array {prot unprot : Value} {signature : Bytes} {h : Layer} (layer : h.Received prot unprot) :
      Received (.list [prot, unprot, .bytes signature]) { h with signature := .bytes signature }

/-- **Which arrays are taken as entries.** -/
theorem Entry.decode_eq_ok_iff_received {v : Value} {s : Entry} :
    decode v = .ok s ↔ Received v s := by
  constructor
  · intro h
    obtain ⟨prot, unprot, rfl, layer, isBytes⟩ := decode_eq_ok h
    obtain ⟨own, signature⟩ := s
    obtain ⟨b, rfl⟩ : ∃ b, signature = .bytes b := ⟨_, isBytes⟩
    exact .array (Layer.decode_eq_ok_iff_received.mp layer)
  · rintro ⟨layer⟩
    simp only [decode, Layer.decode_eq_ok_iff_received.mpr layer, Value.isBytes]
    rfl

namespace Message

/-- **A message that is taken.** A message with one signer may have an empty signature, but no
message has an empty tag, and none for several signers is without entries. -/
inductive Received : Shape → Value → Message → Prop
  | sign1 {data prot unprot payload : Value} {signature : Bytes} {h : Layer}
      (carries : Carries .sign1 data prot unprot payload (.bytes signature))
      (layer : h.Received prot unprot) (isPayload : payload.IsPayload) :
      Received .sign1 data
        (.sign1
          { h with
            payload, signature := .bytes signature, state := Sign1.stateFor (.bytes signature) })
  | mac0 {data prot unprot payload : Value} {tag : Bytes} {h : Layer}
      (carries : Carries .mac0 data prot unprot payload (.bytes tag)) (nonempty : tag ≠ [])
      (layer : h.Received prot unprot) (isPayload : payload.IsPayload) :
      Received .mac0 data (.mac0 { h with payload, tag := .bytes tag, state := .signed })
  | sign {data prot unprot payload : Value} {items : List Value} {entries : List Entry} {h : Layer}
      (carries : Carries .sign data prot unprot payload (.list items)) (nonempty : items ≠ [])
      (layer : h.Received prot unprot) (isPayload : payload.IsPayload)
      (each : List.Forall₂ Entry.Received items entries) :
      Received .sign data
        (.sign { h with payload, entries, state := Sign.stateFor entries })

variable {shape : Shape} {data : Value} {m : Message}

theorem received_of_decode (h : decode shape data = .ok m) : Received shape data m := by
  cases shape with
  | sign =>
    obtain ⟨⟨own, payload, entries, state⟩, decoded, rfl⟩ := Except.map_eq_ok.mp h
    obtain ⟨prot, unprot, items, elements, nonempty, layer, isPayload, each, state_eq⟩ :=
      Sign.decode_eq_ok decoded
    have each := each.imp fun _ _ => Entry.decode_eq_ok_iff_received.mp
    obtain rfl : state = Sign.stateFor entries := state_eq
    exact .sign (decodeTagged_eq_ok_iff.mp elements) nonempty
      (Layer.decode_eq_ok_iff_received.mp layer) isPayload each
  | sign1 =>
    obtain ⟨⟨own, payload, signature, state⟩, decoded, rfl⟩ := Except.map_eq_ok.mp h
    obtain ⟨prot, unprot, elements, layer, isPayload, isBytes, state_eq⟩ :=
      Sign1.decode_eq_ok decoded
    obtain ⟨b, rfl⟩ : ∃ b, signature = .bytes b := ⟨_, isBytes⟩
    obtain rfl : state = Sign1.stateFor (.bytes b) := state_eq
    exact .sign1 (decodeTagged_eq_ok_iff.mp elements) (Layer.decode_eq_ok_iff_received.mp layer)
      isPayload
  | mac0 =>
    obtain ⟨⟨own, payload, tag, state⟩, decoded, rfl⟩ := Except.map_eq_ok.mp h
    obtain ⟨prot, unprot, elements, layer, isPayload, isBytes, tagged, state_eq⟩ :=
      Mac0.decode_eq_ok decoded
    obtain ⟨b, rfl⟩ : ∃ b, tag = .bytes b := ⟨_, isBytes⟩
    obtain rfl : state = .signed := state_eq.trans (if_pos tagged)
    have nonempty : b ≠ [] := by
      rintro rfl
      cases tagged
    exact .mac0 (decodeTagged_eq_ok_iff.mp elements) nonempty
      (Layer.decode_eq_ok_iff_received.mp layer) isPayload

theorem decode_of_received (h : Received shape data m) : decode shape data = .ok m := by
  cases h with
  | sign carries nonempty layer isPayload each =>
    have items := Except.mapM_eq_ok.mpr (each.imp fun _ _ => Entry.decode_eq_ok_iff_received.mpr)
    obtain ⟨x, xs, rfl⟩ := List.exists_cons_of_ne_nil nonempty
    rw [decode, Sign.decode, decodeTagged_eq_ok_iff.mpr carries]
    simp only [Except.ok_bind, Layer.decode_eq_ok_iff_received.mpr layer,
      isPayload.decodePayload_eq, items]
    rfl
  | sign1 carries layer isPayload =>
    rw [decode, Sign1.decode, decodeTagged_eq_ok_iff.mpr carries]
    simp only [Except.ok_bind, Value.isBytes, Layer.decode_eq_ok_iff_received.mpr layer,
      isPayload.decodePayload_eq]
    rfl
  | mac0 carries nonempty layer isPayload =>
    obtain ⟨x, xs, rfl⟩ := List.exists_cons_of_ne_nil nonempty
    rw [decode, Mac0.decode, decodeTagged_eq_ok_iff.mpr carries]
    simp only [Except.ok_bind, Layer.decode_eq_ok_iff_received.mpr layer,
      isPayload.decodePayload_eq]
    rfl

/-- **Which data is taken as a message.** -/
theorem decode_eq_ok_iff_received : decode shape data = .ok m ↔ Received shape data m :=
  ⟨received_of_decode, decode_of_received⟩

/-! ## What is refused -/

/-- All integers in the headers can be written: in those of the message and in those of its
entries none has more digits than a numeral may have. -/
structure HeadersWritable (shape : Shape) (data : Value) : Prop where
  layer : ∀ prot unprot payload last, Carries shape data prot unprot payload last →
    Layer.Writable prot unprot
  entries : ∀ prot unprot payload items, Carries shape data prot unprot payload (.list items) →
    shape = .sign → ∀ p u s, .list [p, u, s] ∈ items → Layer.Writable p u

/-- An error of the reader gets through: it is raised over the data and is none of types, or it is
raised over the protected header of the message or of an entry. -/
inductive Raises (data : Value) (fault : Fault) : Shape → Prop
  | data {shape : Shape} {b : Bytes} (bytes : data.bytes? = some b) (raised : Cbor.Raises b fault)
      (untyped : fault.kind.isA .type = false) : Raises data fault shape
  | layer {shape : Shape} {b : Bytes} {unprot payload last : Value}
      (carries : Carries shape data (.bytes b) unprot payload last) (nonempty : b ≠ [])
      (raised : Cbor.Raises b fault) : Raises data fault shape
  | entry {b : Bytes} {prot unprot payload u s : Value} {items : List Value}
      (carries : Carries .sign data prot unprot payload (.list items))
      (mem : .list [.bytes b, u, s] ∈ items) (nonempty : b ≠ [])
      (raised : Cbor.Raises b fault) : Raises data fault .sign

/-- All other data is refused with an error about what was received, or because an integer in its
headers cannot be written, or with an error of the reader. -/
theorem fails_decode {P : Error → Bool} (rule : ∀ f, P (.decode f) = true)
    (unwritable : ¬ HeadersWritable shape data → P (.fault .value) = true)
    (lets : ∀ fault, Raises data fault shape → P (.fault fault) = true) :
    Fails P (decode shape data) := by
  have tagged : Fails P (decodeTagged shape data) :=
    fails_decodeTagged rule shape fun b fault bytes raised untyped =>
      lets fault (.data bytes raised untyped)
  have layer (prot unprot payload last : Value)
      (elements : decodeTagged shape data = .ok (prot, unprot, payload, last)) :
      Fails P (Layer.decode prot unprot) := by
    have carries := decodeTagged_eq_ok_iff.mp elements
    refine Layer.fails_decode rule (fun other => unwritable fun writable => ?_) ?_
    · exact other (writable.layer _ _ _ _ carries)
    · rintro b fault rfl nonempty raised
      exact lets fault (.layer carries nonempty raised)
  cases shape with
  | sign =>
    refine (Sign.fails_decode rule tagged layer ?_).map _
    intro prot unprot payload items elements v mem
    have carries := decodeTagged_eq_ok_iff.mp elements
    refine Entry.fails_decode rule fun p u s triple => ?_
    subst triple
    refine Layer.fails_decode rule (fun other => unwritable fun writable => ?_) ?_
    · exact other (writable.entries _ _ _ _ carries rfl p u s mem)
    · rintro b fault rfl nonempty raised
      exact lets fault (.entry carries mem nonempty raised)
  | sign1 => exact (Sign1.fails_decode rule tagged layer).map _
  | mac0 => exact (Mac0.fails_decode rule tagged layer).map _

/-- **Why data is refused**: because of what was received, or of an integer that cannot be written, or
of the reader. -/
theorem decode_eq_error {e : Error} (failed : decode shape data = .error e) :
    (∃ fault, e = .decode fault) ∨ e = .fault .value ∧ ¬ HeadersWritable shape data ∨
      ∃ fault, Raises data fault shape ∧ e = .fault fault := by
  classical
  have fails : Fails (fun e => decide ((∃ fault, e = .decode fault) ∨
      e = .fault .value ∧ ¬ HeadersWritable shape data ∨
        ∃ fault, Raises data fault shape ∧ e = .fault fault)) (decode shape data) := by
    refine fails_decode (fun f => ?_) (fun other => ?_) fun fault raises => ?_
    · exact decide_eq_true (.inl ⟨f, rfl⟩)
    · exact decide_eq_true (.inr (.inl ⟨rfl, other⟩))
    · exact decide_eq_true (.inr (.inr ⟨fault, raises, rfl⟩))
  exact of_decide_eq_true (fails e failed)

/-- **What is taken as a message.** For every reader, every kind of message and all data: data is taken
exactly if it carries four elements with headers that are taken, a payload, and what the kind signs
or tags with; the message that it is taken as is made of these. All other data is refused with an
error about what was received, if the integers in its headers can be written and the reader does not
raise an error of its own. -/
theorem acceptance (shape : Shape) (data : Value) :
    (∀ m, decode shape data = .ok m ↔ Received shape data m) ∧
      (HeadersWritable shape data → (∀ fault, ¬ Raises data fault shape) →
        (∀ m, ¬ Received shape data m) → ∃ fault, decode shape data = .error (.decode fault)) := by
  refine ⟨fun m => decode_eq_ok_iff_received, fun writable quiet free => ?_⟩
  rcases decoded : decode shape data with e | m
  · rcases decode_eq_error decoded with ⟨fault, rfl⟩ | ⟨-, other⟩ | ⟨fault, raises, -⟩
    · exact ⟨fault, rfl⟩
    · exact absurd writable other
    · exact absurd raises (quiet fault)
  · exact absurd (received_of_decode decoded) (free m)

end Message

end Reader

namespace Message

/-- A message is taken with its key identifier, and is refused with two algorithms, one under the
alias of the label. -/
theorem acceptance_alias :
    let once : Value := .bytes [0xd2, 0x84, 0x40, 0xa1, 4, 0x41, 0x31, 0xf6, 0x41, 7]
    let twice : Value :=
      .bytes [0xd2, 0x84, 0x40, 0xa2, 1, 0x26, 0x63, 0x61, 0x6c, 0x67, 0x27, 0xf6, 0x41, 7]
    (∃ m, Received .sign1 once m) ∧ ∃ fault, decode .sign1 twice = .error (.decode fault) := by
  intro once twice
  have taken : ∃ m, decode .sign1 once = .ok m := ⟨_, rfl⟩
  refine ⟨taken.imp fun m => ((acceptance .sign1 once).1 m).mp, ?_⟩
  have read : decodeTagged .sign1 twice = .ok (.bytes [],
      .map [(.int 1, .int (-7)), (.text "alg", .int (-8))], .null, .bytes [7]) := by
    with_unfolding_all rfl
  have writable : HeadersWritable .sign1 twice := by
    constructor
    · intro prot unprot payload last carries
      cases read.symm.trans (decodeTagged_eq_ok_iff.mpr carries)
      refine ⟨fun b v same decoded => ?_, ?_⟩
      · cases same
        cases decoded
      · have short {n : Int} (h : n.natAbs < 10) : Text.isWritable n = true :=
          Text.isWritable_of_lt (h.trans (by decide))
        simp [Value.isWritable, Value.entriesAreWritable, @short 1 (by decide),
          @short (-7) (by decide), @short (-8) (by decide)]
    · intro prot unprot payload items carries
      cases read.symm.trans (decodeTagged_eq_ok_iff.mpr carries)
  have quiet (fault : Fault) : ¬ Raises twice fault .sign1 := by
    rintro (⟨bytes, raised, -⟩ | ⟨carries, nonempty, -⟩)
    · cases bytes
      obtain ⟨_, ⟨⟩, reads⟩ := decodeTagged_eq_ok_iff.mp read
      cases reads.symm.trans raised
    · cases read.symm.trans (decodeTagged_eq_ok_iff.mpr carries)
      exact nonempty rfl
  refine (acceptance .sign1 twice).2 writable quiet fun m received => ?_
  cases received with
  | sign1 carries layer isPayload =>
    cases read.symm.trans (decodeTagged_eq_ok_iff.mpr carries)
    obtain ⟨loaded, distinct⟩ := layer.unprot.lists
    obtain ⟨⟨l, v⟩, _, first, others, entries⟩ := List.forall₂_cons_left_iff.mp loaded
    obtain ⟨⟨l', v'⟩, _, second, -, rfl⟩ := List.forall₂_cons_left_iff.mp others
    have same : l = l' := Except.ok.inj (first.1.symm.trans second.1)
    simp [entries, same] at distinct

end Message

end Cose
