import Cose.Proofs.Errors
import Cose.Proofs.Message.RoundTrip

/-!
# Messages on the wire

The three kinds of message travel in one format. Whatever is encoded comes back with the same
headers, payload and signatures, and is encoded as the same bytes again; whatever is received is
sent on with its protected headers byte for byte, and is received as the same message.

## Main definitions

* `Message`: the three kinds of message
* `Message.WellFormed`, `Message.Plain`: the messages that operations leave, and those whose header
  values are plain data
* `Layer.SameHeaders`: a layer with the same headers
* `protectedFields`: the protected headers in an encoded message

## Main results

* `Message.wellFormed_of_decode`: messages that are received are well formed
* `Message.wire_round_trip`: encoding and decoding, for all kinds of message
-/

namespace Cose

open Cbor (received maxDepth)

/-! ## Headers that are the same -/

/-- The same parameters: the same labels, in some order, with values that stand for the old
ones. -/
def Bucket.SameEntries (b b' : Bucket) : Prop :=
  ∃ es, List.Forall₂ (fun d e => d.1 = e.1 ∧ d.2.ReadAs e.2) b.entries es ∧ es.Perm b'.entries

theorem Bucket.Rereads.sameEntries {f : Value → Value} {b b' : Bucket} {n : Nat}
    (h : Rereads f b b') (plain : b.Plain Value.SimpleKeys n) : b.SameEntries b' := by
  refine ⟨_, ?_, h.entries.symm⟩
  rw [List.forall₂_map_right_iff, List.forall₂_same]
  exact fun e he => ⟨rfl, h.rereading.readAs (plain e he)⟩

/-- The same headers: the protected bucket is fixed to the bytes that it was encoded as, and
both buckets have the same parameters. -/
structure Layer.SameHeaders (h h' : Layer) : Prop where
  bytes : ∃ p, h.prot.encode = .ok p ∧ h'.prot.fixed = some p
  prot : h.prot.SameEntries h'.prot
  unprot : h.unprot.SameEntries h'.unprot

theorem Layer.ReadBack.sameHeaders {p : Bytes} {h h' : Layer} {n : Nat} (r : ReadBack p h h')
    (wf : h.WellFormed) (plain : h.Plain Value.SimpleKeys n) : h.SameHeaders h' := by
  obtain ⟨f, prot⟩ := r.prot
  exact ⟨⟨p, r.encoded, r.fixed⟩, prot.sameEntries plain.prot,
    (r.rereads_unprot wf).sameEntries plain.unprot⟩

/-! ## The protected headers of an encoded message -/

/-- The first element of an array. -/
def Value.firstItem : Value → Value
  | .list (x :: _) => x
  | v => v

/-- The protected headers in an encoded message as they stand there: those of the message, then
those of its entries if it has any. -/
def protectedFields [Cbor.Reader] (shape : Shape) (data : Value) : Except Error (List Value) :=
  (decodeTagged shape data).map fun (prot, _, _, last) =>
    prot :: match last with
      | .list entries => entries.map Value.firstItem
      | _ => []

/-- The protected header that a received layer is fixed to. -/
def Layer.protectedField (h : Layer) : Value :=
  .ofBytes? h.prot.fixed

theorem Layer.protectedField_of_decode {h : Layer} {prot unprot : Value}
    (hd : decode prot unprot = .ok h) : h.protectedField = prot := by
  obtain ⟨-, -, p, rfl, -, decoded⟩ := wellFormed_of_decode hd
  obtain ⟨-, -, q, hq, fixed⟩ := Bucket.wellFormed_of_decodeProtected decoded
  cases hq
  rw [protectedField, fixed]
  rfl

/-! ## The errors of receiving

Entries and messages are refused with errors about what was received, or with those that their
elements and headers are refused with. -/

section Errors

variable [Cbor.Reader] {P : Error → Bool} (rule : ∀ f, P (.decode f) = true) {v : Value}

include rule

theorem Entry.fails_decode (layer : ∀ prot unprot signature, v = .list [prot, unprot, signature] →
    Fails P (Layer.decode prot unprot)) : Fails P (decode v) := by
  unfold decode
  split
  · simp only
    split
    · exact .error (rule _)
    · exact (layer _ _ _ rfl).bind fun _ => .ok _
  · exact .error (rule _)

theorem Sign1.fails_decode (tagged : Fails P (decodeTagged .sign1 v))
    (layer : ∀ prot unprot payload signature,
      decodeTagged .sign1 v = .ok (prot, unprot, payload, signature) →
        Fails P (Layer.decode prot unprot)) : Fails P (decode v) := by
  rw [decode]
  rcases elements : decodeTagged .sign1 v with e | ⟨prot, unprot, payload, signature⟩
  · exact .error (tagged e elements)
  simp only [Except.ok_bind]
  split
  · exact .error (rule _)
  · exact (layer _ _ _ _ elements).bind fun _ =>
      (fails_decodePayload rule payload).bind fun _ => .ok _

theorem Mac0.fails_decode (tagged : Fails P (decodeTagged .mac0 v))
    (layer : ∀ prot unprot payload tag,
      decodeTagged .mac0 v = .ok (prot, unprot, payload, tag) →
        Fails P (Layer.decode prot unprot)) : Fails P (decode v) := by
  rw [decode]
  rcases elements : decodeTagged .mac0 v with e | ⟨prot, unprot, payload, tag⟩
  · exact .error (tagged e elements)
  simp only [Except.ok_bind]
  split
  · exact .error (rule _)
  · exact (layer _ _ _ _ elements).bind fun _ =>
      (fails_decodePayload rule payload).bind fun _ => .ok _

theorem Sign.fails_decode (tagged : Fails P (decodeTagged .sign v))
    (layer : ∀ prot unprot payload last,
      decodeTagged .sign v = .ok (prot, unprot, payload, last) → Fails P (Layer.decode prot unprot))
    (entries : ∀ prot unprot payload items,
      decodeTagged .sign v = .ok (prot, unprot, payload, .list items) →
        ∀ x ∈ items, Fails P (Entry.decode x)) : Fails P (decode v) := by
  rw [decode]
  rcases elements : decodeTagged .sign v with e | ⟨prot, unprot, payload, last⟩
  · exact .error (tagged e elements)
  refine (layer _ _ _ _ elements).bind fun _ => ?_
  split
  · next x xs =>
    refine (fails_decodePayload rule payload).bind fun _ => Fails.bind ?_ fun _ => .ok _
    exact .mapM (entries _ _ _ _ elements)
  · exact .error (rule _)

end Errors

/-! ## Messages -/

/-- **A message** of one of the three kinds. -/
inductive Message where
  | sign (m : Sign)
  | sign1 (m : Sign1)
  | mac0 (m : Mac0)

namespace Message

/-- The kind of a message. -/
def shape : Message → Shape
  | .sign _ => .sign
  | .sign1 _ => .sign1
  | .mac0 _ => .mac0

/-- The encoded form of a message. -/
def encode : Message → Except Error Bytes
  | .sign m => m.encode
  | .sign1 m => m.encode
  | .mac0 m => m.encode

/-- A message of a kind from its encoded form. -/
def decode [Cbor.Reader] (shape : Shape) (data : Value) : Except Error Message :=
  match shape with
  | .sign => (Sign.decode data).map .sign
  | .sign1 => (Sign1.decode data).map .sign1
  | .mac0 => (Mac0.decode data).map .mac0

/-- The layers of a message: its own, and those of its entries in order. -/
def layers : Message → List Layer
  | .sign m => m.toLayer :: m.entries.map Entry.toLayer
  | .sign1 m => [m.toLayer]
  | .mac0 m => [m.toLayer]

/-- The payload of a message. -/
def payload : Message → Value
  | .sign m => m.payload
  | .sign1 m => m.payload
  | .mac0 m => m.payload

/-- The signatures of a message in order, or its tag. -/
def signatures : Message → List Value
  | .sign m => m.entries.map Entry.signature
  | .sign1 m => [m.signature]
  | .mac0 m => [m.tag]

/-- A well-formed message: the bytes of finalized buckets belong to their entries, and payload
and signatures are of the right types. -/
def WellFormed : Message → Prop
  | .sign m => m.WellFormed
  | .sign1 m => m.WellFormed
  | .mac0 m => m.WellFormed

/-- The header values of a message are plain data, nested no deeper than a reader goes. -/
def Plain (keys : List Value → Prop) : Message → Prop
  | .sign m => m.Plain keys
  | .sign1 m => m.toLayer.Plain keys (maxDepth - 3)
  | .mac0 m => m.toLayer.Plain keys (maxDepth - 3)

variable {m : Message} {shape : Shape} {data : Value} {b : Bytes}

/-- **Messages that are received** are well formed. -/
theorem wellFormed_of_decode (h : decode shape data = .ok m) : m.WellFormed := by
  cases shape with
  | sign =>
    obtain ⟨m, decoded, rfl⟩ := Except.map_eq_ok.mp h
    exact Sign.wellFormed_of_decode decoded
  | sign1 =>
    obtain ⟨m, decoded, rfl⟩ := Except.map_eq_ok.mp h
    exact Sign1.wellFormed_of_decode decoded
  | mac0 =>
    obtain ⟨m, decoded, rfl⟩ := Except.map_eq_ok.mp h
    exact Mac0.wellFormed_of_decode decoded

/-- An encoded message comes back with the same headers, payload and signatures, and is encoded as
the same bytes. -/
theorem decode_encode (wf : m.WellFormed) (plain : m.Plain Value.SimpleKeys)
    (h : m.encode = .ok b) (fits : b.length < 2 ^ 64) :
    ∃ m', decode m.shape (.bytes b) = .ok m' ∧ m'.payload = m.payload ∧
      m'.signatures = m.signatures.map (fun v => .bytes v.content) ∧
      List.Forall₂ Layer.SameHeaders m.layers m'.layers ∧ m'.encode = .ok b := by
  cases m with
  | sign m =>
    obtain ⟨p, m', decoded, back, payload, entries, -⟩ :=
      Sign.decode_encode wf plain (fun _ h => h) h fits
    have again := Sign.encode_of_readBack wf plain back payload entries h
    refine ⟨.sign m', by rw [shape, decode, decoded]; rfl, payload, ?_, ?_, again⟩
    · rw [signatures, signatures, List.map_map]
      exact (Forall₂.map_eq_map entries fun s s' back => back.2.symm).symm
    · refine .cons (back.sameHeaders wf.layer plain.layer) ?_
      rw [List.forall₂_map_left_iff, List.forall₂_map_right_iff]
      refine Forall₂.imp_of_mem entries fun s hs s' _ back => ?_
      obtain ⟨⟨p, back⟩, -⟩ := back
      exact back.sameHeaders (wf.entries s hs).layer (plain.entries s hs)
  | sign1 m =>
    obtain ⟨p, m', decoded, back, payload, signature, -⟩ :=
      Sign1.decode_encode wf plain (fun _ h => h) h fits
    have again := Sign1.encode_of_readBack wf plain back payload signature
    exact ⟨.sign1 m', by rw [shape, decode, decoded]; rfl, payload, congrArg ([·]) signature,
      .cons (back.sameHeaders wf.layer plain) .nil, again.trans h⟩
  | mac0 m =>
    obtain ⟨p, m', decoded, back, payload, tag, -⟩ :=
      Mac0.decode_encode wf plain (fun _ h => h) h fits
    have tagged := (Mac0.encode_eq_ok h).1
    have again := Mac0.encode_of_readBack wf tagged plain back payload tag
    exact ⟨.mac0 m', by rw [shape, decode, decoded]; rfl, payload, congrArg ([·]) tag,
      .cons (back.sameHeaders wf.layer plain) .nil, again.trans h⟩

/-- The protected headers of a message that is received are those that stand there. -/
theorem protectedFields_of_decode (h : decode shape data = .ok m) :
    protectedFields shape data = .ok (m.layers.map Layer.protectedField) := by
  cases shape with
  | sign =>
    obtain ⟨m, decoded, rfl⟩ := Except.map_eq_ok.mp h
    obtain ⟨prot, unprot, xs, elements, -, layer, -, each, -⟩ := Sign.decode_eq_ok decoded
    have fields : xs.map Value.firstItem =
        (m.entries.map Entry.toLayer).map Layer.protectedField := by
      rw [List.map_map]
      refine Forall₂.map_eq_map each fun x s decoded => ?_
      obtain ⟨prot, unprot, rfl, layer, -⟩ := Entry.decode_eq_ok decoded
      exact (Layer.protectedField_of_decode layer).symm
    rw [protectedFields, elements, layers, List.map_cons, Layer.protectedField_of_decode layer,
      ← fields]
    rfl
  | sign1 =>
    obtain ⟨m, decoded, rfl⟩ := Except.map_eq_ok.mp h
    obtain ⟨prot, unprot, elements, layer, -, signature, -⟩ := Sign1.decode_eq_ok decoded
    rw [protectedFields, elements, layers, List.map_singleton,
      Layer.protectedField_of_decode layer, signature]
    rfl
  | mac0 =>
    obtain ⟨m, decoded, rfl⟩ := Except.map_eq_ok.mp h
    obtain ⟨prot, unprot, elements, layer, -, tag, -⟩ := Mac0.decode_eq_ok decoded
    rw [protectedFields, elements, layers, List.map_singleton,
      Layer.protectedField_of_decode layer, tag]
    rfl

/-- A message that was received has an encoded form, from which it comes back as itself. -/
theorem encode_of_decode (h : decode shape data = .ok m)
    (plain : ∀ l ∈ m.layers, l.HasPlainValues) :
    ∃ b, m.encode = .ok b ∧ (b.length < 2 ^ 64 → decode shape (.bytes b) = .ok m) := by
  cases shape with
  | sign =>
    obtain ⟨m, decoded, rfl⟩ := Except.map_eq_ok.mp h
    rw [layers, List.forall_mem_cons, List.forall_mem_map] at plain
    obtain ⟨b, hb, again⟩ := Sign.encode_of_decode decoded plain.1 plain.2
    exact ⟨b, hb, fun fits => by rw [decode, again fits]; rfl⟩
  | sign1 =>
    obtain ⟨m, decoded, rfl⟩ := Except.map_eq_ok.mp h
    rw [layers, List.forall_mem_singleton] at plain
    obtain ⟨b, hb, again⟩ := Sign1.encode_of_decode decoded plain
    exact ⟨b, hb, fun fits => by rw [decode, again fits]; rfl⟩
  | mac0 =>
    obtain ⟨m, decoded, rfl⟩ := Except.map_eq_ok.mp h
    rw [layers, List.forall_mem_singleton] at plain
    obtain ⟨b, hb, again⟩ := Mac0.encode_of_decode decoded plain
    exact ⟨b, hb, fun fits => by rw [decode, again fits]; rfl⟩

/-- **The wire format.** A message with plain header values that is encoded comes back with the same
payload, signatures, protected bytes and parameters, entry by entry, and is encoded as the same
bytes. A message with plain header values that was received, however it was written, has an encoded
form, in which every protected header stands as it was received, and from which the message comes
back as itself. -/
theorem wire_round_trip :
    (∀ m : Message, m.WellFormed → m.Plain Value.SimpleKeys →
      ∀ b, m.encode = .ok b → b.length < 2 ^ 64 →
        ∃ m', decode m.shape (.bytes b) = .ok m' ∧ m'.payload = m.payload ∧
          m'.signatures = m.signatures.map (fun v => .bytes v.content) ∧
          List.Forall₂ Layer.SameHeaders m.layers m'.layers ∧ m'.encode = .ok b) ∧
      ∀ (shape : Shape) (data : Value) (m : Message), decode shape data = .ok m →
        (∀ l ∈ m.layers, l.HasPlainValues) →
        ∃ b, m.encode = .ok b ∧ (b.length < 2 ^ 64 →
          protectedFields shape (.bytes b) = protectedFields shape data ∧
            decode shape (.bytes b) = .ok m) := by
  refine ⟨fun m wf plain b h fits => decode_encode wf plain h fits, ?_⟩
  intro shape data m h plain
  obtain ⟨b, hb, again⟩ := encode_of_decode h plain
  refine ⟨b, hb, fun fits => ⟨?_, again fits⟩⟩
  rw [protectedFields_of_decode (again fits), protectedFields_of_decode h]

/-- A signed message without a payload whose only parameter is a key identifier. -/
def signedSample : Message :=
  .sign1
    { prot := { isProtected := true }
      unprot := { isProtected := false, entries := [(.kid, .bytes [0x31])] }
      payload := .null
      signature := .bytes [7]
      state := .signed }

/-- The sample comes back from its ten bytes, and is sent on as the same bytes. -/
theorem wire_round_trip_sample :
    let b : Bytes := [0xd2, 0x84, 0x40, 0xa1, 4, 0x41, 0x31, 0xf6, 0x41, 7]
    ∃ m, decode .sign1 (.bytes b) = .ok m ∧ m.payload = .null ∧ m.signatures = [.bytes [7]] ∧
      m.encode = .ok b := by
  intro b
  have labelled : Bucket.Labelled
      { isProtected := false, entries := [(.kid, .bytes [0x31])] } :=
    ⟨List.nodup_singleton _, by simp [Bucket.labels, Label.IsCanonical]; rfl⟩
  have wf : signedSample.WellFormed :=
    ⟨⟨(Bucket.labelled_empty _ _).wellFormed rfl, labelled.wellFormed rfl, rfl, rfl⟩, .null,
      .bytes _⟩
  have plain : signedSample.Plain Value.SimpleKeys := by
    refine ⟨fun e he => absurd he List.not_mem_nil, fun e he => ?_⟩
    rw [List.mem_singleton.mp he]
    exact .bytes _ _
  obtain ⟨m, decoded, payload, signatures, -, encoded⟩ :=
    wire_round_trip.1 signedSample wf plain b (by rfl) (by decide)
  exact ⟨m, decoded, payload, signatures, encoded⟩

end Message

end Cose
