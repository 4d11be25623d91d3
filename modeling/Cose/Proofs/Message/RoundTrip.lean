import Cose.Message.Mac0
import Cose.Message.Sign
import Cose.Message.Sign1
import Cose.Proofs.Message.Envelope

/-!
# Encoded messages come back

A message of any of the three kinds that has an encoded form comes back from it with the same
headers, payload and signatures, and is encoded as the same bytes again. A message that was received
comes back unchanged. The three kinds differ in what stands last in the array: one signature, one
tag, or entries with headers of their own, which are arrays again.

## Main definitions

* `Sign1.WellFormed`, `Mac0.WellFormed`, `Entry.WellFormed`, `Sign.WellFormed`: the messages and
  entries that operations leave
* `Entry.ReadBack`: an entry that has come back from its encoded form
* `Sign.Plain`: a message whose header values are plain data

## Main results

* `Sign1.decode_encode`, `Mac0.decode_encode`, `Sign.decode_encode`: encoded messages come back
* `Sign1.encode_of_readBack`, `Mac0.encode_of_readBack`, `Sign.encode_of_readBack`: what has come
  back is encoded as before
* `Sign1.encode_of_decode`, `Mac0.encode_of_decode`, `Sign.encode_of_decode`: messages that were
  received come back as themselves
-/

namespace Cose

open Cbor (received maxDepth)

/-! ## One signature or tag -/

namespace Sign1

variable {m m' : Sign1} {keys : List Value → Prop} {b p : Bytes}

/-- **A well-formed message**: its layer is, and payload and signature are of the right types. -/
structure WellFormed (m : Sign1) : Prop where
  layer : m.toLayer.WellFormed
  payload : m.payload.IsPayload
  signature : m.signature.IsSignature

theorem wellFormed_of_ofSources {payload signature : Value} {prot unprot : Source}
    (hp : prot.WellFormed) (hu : unprot.WellFormed) (hs : signature.IsSignature)
    (h : ofSources payload prot unprot signature = .ok m) : m.WellFormed := by
  obtain ⟨layer, hl, h⟩ := Except.bind_eq_ok.mp h
  obtain ⟨payload', hpay, h⟩ := Except.bind_eq_ok.mp h
  cases h
  exact ⟨Layer.wellFormed_of_ofSources hp hu hl, .of_checkPayload hpay, hs⟩

theorem encode_eq_ok (h : m.encode = .ok b) :
    m.check = .ok () ∧ ∃ p, m.prot.encode = .ok p ∧
      encodeTagged .sign1 [.bytes p, .map m.unprot.toEntries, m.payload,
        m.signature.orElse (.bytes [])] = .ok b := by
  obtain ⟨elements, encoded, h⟩ := Except.bind_eq_ok.mp h
  obtain ⟨checked, p, hp, rfl⟩ := Layer.encode_eq_ok encoded
  exact ⟨checked, p, hp, h⟩

theorem encode_of_check (checked : m.check = .ok ()) (encoded : m.prot.encode = .ok p) :
    m.encode = encodeTagged .sign1 [.bytes p, .map m.unprot.toEntries, m.payload,
      m.signature.orElse (.bytes [])] := by
  rw [encode, Layer.encode_of_check checked encoded]
  rfl

/-- **An encoded message comes back.** -/
theorem decode_encode (wf : m.WellFormed) (plain : m.toLayer.Plain keys (maxDepth - 3))
    (simple : ∀ ks, Value.SimpleKeys ks → keys ks) (h : m.encode = .ok b)
    (fits : b.length < 2 ^ 64) :
    ∃ p m', decode (.bytes b) = .ok m' ∧ Layer.ReadBack p m.toLayer m'.toLayer ∧
      m'.payload = m.payload ∧ m'.signature = .bytes m.signature.content ∧
      m'.state = stateFor m'.signature := by
  obtain ⟨checked, p, encoded, tagged⟩ := encode_eq_ok h
  obtain ⟨u, h', elements, layer, back⟩ := wf.layer.decodeTagged_array plain simple checked encoded
    wf.payload wf.signature.plain tagged fits
  let signature : Value := .bytes m.signature.content
  refine ⟨p, ⟨h', m.payload, signature, stateFor signature⟩, ?_, back, rfl, rfl, rfl⟩
  rw [decode, elements, Except.ok_bind, wf.signature.received_eq]
  simp only [Value.isBytes, Bool.not_true, Bool.false_eq_true, if_false]
  rw [layer, wf.payload.decodePayload_eq]
  rfl

/-- **What has come back** is encoded as it was received. -/
theorem encode_of_readBack (wf : m.WellFormed)
    (plain : m.toLayer.Plain Value.SimpleKeys (maxDepth - 3))
    (back : Layer.ReadBack p m.toLayer m'.toLayer) (payload : m'.payload = m.payload)
    (signature : m'.signature = .bytes m.signature.content) : m'.encode = m.encode := by
  rw [encode_of_check (back.check wf.layer) back.prot_encode,
    encode_of_check back.checked back.encoded, payload, signature, Value.orElse_bytes,
    ← wf.signature.received_eq]
  exact back.encodeTagged_eq wf.layer plain.unprot wf.payload wf.signature.plain

theorem exists_encode (wf : m.WellFormed) (plain : m.toLayer.Plain keys (maxDepth - 3))
    (simple : ∀ ks, Value.SimpleKeys ks → keys ks) (checked : m.check = .ok ())
    (encoded : m.prot.encode = .ok p) : ∃ b, m.encode = .ok b := by
  rw [encode_of_check checked encoded]
  exact exists_encodeTagged
    (Layer.plain_array wf.layer plain.unprot simple wf.payload wf.signature.plain)

/-- What a message that is received is made of. -/
theorem decode_eq_ok [Cbor.Reader] {data : Value} (h : decode data = .ok m) :
    ∃ prot unprot, decodeTagged .sign1 data = .ok (prot, unprot, m.payload, m.signature) ∧
      Layer.decode prot unprot = .ok m.toLayer ∧ m.payload.IsPayload ∧
      m.signature = .bytes m.signature.content ∧ m.state = stateFor m.signature := by
  obtain ⟨⟨prot, unprot, payload, signature⟩, elements, h⟩ := Except.bind_eq_ok.mp h
  simp only at h
  split at h
  · cases h
  next isBytes =>
  obtain ⟨layer, hl, h⟩ := Except.bind_eq_ok.mp h
  obtain ⟨payload', hp, h⟩ := Except.bind_eq_ok.mp h
  cases h
  obtain ⟨isPayload, rfl⟩ := Value.IsPayload.of_decodePayload hp
  refine ⟨prot, unprot, elements, hl, isPayload, ?_, rfl⟩
  cases signature <;> first | rfl | exact absurd rfl isBytes

theorem wellFormed_of_decode {data : Value} (h : decode data = .ok m) : m.WellFormed := by
  obtain ⟨prot, unprot, -, layer, payload, signature, -⟩ := decode_eq_ok h
  exact ⟨(Layer.wellFormed_of_decode layer).1, payload, signature ▸ .bytes _⟩

/-- **A message that was received comes back as itself.** -/
theorem encode_of_decode {data : Value} (h : decode data = .ok m)
    (plain : m.toLayer.HasPlainValues) :
    ∃ b, m.encode = .ok b ∧ (b.length < 2 ^ 64 → decode (.bytes b) = .ok m) := by
  have wf := wellFormed_of_decode h
  obtain ⟨prot, unprot, elements, layer, -, signature, state⟩ := decode_eq_ok h
  obtain ⟨within, same⟩ := Layer.plain_of_decodeTagged elements layer plain
  obtain ⟨-, checked, p, -, encoded, -⟩ := Layer.wellFormed_of_decode layer
  obtain ⟨b, hb⟩ := exists_encode wf within (fun _ h => h) checked encoded
  refine ⟨b, hb, fun fits => ?_⟩
  obtain ⟨q, m', decoded, back, payload', signature', state'⟩ :=
    decode_encode wf within (fun _ h => h) hb fits
  have layer_eq := back.eq_of_decode layer same
  rw [← signature] at signature'
  have m_eq : m' = m := by
    calc m' = ⟨m'.toLayer, m'.payload, m'.signature, m'.state⟩ := rfl
      _ = ⟨m.toLayer, m.payload, m.signature, m.state⟩ := by
        rw [layer_eq, payload', state', signature', state]
      _ = m := rfl
  rw [decoded, m_eq]

end Sign1

namespace Mac0

variable {m m' : Mac0} {keys : List Value → Prop} {b p : Bytes}

/-- **A well-formed message**: its layer is, and payload and tag are of the right types. -/
structure WellFormed (m : Mac0) : Prop where
  layer : m.toLayer.WellFormed
  payload : m.payload.IsPayload
  tag : m.tag.IsSignature

theorem wellFormed_of_ofSources {payload tag : Value} {prot unprot : Source}
    (hp : prot.WellFormed) (hu : unprot.WellFormed) (ht : tag.IsSignature)
    (h : ofSources payload prot unprot tag = .ok m) : m.WellFormed := by
  obtain ⟨layer, hl, h⟩ := Except.bind_eq_ok.mp h
  obtain ⟨payload', hpay, h⟩ := Except.bind_eq_ok.mp h
  cases h
  exact ⟨Layer.wellFormed_of_ofSources hp hu hl, .of_checkPayload hpay, ht⟩

/-- Only a message that has a tag is encoded. -/
theorem encode_eq_ok (h : m.encode = .ok b) :
    m.tag.isTruthy = true ∧ m.check = .ok () ∧ ∃ p, m.prot.encode = .ok p ∧
      encodeTagged .mac0 [.bytes p, .map m.unprot.toEntries, m.payload,
        m.tag.orElse (.bytes [])] = .ok b := by
  rw [encode] at h
  split at h
  · cases h
  next absent =>
  have tagged : m.tag.isTruthy = true := by simpa using absent
  obtain ⟨elements, encoded, h⟩ := Except.bind_eq_ok.mp h
  obtain ⟨checked, p, hp, rfl⟩ := Layer.encode_eq_ok encoded
  rw [Value.orElse, if_pos tagged]
  exact ⟨tagged, checked, p, hp, h⟩

theorem encode_of_check (tagged : m.tag.isTruthy = true) (checked : m.check = .ok ())
    (encoded : m.prot.encode = .ok p) :
    m.encode = encodeTagged .mac0 [.bytes p, .map m.unprot.toEntries, m.payload,
      m.tag.orElse (.bytes [])] := by
  rw [encode, if_neg (by simp [tagged]), Layer.encode_of_check checked encoded, Value.orElse,
    if_pos tagged]
  rfl

theorem isTruthy_content (wf : m.WellFormed) (tagged : m.tag.isTruthy = true) :
    (Value.bytes m.tag.content).isTruthy = true := by
  have tag := wf.tag
  cases h : m.tag <;> rw [h] at tag tagged <;> first | exact tagged | cases tag

/-- **An encoded message comes back.** -/
theorem decode_encode (wf : m.WellFormed) (plain : m.toLayer.Plain keys (maxDepth - 3))
    (simple : ∀ ks, Value.SimpleKeys ks → keys ks) (h : m.encode = .ok b)
    (fits : b.length < 2 ^ 64) :
    ∃ p m', decode (.bytes b) = .ok m' ∧ Layer.ReadBack p m.toLayer m'.toLayer ∧
      m'.payload = m.payload ∧ m'.tag = .bytes m.tag.content ∧ m'.state = stateFor m'.tag := by
  obtain ⟨tagged, checked, p, encoded, array⟩ := encode_eq_ok h
  obtain ⟨u, h', elements, layer, back⟩ := wf.layer.decodeTagged_array plain simple checked encoded
    wf.payload wf.tag.plain array fits
  let tag : Value := .bytes m.tag.content
  refine ⟨p, ⟨h', m.payload, tag, stateFor tag⟩, ?_, back, rfl, rfl, rfl⟩
  rw [decode, elements, Except.ok_bind, wf.tag.received_eq]
  simp only [Value.isBytes, isTruthy_content wf tagged, Bool.and_self, Bool.not_true,
    Bool.false_eq_true, if_false]
  rw [layer, wf.payload.decodePayload_eq]
  rfl

/-- **What has come back** is encoded as it was received. -/
theorem encode_of_readBack (wf : m.WellFormed) (tagged : m.tag.isTruthy = true)
    (plain : m.toLayer.Plain Value.SimpleKeys (maxDepth - 3))
    (back : Layer.ReadBack p m.toLayer m'.toLayer) (payload : m'.payload = m.payload)
    (tag : m'.tag = .bytes m.tag.content) : m'.encode = m.encode := by
  rw [encode_of_check (tag ▸ isTruthy_content wf tagged) (back.check wf.layer) back.prot_encode,
    encode_of_check tagged back.checked back.encoded, payload, tag, Value.orElse_bytes,
    ← wf.tag.received_eq]
  exact back.encodeTagged_eq wf.layer plain.unprot wf.payload wf.tag.plain

theorem exists_encode (wf : m.WellFormed) (plain : m.toLayer.Plain keys (maxDepth - 3))
    (simple : ∀ ks, Value.SimpleKeys ks → keys ks) (tagged : m.tag.isTruthy = true)
    (checked : m.check = .ok ()) (encoded : m.prot.encode = .ok p) : ∃ b, m.encode = .ok b := by
  rw [encode_of_check tagged checked encoded]
  exact exists_encodeTagged
    (Layer.plain_array wf.layer plain.unprot simple wf.payload wf.tag.plain)

/-- What a message that is received is made of. -/
theorem decode_eq_ok [Cbor.Reader] {data : Value} (h : decode data = .ok m) :
    ∃ prot unprot, decodeTagged .mac0 data = .ok (prot, unprot, m.payload, m.tag) ∧
      Layer.decode prot unprot = .ok m.toLayer ∧ m.payload.IsPayload ∧
      m.tag = .bytes m.tag.content ∧ m.tag.isTruthy = true ∧ m.state = stateFor m.tag := by
  obtain ⟨⟨prot, unprot, payload, tag⟩, elements, h⟩ := Except.bind_eq_ok.mp h
  simp only at h
  split at h
  · cases h
  next valid =>
  have valid : tag.isBytes = true ∧ tag.isTruthy = true := by simpa using valid
  obtain ⟨layer, hl, h⟩ := Except.bind_eq_ok.mp h
  obtain ⟨payload', hp, h⟩ := Except.bind_eq_ok.mp h
  cases h
  obtain ⟨isPayload, rfl⟩ := Value.IsPayload.of_decodePayload hp
  refine ⟨prot, unprot, elements, hl, isPayload, ?_, valid.2, rfl⟩
  cases tag <;> first | rfl | exact absurd valid.1 Bool.false_ne_true

theorem wellFormed_of_decode {data : Value} (h : decode data = .ok m) : m.WellFormed := by
  obtain ⟨prot, unprot, -, layer, payload, tag, -⟩ := decode_eq_ok h
  exact ⟨(Layer.wellFormed_of_decode layer).1, payload, tag ▸ .bytes _⟩

/-- **A message that was received comes back as itself.** -/
theorem encode_of_decode {data : Value} (h : decode data = .ok m)
    (plain : m.toLayer.HasPlainValues) :
    ∃ b, m.encode = .ok b ∧ (b.length < 2 ^ 64 → decode (.bytes b) = .ok m) := by
  have wf := wellFormed_of_decode h
  obtain ⟨prot, unprot, elements, layer, -, tag, tagged, state⟩ := decode_eq_ok h
  obtain ⟨within, same⟩ := Layer.plain_of_decodeTagged elements layer plain
  obtain ⟨-, checked, p, -, encoded, -⟩ := Layer.wellFormed_of_decode layer
  obtain ⟨b, hb⟩ := exists_encode wf within (fun _ h => h) tagged checked encoded
  refine ⟨b, hb, fun fits => ?_⟩
  obtain ⟨q, m', decoded, back, payload', tag', state'⟩ :=
    decode_encode wf within (fun _ h => h) hb fits
  have layer_eq := back.eq_of_decode layer same
  rw [← tag] at tag'
  have m_eq : m' = m := by
    calc m' = ⟨m'.toLayer, m'.payload, m'.tag, m'.state⟩ := rfl
      _ = ⟨m.toLayer, m.payload, m.tag, m.state⟩ := by
        rw [layer_eq, payload', state', tag', state]
      _ = m := rfl
  rw [decoded, m_eq]

end Mac0

/-! ## Entries -/

namespace Entry

variable {s s' : Entry} {keys : List Value → Prop} {p : Bytes} {elements : List Value}

/-- **A well-formed entry**: its layer is, and its signature is of the right type. -/
structure WellFormed (s : Entry) : Prop where
  layer : s.toLayer.WellFormed
  signature : s.signature.IsSignature

/-- An entry that has come back from its encoded form. -/
def ReadBack (s s' : Entry) : Prop :=
  (∃ p, Layer.ReadBack p s.toLayer s'.toLayer) ∧ s'.signature = .bytes s.signature.content

theorem wellFormed_of_ofSources {signature : Value} {prot unprot : Source}
    (hp : prot.WellFormed) (hu : unprot.WellFormed) (hs : signature.IsSignature)
    (h : ofSources prot unprot signature = .ok s) : s.WellFormed := by
  obtain ⟨layer, hl, h⟩ := Except.bind_eq_ok.mp h
  cases h
  exact ⟨Layer.wellFormed_of_ofSources hp hu hl, hs⟩

theorem encode_eq_ok (h : s.encode = .ok elements) :
    s.check = .ok () ∧ ∃ p, s.prot.encode = .ok p ∧
      elements = [.bytes p, .map s.unprot.toEntries, s.signature.orElse (.bytes [])] := by
  obtain ⟨headers, encoded, h⟩ := Except.bind_eq_ok.mp h
  obtain ⟨checked, p, hp, rfl⟩ := Layer.encode_eq_ok encoded
  cases h
  exact ⟨checked, p, hp, rfl⟩

theorem encode_of_check (checked : s.check = .ok ()) (encoded : s.prot.encode = .ok p) :
    s.encode =
      .ok [.bytes p, .map s.unprot.toEntries, s.signature.orElse (.bytes [])] := by
  rw [encode, Layer.encode_of_check checked encoded]
  rfl

/-- The elements of an entry are plain data. -/
theorem plain_of_encode (wf : s.WellFormed) (plain : s.toLayer.Plain keys (maxDepth - 5))
    (simple : ∀ ks, Value.SimpleKeys ks → keys ks) (h : s.encode = .ok elements) :
    (Value.list elements).Plain keys (maxDepth - 3) := by
  obtain ⟨-, p, -, rfl⟩ := encode_eq_ok h
  refine .list ?_
  simp only [List.forall_mem_cons]
  exact ⟨.bytes _ p, plain.unprot.toEntries wf.layer.unprot.labelled simple, wf.signature.plain,
    fun v hv => absurd hv List.not_mem_nil⟩

/-- The elements of an entry as they are read back. -/
theorem received_elements (wf : s.WellFormed) (m : Value) :
    received .plain (.list [.bytes p, m, s.signature.orElse (.bytes [])]) false =
      .list [.bytes p, received .plain m false, .bytes s.signature.content] := by
  rw [Cbor.received_list, if_neg Bool.false_ne_true, List.map_cons, List.map_cons, List.map_cons,
    wf.signature.received_eq]
  rfl

/-- An encoded entry comes back. -/
theorem decode_received (wf : s.WellFormed) (plain : s.toLayer.Plain keys (maxDepth - 5))
    (simple : ∀ ks, Value.SimpleKeys ks → keys ks) (h : s.encode = .ok elements) {b : Bytes}
    (encoded : Cbor.encode .plain (.list elements) = some b) (fits : b.length < 2 ^ 64) :
    ∃ s', decode (received .plain (.list elements) false) = .ok s' ∧ ReadBack s s' := by
  obtain ⟨checked, p, hp, rfl⟩ := encode_eq_ok h
  have short : p.length < 2 ^ 64 := by
    have part := (Cbor.length_bytesOf_le encoded (List.mem_cons_self ..)).2
    have own := Cbor.length_le_bytesOf .plain p
    omega
  obtain ⟨h', decoded, back⟩ := wf.layer.decode_received checked plain.prot simple hp short
  refine ⟨⟨h', .bytes s.signature.content⟩, ?_, ⟨p, back⟩, rfl⟩
  rw [received_elements wf, decode]
  simp only [Value.isBytes, Bool.not_true, Bool.false_eq_true, if_false]
  rw [decoded]
  rfl

/-- **What has come back** is encoded as it was received. -/
theorem encode_of_readBack (wf : s.WellFormed) (back : ReadBack s s')
    (h : s.encode = .ok elements) :
    ∃ elements', s'.encode = .ok elements' ∧
      received .plain (.list elements) false = .list elements' := by
  obtain ⟨⟨p, back⟩, signature⟩ := back
  obtain ⟨-, q, hq, rfl⟩ := encode_eq_ok h
  have q_eq : q = p := Except.ok.inj (hq.symm.trans back.encoded)
  refine ⟨_, encode_of_check (back.check wf.layer) back.prot_encode, ?_⟩
  rw [received_elements wf, q_eq, back.map_unprot wf.layer, signature, Value.orElse_bytes]

/-- The same for entries in order: they are encoded as their elements were read. -/
theorem encode_all_of_readBack {ss ss' : List Entry} {es : List (List Value)}
    (each : List.Forall₂ (fun s e => Entry.encode s = .ok e) ss es)
    (backs : List.Forall₂ ReadBack ss ss') (wf : ∀ s ∈ ss, s.WellFormed) :
    ∃ es', List.Forall₂ (fun s e => Entry.encode s = .ok e) ss' es' ∧
      es.map (fun e => received .plain (.list e) false) = es'.map .list := by
  induction each generalizing ss' with
  | nil =>
    cases backs
    exact ⟨[], .nil, rfl⟩
  | cons encoded _ ih =>
    rcases backs with _ | ⟨back, backs⟩
    rw [List.forall_mem_cons] at wf
    obtain ⟨e', encoded', same⟩ := encode_of_readBack wf.1 back encoded
    obtain ⟨es', each', others⟩ := ih backs wf.2
    exact ⟨e' :: es', .cons encoded' each', by rw [List.map_cons, List.map_cons, same, others]⟩

/-- What an entry that is received is made of. -/
theorem decode_eq_ok [Cbor.Reader] {v : Value} (h : decode v = .ok s) :
    ∃ prot unprot, v = .list [prot, unprot, s.signature] ∧
      Layer.decode prot unprot = .ok s.toLayer ∧ s.signature = .bytes s.signature.content := by
  unfold decode at h
  split at h
  · next prot unprot signature =>
    simp only at h
    split at h
    · cases h
    next isBytes =>
    obtain ⟨layer, hl, h⟩ := Except.bind_eq_ok.mp h
    cases h
    refine ⟨prot, unprot, rfl, hl, ?_⟩
    cases signature <;> first | rfl | exact absurd rfl isBytes
  · cases h

theorem wellFormed_of_decode {v : Value} (h : decode v = .ok s) : s.WellFormed := by
  obtain ⟨prot, unprot, -, layer, signature⟩ := decode_eq_ok h
  exact ⟨(Layer.wellFormed_of_decode layer).1, signature ▸ .bytes _⟩

/-- The elements of an entry that was received. -/
theorem exists_encode_of_decode {v : Value} (h : decode v = .ok s) :
    ∃ elements, s.encode = .ok elements := by
  obtain ⟨prot, unprot, -, layer, -⟩ := decode_eq_ok h
  obtain ⟨-, checked, p, -, encoded, -⟩ := Layer.wellFormed_of_decode layer
  exact ⟨_, encode_of_check checked encoded⟩

theorem plain_of_decode {v : Value} {k : Nat} (h : decode v = .ok s)
    (given : Cbor.Gives (Cbor.decodeItem k false) v) (le : k ≤ maxDepth - 3)
    (plain : s.toLayer.HasPlainValues) :
    s.toLayer.Plain Value.SimpleKeys (maxDepth - 5) ∧
      s.unprot.readEntries .plain = s.unprot.entries := by
  obtain ⟨prot, unprot, rfl, layer, -⟩ := decode_eq_ok h
  obtain ⟨j, lt, items⟩ := given.nests
  exact Layer.plain_of_gives layer (items unprot (by simp)) (by omega) plain

/-- An entry that was received comes back as itself. -/
theorem ReadBack.eq_of_decode {v : Value} (back : ReadBack s s') (h : decode v = .ok s)
    (same : s.unprot.readEntries .plain = s.unprot.entries) : s' = s := by
  obtain ⟨⟨p, back⟩, signature'⟩ := back
  obtain ⟨prot, unprot, -, layer, signature⟩ := decode_eq_ok h
  calc s' = ⟨s'.toLayer, s'.signature⟩ := rfl
    _ = ⟨s.toLayer, s.signature⟩ := by
      rw [back.eq_of_decode layer same, signature', ← signature]
    _ = s := rfl

end Entry

/-! ## Several signatures -/

namespace Sign

variable {m m' : Sign} {keys : List Value → Prop} {b p : Bytes} {elements : List (List Value)}

/-- **A well-formed message**: its layer and entries are, and its payload is of the right type. -/
structure WellFormed (m : Sign) : Prop where
  layer : m.toLayer.WellFormed
  payload : m.payload.IsPayload
  entries : ∀ s ∈ m.entries, s.WellFormed

/-- The header values of a message are plain data; those of its entries have two levels less. -/
structure Plain (keys : List Value → Prop) (m : Sign) : Prop where
  layer : m.toLayer.Plain keys (maxDepth - 3)
  entries : ∀ s ∈ m.entries, s.toLayer.Plain keys (maxDepth - 5)

theorem wellFormed_of_ofSources {payload : Value} {prot unprot : Source} {entries : List Entry}
    (hp : prot.WellFormed) (hu : unprot.WellFormed) (hs : ∀ s ∈ entries, s.WellFormed)
    (h : ofSources payload prot unprot entries = .ok m) : m.WellFormed := by
  obtain ⟨layer, hl, h⟩ := Except.bind_eq_ok.mp h
  obtain ⟨payload', hpay, h⟩ := Except.bind_eq_ok.mp h
  cases h
  exact ⟨Layer.wellFormed_of_ofSources hp hu hl, .of_checkPayload hpay, hs⟩

theorem encode_eq_ok (h : m.encode = .ok b) :
    m.entries ≠ [] ∧ m.check = .ok () ∧ ∃ p elements, m.prot.encode = .ok p ∧
      List.Forall₂ (fun s e => Entry.encode s = .ok e) m.entries elements ∧
      encodeTagged .sign [.bytes p, .map m.unprot.toEntries, m.payload,
        .list (elements.map .list)] = .ok b := by
  rw [encode] at h
  split at h
  · cases h
  next nonempty =>
  obtain ⟨headers, encoded, h⟩ := Except.bind_eq_ok.mp h
  obtain ⟨elements, each, h⟩ := Except.bind_eq_ok.mp h
  obtain ⟨checked, p, hp, rfl⟩ := Layer.encode_eq_ok encoded
  exact ⟨by simpa using nonempty, checked, p, elements, hp, Except.mapM_eq_ok.mp each, h⟩

theorem encode_of_check (nonempty : m.entries ≠ []) (checked : m.check = .ok ())
    (encoded : m.prot.encode = .ok p)
    (each : List.Forall₂ (fun s e => Entry.encode s = .ok e) m.entries elements) :
    m.encode = encodeTagged .sign [.bytes p, .map m.unprot.toEntries, m.payload,
      .list (elements.map .list)] := by
  rw [encode, if_neg (by simpa using nonempty), Layer.encode_of_check checked encoded,
    Except.ok_bind, Except.mapM_eq_ok.mpr each]
  rfl

/-- The array of entries is plain data. -/
theorem plain_elements (wf : m.WellFormed) (plain : m.Plain keys)
    (simple : ∀ ks, Value.SimpleKeys ks → keys ks)
    (each : List.Forall₂ (fun s e => Entry.encode s = .ok e) m.entries elements) :
    (Value.list (elements.map .list)).Plain keys (maxDepth - 2) := by
  refine .list ?_
  rw [List.forall_mem_map]
  intro e he
  obtain ⟨s, hs, encoded⟩ := Forall₂.exists_left each he
  exact Entry.plain_of_encode (wf.entries s hs) (plain.entries s hs) simple encoded

/-- The array of entries as it is read back. -/
theorem received_elements (elements : List (List Value)) :
    received .plain (.list (elements.map .list)) false =
      .list (elements.map fun e => received .plain (.list e) false) := by
  rw [Cbor.received_list, if_neg Bool.false_ne_true, List.map_map]
  rfl

/-- **An encoded message comes back.** -/
theorem decode_encode (wf : m.WellFormed) (plain : m.Plain keys)
    (simple : ∀ ks, Value.SimpleKeys ks → keys ks) (h : m.encode = .ok b)
    (fits : b.length < 2 ^ 64) :
    ∃ p m', decode (.bytes b) = .ok m' ∧ Layer.ReadBack p m.toLayer m'.toLayer ∧
      m'.payload = m.payload ∧ List.Forall₂ Entry.ReadBack m.entries m'.entries ∧
      m'.state = stateFor m'.entries := by
  obtain ⟨nonempty, checked, p, elements, encoded, each, tagged⟩ := encode_eq_ok h
  have last := plain_elements wf plain simple each
  obtain ⟨u, h', array, layer, back⟩ := wf.layer.decodeTagged_array plain.layer simple checked
    encoded wf.payload last tagged fits
  -- Every entry is part of the array of entries, which is part of the message.
  have short : ∀ e ∈ elements, ∃ c, Cbor.encode .plain (.list e) = some c ∧ c.length < 2 ^ 64 := by
    intro e he
    obtain ⟨c, hc, rfl⟩ := encodeTagged_eq_ok tagged
    obtain ⟨inner, part⟩ := Cbor.length_bytesOf_le hc (x := .list (elements.map .list)) (by simp)
    obtain ⟨entry, part'⟩ := Cbor.length_bytesOf_le inner (List.mem_map_of_mem he)
    rw [List.length_append] at fits
    exact ⟨_, entry, by omega⟩
  obtain ⟨entries, decoded, backs⟩ := Forall₂.compose
    (Q := fun e s' => Entry.decode (received .plain (.list e) false) = .ok s') each
    fun s hs e he encoded => by
      obtain ⟨c, hc, fits⟩ := short e he
      exact Entry.decode_received (wf.entries s hs) (plain.entries s hs) simple encoded hc fits
  refine ⟨p, ⟨h', m.payload, entries, stateFor entries⟩, ?_, back, rfl, backs, rfl⟩
  have decoded : (elements.map fun e => received .plain (.list e) false).mapM Entry.decode =
      .ok entries := Except.mapM_eq_ok.mpr (List.forall₂_map_left_iff.mpr decoded)
  rw [decode, array, Except.ok_bind, received_elements]
  simp only [layer, Except.ok_bind]
  cases elements with
  | nil => exact absurd (List.forall₂_nil_right_iff.mp each) nonempty
  | cons e elements =>
    rw [List.map_cons] at decoded ⊢
    simp only [wf.payload.decodePayload_eq, Except.ok_bind, decoded]
    rfl

/-- **What has come back** is encoded as it was received. -/
theorem encode_of_readBack (wf : m.WellFormed) (plain : m.Plain Value.SimpleKeys)
    (back : Layer.ReadBack p m.toLayer m'.toLayer) (payload : m'.payload = m.payload)
    (entries : List.Forall₂ Entry.ReadBack m.entries m'.entries) (h : m.encode = .ok b) :
    m'.encode = .ok b := by
  obtain ⟨nonempty, checked, q, elements, encoded, each, tagged⟩ := encode_eq_ok h
  have q_eq : q = p := Except.ok.inj (encoded.symm.trans back.encoded)
  have last := plain_elements wf plain (fun _ h => h) each
  have nonempty' : m'.entries ≠ [] := by
    intro empty
    rw [empty] at entries
    exact nonempty (List.forall₂_nil_right_iff.mp entries)
  obtain ⟨elements', each', array⟩ := Entry.encode_all_of_readBack each entries wf.entries
  rw [encode_of_check nonempty' (back.check wf.layer) back.prot_encode each', payload, ← array,
    ← received_elements, back.encodeTagged_eq wf.layer plain.layer.unprot wf.payload last, ← q_eq]
  exact tagged

theorem exists_encode (wf : m.WellFormed) (plain : m.Plain keys)
    (simple : ∀ ks, Value.SimpleKeys ks → keys ks) (nonempty : m.entries ≠ [])
    (checked : m.check = .ok ()) (encoded : m.prot.encode = .ok p)
    (each : ∀ s ∈ m.entries, ∃ e, Entry.encode s = .ok e) : ∃ b, m.encode = .ok b := by
  obtain ⟨elements, each⟩ := Forall₂.exists_of_forall each
  rw [encode_of_check nonempty checked encoded each]
  exact exists_encodeTagged (Layer.plain_array wf.layer plain.layer.unprot simple wf.payload
    (plain_elements wf plain simple each))

/-- What a message that is received is made of. -/
theorem decode_eq_ok [Cbor.Reader] {data : Value} (h : decode data = .ok m) :
    ∃ prot unprot xs, decodeTagged .sign data = .ok (prot, unprot, m.payload, .list xs) ∧
      xs ≠ [] ∧ Layer.decode prot unprot = .ok m.toLayer ∧ m.payload.IsPayload ∧
      List.Forall₂ (fun x s => Entry.decode x = .ok s) xs m.entries ∧
      m.state = stateFor m.entries := by
  obtain ⟨⟨prot, unprot, payload, entries⟩, elements, h⟩ := Except.bind_eq_ok.mp h
  obtain ⟨layer, hl, h⟩ := Except.bind_eq_ok.mp h
  split at h
  · next x xs _ =>
    obtain ⟨payload', hp, h⟩ := Except.bind_eq_ok.mp h
    obtain ⟨entries', each, h⟩ := Except.bind_eq_ok.mp h
    cases h
    obtain ⟨isPayload, rfl⟩ := Value.IsPayload.of_decodePayload hp
    exact ⟨prot, unprot, x :: xs, elements, List.cons_ne_nil x xs, hl, isPayload,
      Except.mapM_eq_ok.mp each, rfl⟩
  · cases h

theorem wellFormed_of_decode {data : Value} (h : decode data = .ok m) : m.WellFormed := by
  obtain ⟨prot, unprot, xs, -, -, layer, payload, each, -⟩ := decode_eq_ok h
  refine ⟨(Layer.wellFormed_of_decode layer).1, payload, fun s hs => ?_⟩
  obtain ⟨x, -, decoded⟩ := Forall₂.exists_left each hs
  exact Entry.wellFormed_of_decode decoded

/-- **A message that was received comes back as itself.** -/
theorem encode_of_decode {data : Value} (h : decode data = .ok m)
    (plain : m.toLayer.HasPlainValues) (plains : ∀ s ∈ m.entries, s.toLayer.HasPlainValues) :
    ∃ b, m.encode = .ok b ∧ (b.length < 2 ^ 64 → decode (.bytes b) = .ok m) := by
  have wf := wellFormed_of_decode h
  obtain ⟨prot, unprot, xs, elements, nonempty, layer, -, each, state⟩ := decode_eq_ok h
  obtain ⟨within, same⟩ := Layer.plain_of_decodeTagged elements layer plain
  obtain ⟨-, checked, p, -, encoded, -⟩ := Layer.wellFormed_of_decode layer
  obtain ⟨k, le, gives⟩ := gives_of_decodeTagged elements
  obtain ⟨j, lt, items⟩ := (gives (.list xs) (by simp)).nests
  have entry : ∀ s ∈ m.entries, s.toLayer.Plain Value.SimpleKeys (maxDepth - 5) ∧
      s.unprot.readEntries .plain = s.unprot.entries := by
    intro s hs
    obtain ⟨x, hx, decoded⟩ := Forall₂.exists_left each hs
    exact Entry.plain_of_decode decoded (items x hx) (by omega) (plains s hs)
  have encodes : ∀ s ∈ m.entries, ∃ e, Entry.encode s = .ok e := by
    intro s hs
    obtain ⟨x, -, decoded⟩ := Forall₂.exists_left each hs
    exact Entry.exists_encode_of_decode decoded
  have plain : m.Plain Value.SimpleKeys := ⟨within, fun s hs => (entry s hs).1⟩
  have nonempty : m.entries ≠ [] := by
    intro empty
    rw [empty] at each
    exact nonempty (List.forall₂_nil_right_iff.mp each)
  obtain ⟨b, hb⟩ := exists_encode wf plain (fun _ h => h) nonempty checked encoded encodes
  refine ⟨b, hb, fun fits => ?_⟩
  obtain ⟨q, m', decoded, back, payload', backs, state'⟩ :=
    decode_encode wf plain (fun _ h => h) hb fits
  have layer_eq := back.eq_of_decode layer same
  have entries_eq : m'.entries = m.entries := Forall₂.eq_of_forall backs fun s hs s' back => by
    obtain ⟨x, -, decoded⟩ := Forall₂.exists_left each hs
    exact back.eq_of_decode decoded (entry s hs).2
  have m_eq : m' = m := by
    calc m' = ⟨m'.toLayer, m'.payload, m'.entries, m'.state⟩ := rfl
      _ = ⟨m.toLayer, m.payload, m.entries, m.state⟩ := by
        rw [layer_eq, payload', state', entries_eq, state]
      _ = m := rfl
  rw [decoded, m_eq]

end Sign

end Cose
