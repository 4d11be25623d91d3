import Cose.Message.Payload
import Cose.Proofs.Header.WellFormed

/-!
# The envelope of a message

An encoded message is a tagged array of four elements: the bytes of the protected bucket, the map of
the unprotected one, the payload, and the signature, tag or entries. What is written as such an
array is read as one, and what is read is nested as deep as the array leaves room for.

## Main definitions

* `Value.IsPayload`, `Value.IsSignature`: payloads, and what is kept as a signature or tag
* `Value.content`: the bytes of a signature or tag
* `Carries`: data that begins with a tag around four elements

## Main results

* `decodeTagged_eq_ok_iff`: data with four elements
* `decodeTagged_encodeTagged`: the elements come back
* `encodeTagged_received`: what has come back is written as before
* `gives_of_decodeTagged`: how deep the elements that are read are nested
-/

namespace Cose

open Cbor (received Gives decodeItem maxDepth)

/-! ## Payloads and signatures -/

namespace Value

/-- **A payload**: absent, or a byte string. -/
inductive IsPayload : Value → Prop
  | null : IsPayload .null
  | bytes (b : Bytes) : IsPayload (.bytes b)

/-- What is kept as a signature or tag: absent, or a byte string or buffer. -/
inductive IsSignature : Value → Prop
  | null : IsSignature .null
  | bytes (b : Bytes) : IsSignature (.bytes b)
  | buffer (b : Bytes) : IsSignature (.buffer b)

/-- The bytes of a signature or tag; what is absent has none. -/
def content (v : Value) : Bytes :=
  v.bytes?.getD []

variable {v : Value} {keys : List Value → Prop} {n : Nat}

theorem IsPayload.plain (h : v.IsPayload) : v.Plain keys (n + 1) := by
  cases h with
  | null => exact .null n
  | bytes b => exact .bytes n b

theorem IsPayload.received_eq (h : v.IsPayload) : received .plain v false = v := by
  cases h <;> rfl

theorem IsPayload.of_checkPayload {p : Value} (h : checkPayload p = .ok v) : v.IsPayload := by
  unfold checkPayload at h
  split at h
  · cases h
    exact .null
  · cases h
    exact .bytes _
  · cases h
    exact .bytes _
  · cases h

theorem IsPayload.of_decodePayload {p : Value} (h : decodePayload p = .ok v) :
    v.IsPayload ∧ v = p := by
  unfold decodePayload at h
  split at h
  · cases h
    exact ⟨.null, rfl⟩
  · cases h
    exact ⟨.bytes _, rfl⟩
  · cases h

theorem IsPayload.decodePayload_eq (h : v.IsPayload) : decodePayload v = .ok v := by
  cases h <;> rfl

/-- A signature is written as its bytes, and as no bytes when it counts as absent. -/
theorem IsSignature.orElse_cases (h : v.IsSignature) :
    v.orElse (.bytes []) = .bytes v.content ∨ v.orElse (.bytes []) = .buffer v.content := by
  cases h with
  | null => exact .inl rfl
  | bytes b => cases b <;> exact .inl rfl
  | buffer b =>
    cases b with
    | nil => exact .inl rfl
    | cons x b => exact .inr rfl

theorem IsSignature.plain (h : v.IsSignature) : (v.orElse (.bytes [])).Plain keys (n + 1) := by
  rcases h.orElse_cases with e | e
  · rw [e]
    exact .bytes n _
  · rw [e]
    exact .buffer n _

theorem IsSignature.received_eq (h : v.IsSignature) :
    received .plain (v.orElse (.bytes [])) false = .bytes v.content := by
  rcases h.orElse_cases with e | e <;> rw [e] <;> rfl

theorem orElse_bytes (b : Bytes) : (Value.bytes b).orElse (.bytes []) = .bytes b := by
  cases b <;> rfl

end Value

/-! ## Tagged arrays -/

/-- Data carries four elements behind the tag of a kind of message. -/
def Carries [Cbor.Reader] (shape : Shape) (data prot unprot payload last : Value) : Prop :=
  ∃ b, data.bytes? = some b ∧
    Cbor.Reader.read b = .ok (.tag shape.tag (.list [prot, unprot, payload, last]))

theorem decodeTagged_eq_ok_iff [Cbor.Reader] {shape : Shape} {data prot unprot payload last : Value} :
    decodeTagged shape data = .ok (prot, unprot, payload, last) ↔
      Carries shape data prot unprot payload last := by
  constructor
  · intro h
    unfold decodeTagged at h
    split at h
    · cases h
    · split at h <;> cases h
    · next number content read =>
      split at h
      · next own =>
        split at h
        · cases h
          rw [readData] at read
          split at read
          · next b bytes => exact ⟨b, bytes, own ▸ read⟩
          · cases read
        · cases h
      · cases h
    · cases h
  · rintro ⟨b, bytes, read⟩
    simp only [decodeTagged, readData, bytes, read, if_true]

section Tagged

variable {shape : Shape} {keys : List Value → Prop} {x y z w : Value} {b : Bytes}

theorem encodeTagged_eq_ok {elements : List Value} (h : encodeTagged shape elements = .ok b) :
    ∃ c, Cbor.encode .plain (.list elements) = some c ∧ b = Cbor.head .tag shape.tag ++ c := by
  rw [encodeTagged] at h
  split at h
  · next encoded =>
    cases h
    rw [Cbor.encode_tag, Option.map_eq_some_iff] at encoded
    obtain ⟨c, hc, rfl⟩ := encoded
    exact ⟨c, hc, rfl⟩
  · cases h

/-- **The elements come back** from a tagged array. -/
theorem decodeTagged_encodeTagged (plain : (Value.list [x, y, z, w]).Plain keys (maxDepth - 1))
    (h : encodeTagged shape [x, y, z, w] = .ok b) (fits : b.length < 2 ^ 64) :
    decodeTagged shape (.bytes b) = .ok (received .plain x false, received .plain y false,
      received .plain z false, received .plain w false) := by
  obtain ⟨c, hc, rfl⟩ := encodeTagged_eq_ok h
  rw [List.length_append] at fits
  -- No kind of message has the tag of a set, behind which items would be read frozen.
  have content : Cbor.Reads (decodeItem (maxDepth - 1) (false || shape.tag == Cbor.setTag)) c
      (received .plain (.list [x, y, z, w]) false) := by
    cases shape <;> exact Cbor.reads_encode plain hc (by omega) false
  have meaning : Cbor.interpretTag? false shape.tag (received .plain (.list [x, y, z, w]) false) =
      some (.tag shape.tag (received .plain (.list [x, y, z, w]) false)) := by
    cases shape <;> rfl
  have small : shape.tag < 2 ^ 64 := by cases shape <;> decide
  have whole := Cbor.reads_tag small content meaning []
  rw [List.append_nil] at whole
  have decoded : Cbor.decode? (Cbor.head .tag shape.tag ++ c) =
      some (.tag shape.tag (received .plain (.list [x, y, z, w]) false)) :=
    congrArg (Option.map Prod.fst) whole
  rw [Cbor.received_list, if_neg Bool.false_ne_true] at decoded
  exact decodeTagged_eq_ok_iff.mpr ⟨_, rfl, Cbor.Reader.read_eq_ok.mpr decoded⟩

/-- **What has come back** is written as before. -/
theorem encodeTagged_received
    (plain : (Value.list [x, y, z, w]).Plain Value.SimpleKeys (maxDepth - 1)) :
    encodeTagged shape [received .plain x false, received .plain y false,
      received .plain z false, received .plain w false] = encodeTagged shape [x, y, z, w] := by
  have same := Cbor.encode_received plain
  rw [Cbor.received_list, if_neg Bool.false_ne_true] at same
  simp only [List.map_cons, List.map_nil] at same
  rw [encodeTagged, encodeTagged, Cbor.encode_tag, Cbor.encode_tag, same]

theorem exists_encodeTagged (plain : (Value.list [x, y, z, w]).Plain keys (maxDepth - 1)) :
    ∃ b, encodeTagged shape [x, y, z, w] = .ok b := by
  obtain ⟨c, hc⟩ := Cbor.exists_encode plain .plain
  exact ⟨_, by rw [encodeTagged, Cbor.encode_tag, hc, Option.map_some]⟩

/-- **The elements that are read** leave two levels to the array and its tag. -/
theorem gives_of_decodeTagged {data : Value} (h : decodeTagged shape data = .ok (x, y, z, w)) :
    ∃ k ≤ maxDepth - 2, ∀ v ∈ [x, y, z, w], Gives (decodeItem k false) v := by
  obtain ⟨bytes, -, read⟩ := decodeTagged_eq_ok_iff.mp h
  obtain ⟨⟨v, rest⟩, read, tagged⟩ :=
    Option.map_eq_some_iff.mp (Cbor.Reader.read_eq_ok.mp read)
  cases tagged
  obtain ⟨k, lt, inner⟩ := Gives.nests ⟨bytes, rest, read⟩
  obtain ⟨j, lt', items⟩ := inner.nests
  exact ⟨j, by omega, items⟩

end Tagged

/-! ## The headers in a tagged array -/

theorem Cbor.length_le_bytesOf (form : Cbor.Form) (p : Bytes) :
    p.length ≤ (Cbor.bytesOf form (.bytes p)).length := by
  rw [Cbor.bytesOf_eq (v := .bytes p) rfl, Cbor.encodeBytes, List.length_append]
  exact Nat.le_add_left ..

namespace Layer

variable {h h' : Layer} {shape : Shape} {keys : List Value → Prop} {p b : Bytes} {z w : Value}

theorem plain_array {n : Nat} (wf : h.WellFormed) (plain : h.unprot.Plain keys (n + 2))
    (simple : ∀ ks, Value.SimpleKeys ks → keys ks) (payload : z.IsPayload)
    (last : w.Plain keys (n + 3)) :
    (Value.list [.bytes p, .map h.unprot.toEntries, z, w]).Plain keys (n + 4) := by
  refine .list ?_
  simp only [List.forall_mem_cons]
  exact ⟨.bytes _ p, plain.toEntries wf.unprot.labelled simple, payload.plain, last,
    fun v hv => absurd hv List.not_mem_nil⟩

/-- The headers come back from a tagged array, with the payload and the last element. -/
theorem WellFormed.decodeTagged_array (wf : h.WellFormed)
    (plain : h.Plain keys (maxDepth - 3)) (simple : ∀ ks, Value.SimpleKeys ks → keys ks)
    (checked : h.check = .ok ()) (encoded : h.prot.encode = .ok p) (payload : z.IsPayload)
    (last : w.Plain keys (maxDepth - 2))
    (tagged : encodeTagged shape [.bytes p, .map h.unprot.toEntries, z, w] = .ok b)
    (fits : b.length < 2 ^ 64) :
    ∃ u h', decodeTagged shape (.bytes b) = .ok (.bytes p, u, z, received .plain w false) ∧
      decode (.bytes p) u = .ok h' ∧ ReadBack p h h' := by
  have array : (Value.list [.bytes p, .map h.unprot.toEntries, z, w]).Plain keys (maxDepth - 1) :=
    plain_array wf plain.unprot simple payload last
  have short : p.length < 2 ^ 64 := by
    obtain ⟨c, hc, rfl⟩ := encodeTagged_eq_ok tagged
    have part := (Cbor.length_bytesOf_le hc (List.mem_cons_self ..)).2
    have own := Cbor.length_le_bytesOf .plain p
    rw [List.length_append] at fits
    omega
  obtain ⟨h', decoded, back⟩ := wf.decode_received checked plain.prot simple encoded short
  refine ⟨_, h', ?_, decoded, back⟩
  rw [decodeTagged_encodeTagged array tagged fits, payload.received_eq]
  rfl

/-- What has come back is written as before. -/
theorem ReadBack.encodeTagged_eq (r : ReadBack p h h') (wf : h.WellFormed)
    (plain : h.unprot.Plain Value.SimpleKeys (maxDepth - 3)) (payload : z.IsPayload)
    (last : w.Plain Value.SimpleKeys (maxDepth - 2)) :
    encodeTagged shape [.bytes p, .map h'.unprot.toEntries, z, received .plain w false] =
      encodeTagged shape [.bytes p, .map h.unprot.toEntries, z, w] := by
  have array : (Value.list [.bytes p, .map h.unprot.toEntries, z, w]).Plain Value.SimpleKeys
      (maxDepth - 1) :=
    plain_array wf plain (fun _ h => h) payload last
  rw [← encodeTagged_received array, r.map_unprot wf, payload.received_eq]
  rfl

/-- The values of a layer are plain data. -/
def HasPlainValues (h : Layer) : Prop :=
  ∃ n, h.prot.Plain Value.SimpleKeys n ∧ h.unprot.Plain Value.SimpleKeys n

/-- The plain values of headers that were received fit where they were read, and come back as
they are. -/
theorem plain_of_gives {prot unprot : Value} {k n : Nat} (hd : decode prot unprot = .ok h)
    (given : Gives (decodeItem k false) unprot) (le : k ≤ n + 1) (plain : h.HasPlainValues) :
    h.Plain Value.SimpleKeys n ∧ h.unprot.readEntries .plain = h.unprot.entries := by
  obtain ⟨levels, plain_prot, plain_unprot⟩ := plain
  obtain ⟨within, same⟩ := plain_of_decode hd given plain_prot plain_unprot
  exact ⟨⟨within.prot, fun e he => (within.unprot e he).mono (by omega)⟩, same⟩

theorem plain_of_decodeTagged {prot unprot data : Value}
    (elements : decodeTagged shape data = .ok (prot, unprot, z, w))
    (hd : decode prot unprot = .ok h) (plain : h.HasPlainValues) :
    h.Plain Value.SimpleKeys (maxDepth - 3) ∧
      h.unprot.readEntries .plain = h.unprot.entries := by
  obtain ⟨k, le, gives⟩ := gives_of_decodeTagged elements
  exact plain_of_gives hd (gives unprot (by simp)) le plain

end Layer

end Cose
