import Cose.Proofs.Cbor.Head
import Cose.Proofs.Except
import Cose.Structure

/-!
# Structures bind their fields

What is signed or tagged determines the kind of structure, its context and each of its fields: the
elements of the encoded array are strings with their heads in front, so nothing can move from one
field to its neighbour, and the context text tells the kinds of message apart.

## Main definitions

* `StructureCall`: a structure that is asked for, with its context and its fields
* `StructureCall.encode`: its encoding, if it has one
* `StructureCall.reading`: the same structure with each field as it is read

## Main results

* `encodeStructure_inj`: the encoding of an array determines the context and the fields
* `StructureCall.encode_eq_iff`: two structures have one encoding exactly if they read the same
-/

namespace Cose

/-- How a field is read: absent as the empty byte string, a buffer as its bytes. -/
def Value.asField : Value → Value
  | .null => .bytes []
  | .buffer b => .bytes b
  | v => v

theorem byteField_eq_ok {name : String} {v : Value} {b : Bytes} :
    byteField name v = .ok b ↔ v.asField = .bytes b := by
  cases v <;> simp [byteField, Value.asField, eq_comm]

/-! ## Encoded arrays -/

theorem Context.text_inj {c c' : Context} (h : c.text = c'.text) : c = c' := by
  cases c <;> cases c' <;> first | rfl | exact absurd h (by decide)

theorem Context.length_text_lt (c : Context) : (Bytes.ofText c.text).length < 2 ^ 64 := by
  cases c <;> decide

theorem flatMap_encodeBytes_inj {fields fields' : List Bytes}
    (length : fields.length = fields'.length) (h : ∀ b ∈ fields, b.length < 2 ^ 64)
    (h' : ∀ b ∈ fields', b.length < 2 ^ 64)
    (e : fields.flatMap Cbor.encodeBytes = fields'.flatMap Cbor.encodeBytes) :
    fields = fields' := by
  induction fields generalizing fields' with
  | nil => exact (List.length_eq_zero_iff.mp length.symm).symm
  | cons b fields ih =>
    obtain ⟨b', fields', rfl⟩ := List.exists_cons_of_length_eq_add_one length.symm
    rw [List.flatMap_cons, List.flatMap_cons] at e
    rw [List.forall_mem_cons] at h h'
    obtain ⟨rfl, rest⟩ := Cbor.encodeBytes_append_inj h.1 h'.1 e
    rw [ih (Nat.succ.inj length) h.2 h'.2 rest]

/-- **The encoding of an array** determines the context and the fields. -/
theorem encodeStructure_inj {context context' : Context} {fields fields' : List Bytes}
    (count : fields.length + 1 < 2 ^ 64) (count' : fields'.length + 1 < 2 ^ 64)
    (h : ∀ b ∈ fields, b.length < 2 ^ 64) (h' : ∀ b ∈ fields', b.length < 2 ^ 64)
    (e : encodeStructure context fields = encodeStructure context' fields') :
    context = context' ∧ fields = fields' := by
  rw [encodeStructure, encodeStructure, List.append_assoc, List.append_assoc] at e
  -- The head of the array gives the number of fields, which tells where the last one ends.
  obtain ⟨-, length, e⟩ := Cbor.head_append_inj count count' e
  obtain ⟨text, e⟩ :=
    Cbor.encodeText_append_inj context.length_text_lt context'.length_text_lt e
  exact ⟨Context.text_inj text, flatMap_encodeBytes_inj (Nat.succ.inj length) h h' e⟩

/-! ## Structures that are asked for -/

/-- **A structure that is asked for**: what a signature covers, or what a tag covers. -/
inductive StructureCall where
  | signature (context : String) (bodyProtected signProtected externalAad payload : Value)
  | tag (context : String) (protectedHeader externalAad payload : Value)

namespace StructureCall

/-- The encoding of a structure, if it has one. -/
def encode : StructureCall → Except Error Bytes
  | signature context body signer external payload =>
    sigStructure context body signer external payload
  | tag context body external payload => macStructure context body external payload

/-- The fields of a structure. -/
def fields : StructureCall → List Value
  | signature _ body signer external payload => [body, signer, external, payload]
  | tag _ body external payload => [body, external, payload]

/-- The same structure with each field as it is read. -/
def reading : StructureCall → StructureCall
  | signature context body signer external payload =>
    signature context body.asField signer.asField external.asField payload.asField
  | tag context body external payload =>
    tag context body.asField external.asField payload.asField

/-- Every field is short enough for its length to stand in a head. -/
def Fits (c : StructureCall) : Prop :=
  ∀ v ∈ c.fields, ∀ n ∈ v.length?, n < 2 ^ 64

/-- The array that a structure is encoded as, with the fields that it has. -/
inductive Builds : StructureCall → Context → List Bytes → Prop where
  | signature {body signer external payload : Value} {b s e p : Bytes}
      (present : signer ≠ .null) (hb : body.asField = .bytes b) (hs : signer.asField = .bytes s)
      (he : external.asField = .bytes e) (hp : payload.asField = .bytes p) :
      Builds (signature Context.signature.text body signer external payload) .signature [b, s, e, p]
  | signature1 {body external payload : Value} {b e p : Bytes}
      (hb : body.asField = .bytes b) (he : external.asField = .bytes e)
      (hp : payload.asField = .bytes p) :
      Builds (signature Context.signature1.text body .null external payload) .signature1 [b, e, p]
  | tag {body external payload : Value} {b e p : Bytes}
      (hb : body.asField = .bytes b) (he : external.asField = .bytes e)
      (hp : payload.asField = .bytes p) :
      Builds (tag Context.mac0.text body external payload) .mac0 [b, e, p]

variable {c c' : StructureCall} {context context' : Context} {fields fields' : List Bytes}

/-- A structure that builds an array is encoded as that array. -/
theorem Builds.encode_eq (h : c.Builds context fields) :
    c.encode = .ok (encodeStructure context fields) := by
  cases h with
  | signature present hb hs he hp =>
    simp only [encode, sigStructure, if_pos, byteField_eq_ok.mpr hb, byteField_eq_ok.mpr hs,
      byteField_eq_ok.mpr he, byteField_eq_ok.mpr hp, Except.ok_bind]
    rfl
  | signature1 hb he hp =>
    simp only [encode, sigStructure, byteField_eq_ok.mpr hb, byteField_eq_ok.mpr he,
      byteField_eq_ok.mpr hp, Except.ok_bind]
    rfl
  | tag hb he hp =>
    simp only [encode, macStructure, byteField_eq_ok.mpr hb, byteField_eq_ok.mpr he,
      byteField_eq_ok.mpr hp, Except.ok_bind]
    rfl

/-- A structure that has an encoding builds an array. -/
theorem builds_of_encode {b : Bytes} (h : c.encode = .ok b) :
    ∃ context fields, c.Builds context fields ∧ b = encodeStructure context fields := by
  cases c with
  | signature context body signer external payload =>
    simp only [encode, sigStructure] at h
    split at h
    · next hc =>
      subst hc
      obtain ⟨_, hb, h⟩ := Except.bind_eq_ok.mp h
      split at h
      · cases h
      · next present =>
        obtain ⟨_, hs, h⟩ := Except.bind_eq_ok.mp h
        obtain ⟨_, he, h⟩ := Except.bind_eq_ok.mp h
        obtain ⟨_, hp, h⟩ := Except.bind_eq_ok.mp h
        cases h
        exact ⟨_, _, .signature present (byteField_eq_ok.mp hb) (byteField_eq_ok.mp hs)
          (byteField_eq_ok.mp he) (byteField_eq_ok.mp hp), rfl⟩
    split at h
    · next hc =>
      subst hc
      obtain ⟨_, hb, h⟩ := Except.bind_eq_ok.mp h
      split at h
      · obtain ⟨_, he, h⟩ := Except.bind_eq_ok.mp h
        obtain ⟨_, hp, h⟩ := Except.bind_eq_ok.mp h
        cases h
        exact ⟨_, _, .signature1 (byteField_eq_ok.mp hb) (byteField_eq_ok.mp he)
          (byteField_eq_ok.mp hp), rfl⟩
      · cases h
    · cases h
  | tag context body external payload =>
    simp only [encode, macStructure] at h
    split at h
    · next hc =>
      subst hc
      obtain ⟨_, hb, h⟩ := Except.bind_eq_ok.mp h
      obtain ⟨_, he, h⟩ := Except.bind_eq_ok.mp h
      obtain ⟨_, hp, h⟩ := Except.bind_eq_ok.mp h
      cases h
      exact ⟨_, _, .tag (byteField_eq_ok.mp hb) (byteField_eq_ok.mp he)
        (byteField_eq_ok.mp hp), rfl⟩
    · cases h

theorem length_lt_of_asField {v : Value} {b : Bytes} (h : v.asField = .bytes b)
    (fits : ∀ n ∈ v.length?, n < 2 ^ 64) : b.length < 2 ^ 64 := by
  cases v with
  | null => cases h; decide
  | bytes | buffer => cases h; exact fits _ rfl
  | _ => cases h

/-- The fields of an array that a structure builds are short enough if those of the structure
are. -/
theorem Builds.fits (h : c.Builds context fields) (fits : c.Fits) :
    fields.length + 1 < 2 ^ 64 ∧ ∀ b ∈ fields, b.length < 2 ^ 64 := by
  cases h with
  | signature _ hb hs he hp =>
    simp only [Fits, StructureCall.fields, List.forall_mem_cons] at fits ⊢
    obtain ⟨fb, fs, fe, fp, -⟩ := fits
    exact ⟨by simp, length_lt_of_asField hb fb, length_lt_of_asField hs fs,
      length_lt_of_asField he fe, length_lt_of_asField hp fp, List.forall_mem_nil _⟩
  | signature1 hb he hp =>
    simp only [Fits, StructureCall.fields, List.forall_mem_cons] at fits ⊢
    obtain ⟨fb, -, fe, fp, -⟩ := fits
    exact ⟨by simp, length_lt_of_asField hb fb, length_lt_of_asField he fe,
      length_lt_of_asField hp fp, List.forall_mem_nil _⟩
  | tag hb he hp =>
    simp only [Fits, StructureCall.fields, List.forall_mem_cons] at fits ⊢
    obtain ⟨fb, fe, fp, -⟩ := fits
    exact ⟨by simp, length_lt_of_asField hb fb, length_lt_of_asField he fe,
      length_lt_of_asField hp fp, List.forall_mem_nil _⟩

/-- The array that a structure builds determines how the structure reads. -/
theorem Builds.reading_eq (h : c.Builds context fields) (h' : c'.Builds context fields) :
    c.reading = c'.reading := by
  -- The context tells which constructor built the array, so the two are of one kind.
  cases h with
  | signature _ hb hs he hp =>
    cases h' with
    | signature _ hb' hs' he' hp' => simp only [reading, hb, hb', hs, hs', he, he', hp, hp']
  | signature1 hb he hp =>
    cases h' with
    | signature1 hb' he' hp' => simp only [reading, hb, hb', he, he', hp, hp']
  | tag hb he hp =>
    cases h' with
    | tag hb' he' hp' => simp only [reading, hb, hb', he, he', hp, hp']

/-- How a structure reads determines the array that it builds. -/
theorem Builds.eq_of_reading (h : c.Builds context fields) (h' : c'.Builds context' fields')
    (e : c.reading = c'.reading) : context = context' ∧ fields = fields' := by
  cases h <;> cases h' <;> simp_all [reading, Context.text]

/-- **A structure binds its fields.** Whatever is asked for, in whichever contexts, two structures
that have an encoding have the same one exactly if they are of the same kind, in the same context,
and all their fields read the same. -/
theorem encode_eq_iff {b b' : Bytes} (h : c.encode = .ok b) (h' : c'.encode = .ok b')
    (fits : c.Fits) (fits' : c'.Fits) : b = b' ↔ c.reading = c'.reading := by
  obtain ⟨context, fields, builds, rfl⟩ := builds_of_encode h
  obtain ⟨context', fields', builds', rfl⟩ := builds_of_encode h'
  constructor
  · intro e
    obtain ⟨rfl, rfl⟩ := encodeStructure_inj (builds.fits fits).1 (builds'.fits fits').1
      (builds.fits fits).2 (builds'.fits fits').2 e
    exact builds.reading_eq builds'
  · intro e
    obtain ⟨rfl, rfl⟩ := builds.eq_of_reading builds' e
    rfl

/-- Absent external data and an empty buffer make one structure, and the tag of the same content
covers another. -/
theorem encode_eq_iff_absent :
    let absent := signature "Signature1" (.bytes [0xa0]) .null .null (.bytes [1])
    let empty := signature "Signature1" (.buffer [0xa0]) .null (.buffer []) (.bytes [1])
    let tagged := tag "MAC0" (.bytes [0xa0]) .null (.bytes [1])
    absent.encode = empty.encode ∧ absent.reading = empty.reading ∧
      absent.encode ≠ tagged.encode := by
  intro absent empty tagged
  have ha : absent.encode = .ok (encodeStructure .signature1 [[0xa0], [], [1]]) := rfl
  have he : empty.encode = .ok (encodeStructure .signature1 [[0xa0], [], [1]]) := rfl
  have ht : tagged.encode = .ok (encodeStructure .mac0 [[0xa0], [], [1]]) := rfl
  have fa : absent.Fits := by simp [absent, Fits, StructureCall.fields, Value.length?]
  have fe : empty.Fits := by simp [empty, Fits, StructureCall.fields, Value.length?]
  have ft : tagged.Fits := by simp [tagged, Fits, StructureCall.fields, Value.length?]
  refine ⟨ha.trans he.symm, (encode_eq_iff ha he fa fe).mp rfl, ?_⟩
  rw [ha, ht, ne_eq, Except.ok.injEq]
  intro e
  cases (encode_eq_iff ha ht fa ft).mp e

end StructureCall

end Cose
