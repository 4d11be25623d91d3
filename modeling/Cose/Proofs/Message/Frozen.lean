import Cose.Proofs.Message.History
import Cose.Proofs.Message.Single

/-!
# Messages are frozen once they are signed

From the moment on that a message is signed, its protected buckets have fixed bytes, and no
operation gives it other ones. What a signature covers is made from these bytes and from the
payload, so it stays the same at every later point, while headers that are not protected may still
change.

## Main definitions

* `Message.prots`, `Message.covered`: the protected buckets, and what the signatures cover
* `Message.Frozen`: a message that is signed, with fixed protected buckets
* `Message.Keeps`: what stays the same of a frozen message
* `Message.Settled`: a message that is frozen as soon as its state is signed
* `Message.AttemptsProtected`: operations that come to set or erase a protected parameter

## Main results

* `Message.Frozen.perform`: one operation leaves a frozen message frozen, with the same content
* `Message.perform_fixed`: a message that comes to be signed has fixed protected buckets
* `Message.frozen_once_signed`: what holds of every run from the moment on that the state is signed
-/

namespace Cose

/-- The states of a message that is signed. -/
def State.IsSigned (s : State) : Prop :=
  s = .signed ∨ s = .verified ∨ s = .verificationFailed

theorem State.IsSigned.ne_unsigned {s : State} (h : s.IsSigned) : s ≠ .unsigned := by
  rintro rfl
  rcases h with h | h | h <;> cases h

theorem State.IsSigned.next {s s' : State} (h : s.IsSigned)
    (next : s' = s ∨ s' = .verified ∨ s' = .verificationFailed) : s'.IsSigned := by
  rcases next with rfl | rfl | rfl
  · exact h
  · exact .inr (.inl rfl)
  · exact .inr (.inr rfl)

/-- Elements that are mapped to the same can take each other's place. -/
theorem map_set_of_eq {α β : Type} {f : α → β} {xs : List α} {i : Nat} {x y : α}
    (there : xs[i]? = some x) (same : f y = f x) : (xs.set i y).map f = xs.map f := by
  apply List.ext_getElem?
  intro j
  rw [List.getElem?_map, List.getElem?_map, List.getElem?_set]
  split
  · next at_i =>
    subst at_i
    have bound := (List.getElem?_eq_some_iff.mp there).1
    rw [if_pos bound, there, Option.map_some, Option.map_some, same]
  · rfl

/-- An element that is put where it stands already. -/
theorem set_of_getElem? {α : Type} {xs : List α} {i : Nat} {x : α} (there : xs[i]? = some x) :
    xs.set i x = xs := by
  simpa using map_set_of_eq (f := id) there rfl

/-! ## What verification leaves -/

/-- Verification of entries changes the state at most, to one that says what it came to. -/
theorem Sign.verify_after (m : Sign) (keys : Keys) (aad : Value) :
    ∃ state, (m.verify keys aad).after = { m with state } ∧
      (state = m.state ∨ state = .verified ∨ state = .verificationFailed) := by
  rw [verify]
  split
  · exact ⟨_, rfl, .inl rfl⟩
  simp only
  split
  · exact ⟨_, rfl, .inl rfl⟩
  simp only [Step.logging_after]
  split
  · exact ⟨_, rfl, .inl rfl⟩
  split
  · exact ⟨_, rfl, .inr (.inl rfl)⟩
  · exact ⟨_, rfl, .inr (.inr rfl)⟩

/-! ## Messages that are signed already -/

theorem Sign.sign_of_ne_unsigned {m : Sign} (h : m.state ≠ .unsigned) (keys : Keys) (aad : Value) :
    (m.sign keys aad).after = m := by
  rcases sign_cases m keys aad with ⟨e, -, after⟩ | ⟨-, unsigned, -⟩
  · exact after
  · exact absurd unsigned h

theorem Sign1.sign_of_ne_unsigned {m : Sign1} (h : m.state ≠ .unsigned) (agent : Agent)
    (aad : Value) : m.sign agent aad = .fail m (.state .alreadySigned) := by
  have refused : m.prepare agent = .error (.state .alreadySigned) := by
    rw [prepare, if_pos (by simp [h])]
    rfl
  rw [sign, refused]

theorem Mac0.createTag_of_ne_unsigned {m : Mac0} (h : m.state ≠ .unsigned) (agent : Agent)
    (aad : Value) : m.createTag agent aad = .fail m (.state .alreadyTagged) := by
  have refused : m.prepare agent = .error (.state .alreadyTagged) := by
    rw [prepare, if_pos (by simp [h])]
    rfl
  rw [createTag, refused]

/-- Attaching a signature to a message with a fixed protected bucket. -/
theorem Sign1.attach_of_fixed {m : Sign1} (h : m.prot.Fixed) (signature : Value) :
    (m.attach signature).after = m ∨
      (m.attach signature).after = { m with signature, state := .signed } := by
  obtain ⟨b, rfl | ⟨⟨⟩⟩, after | ⟨-, p, encoded, after⟩⟩ := m.attach_cases signature none
  · exact .inl after
  · rw [h.fixed_encode encoded] at after
    exact .inr after

/-! ## What stays the same -/

namespace Message

/-- **The protected buckets** of a message and of its entries, in order. -/
def prots : Message → List Bucket
  | .sign m => m.prot :: m.entries.map fun s => s.prot
  | .sign1 m => [m.prot]
  | .mac0 m => [m.prot]

/-- What the signatures of a message cover, one for each entry or one for the message. -/
def covered (aad : Value) : Message → List (Except Error Bytes)
  | .sign m => m.entries.map fun s => do
      let body ← m.prot.encode
      Entry.toBeSigned s.prot (.bytes body) m.payload aad
  | .sign1 m => [m.prot.encode >>= (m.structureFor · aad)]
  | .mac0 m => [m.prot.encode >>= (m.structureFor · aad)]

/-- A message is frozen: its state is that of a signed message, and the bytes of its protected
buckets are fixed. -/
structure Frozen (m : Message) : Prop where
  state : m.state.IsSigned
  fixed : ∀ b ∈ m.prots, b.Fixed

/-- What stays the same of a message: its kind, its protected buckets and its payload. -/
structure Keeps (m m' : Message) : Prop where
  shape : m'.shape = m.shape
  prots : m'.prots = m.prots
  payload : m'.payload = m.payload

namespace Keeps

variable {m m' m'' : Message}

theorem refl (m : Message) : m.Keeps m := ⟨rfl, rfl, rfl⟩

theorem trans (h : m.Keeps m') (h' : m'.Keeps m'') : m.Keeps m'' :=
  ⟨h'.shape.trans h.shape, h'.prots.trans h.prots, h'.payload.trans h.payload⟩

/-- What is covered is made from what stays the same. -/
theorem covered_eq (h : m.Keeps m') (aad : Value) : m'.covered aad = m.covered aad := by
  obtain ⟨shape, prots, payload⟩ := h
  cases m with
  | sign m =>
    cases m' with
    | sign m' =>
      simp only [Message.prots, List.cons.injEq, Message.payload] at prots payload
      obtain ⟨body, entries⟩ := prots
      have each (m : Sign) (f : Bucket → Except Error Bytes) :
          (m.entries.map fun s => f s.prot) = (m.entries.map fun s => s.prot).map f := by
        rw [List.map_map]
        rfl
      simp only [covered, body, payload]
      rw [each m' fun prot => do
        let body ← m.prot.encode
        Entry.toBeSigned prot (.bytes body) m.payload aad, entries, ← each m]
    | _ => cases shape
  | sign1 m =>
    cases m' with
    | sign1 m' =>
      simp only [Message.prots, List.cons.injEq, and_true, Message.payload] at prots payload
      simp only [covered, prots, Sign1.structureFor, payload]
    | _ => cases shape
  | mac0 m =>
    cases m' with
    | mac0 m' =>
      simp only [Message.prots, List.cons.injEq, and_true, Message.payload] at prots payload
      simp only [covered, prots, Mac0.structureFor, payload]
    | _ => cases shape

theorem withLayer {h : Layer} (prot : h.prot = m.layer.prot) : m.Keeps (m.withLayer h) := by
  cases m with
  | sign m => exact ⟨rfl, congrArg (· :: _) prot, rfl⟩
  | sign1 m => exact ⟨rfl, congrArg (· :: _) prot, rfl⟩
  | mac0 m => exact ⟨rfl, congrArg (· :: _) prot, rfl⟩

theorem changeEntry {m : Sign} {index : Nat} {s : Entry} {h : Layer}
    (there : m.entries[index]? = some s) (prot : h.prot = s.prot) :
    (Message.sign m).Keeps
      (.sign { m with entries := m.entries.set index { s with toLayer := h } }) := by
  exact ⟨rfl, congrArg (m.prot :: ·) (map_set_of_eq there prot), rfl⟩

end Keeps

/-! ## One operation on a frozen message -/

/-- Whether an operation attaches a signature. -/
def Operation.isAttach : Operation → Bool
  | .attach .. => true
  | _ => false

/-- Whether an operation puts another protected bucket in place. -/
def Operation.replaces : Operation → Bool
  | .attach _ prot => prot.isSome
  | _ => false

/-- What an operation does to a frozen message: the content stays, the state is that of a signed
message, and the signatures stay unless one is attached. -/
structure Stays (m : Message) (o : Operation) (m' : Message) : Prop where
  keeps : m.Keeps m'
  state : m'.state.IsSigned
  signatures : o.isAttach = false → m'.signatures = m.signatures

section Perform

variable {m : Message}

theorem perform_change (m : Message) (side : Layer.Side) (c : Bucket.Change) :
    m.perform (.change side c) = (m.layer.change side c).within (withLayer · m) := by
  cases m <;> rfl

theorem Frozen.stays_self (h : m.Frozen) (o : Operation) : m.Stays o m :=
  ⟨.refl m, h.state, fun _ => rfl⟩

/-- **One operation on a frozen message.** -/
theorem Frozen.perform (h : m.Frozen) {o : Operation} (alone : o.replaces = false) :
    m.Stays o (m.perform o).after := by
  have ne : m.state ≠ .unsigned := h.state.ne_unsigned
  have body : m.layer.prot.Fixed := h.fixed _ (by cases m <;> simp [prots, layer])
  have changed (side : Layer.Side) (c : Bucket.Change) :
      m.Stays (.change side c) (withLayer (m.layer.change side c).after m) := by
    refine ⟨.withLayer (Layer.change_prot body side c), ?_, fun _ => ?_⟩ <;> cases m
    all_goals first | exact h.state | rfl
  cases m with
  | sign m =>
    cases o with
    | signAll keys aad =>
      rw [Message.perform, Step.within_after, Sign.sign_of_ne_unsigned ne]
      exact h.stays_self _
    | verifyAll keys aad =>
      obtain ⟨state, after, next⟩ := m.verify_after keys aad
      rw [Message.perform, Step.within_after, Step.silent_after, after]
      exact ⟨⟨rfl, rfl, rfl⟩, State.IsSigned.next h.state next, fun _ => rfl⟩
    | add entry =>
      rw [Message.perform, Step.within_after, Sign.add, if_pos (show m.state ≠ .unsigned from ne)]
      exact h.stays_self _
    | changeEntry index side c =>
      rw [Message.perform, Step.within_after, Message.changeEntry]
      split
      · exact h.stays_self _
      · next s there =>
        have own : s.prot.Fixed := h.fixed _
          (List.mem_cons_of_mem _ (List.mem_map_of_mem (List.mem_of_getElem? there)))
        exact ⟨.changeEntry there (Layer.change_prot own side c), h.state,
          fun _ => map_set_of_eq there rfl⟩
    | change side c => exact changed side c
    | _ => exact h.stays_self _
  | sign1 m =>
    cases o with
    | sign agent aad =>
      rw [Message.perform, Step.within_after, Sign1.sign_of_ne_unsigned ne]
      exact h.stays_self _
    | verify agent aad =>
      obtain ⟨state, after, next⟩ := m.verify_after agent aad
      rw [Message.perform, Step.within_after, after]
      exact ⟨⟨rfl, rfl, rfl⟩, State.IsSigned.next h.state next, fun _ => rfl⟩
    | attach signature prot =>
      obtain rfl : prot = none := by simpa [Operation.replaces] using alone
      rw [Message.perform, Step.within_after]
      rcases Sign1.attach_of_fixed body signature with after | after
      · rw [after]
        exact h.stays_self _
      · rw [after]
        exact ⟨⟨rfl, rfl, rfl⟩, .inl rfl, fun none => by cases none⟩
    | toBeSigned aad alg =>
      obtain ⟨prot, after, same⟩ := m.toBeSigned_after aad alg
      rw [Message.perform, Step.within_after, Step.silent_after, after, same ne]
      exact h.stays_self _
    | change side c => exact changed side c
    | _ => exact h.stays_self _
  | mac0 m =>
    cases o with
    | sign agent aad =>
      rw [Message.perform, Step.within_after, Mac0.createTag_of_ne_unsigned ne]
      exact h.stays_self _
    | verify agent aad =>
      obtain ⟨state, after, next⟩ := m.authenticateTag_after agent aad
      rw [Message.perform, Step.within_after, after]
      exact ⟨⟨rfl, rfl, rfl⟩, State.IsSigned.next h.state next, fun _ => rfl⟩
    | change side c => exact changed side c
    | _ => exact h.stays_self _

end Perform

end Message

/-! ## How a message comes to be signed -/

/-- The entries of a run have fixed protected buckets. -/
theorem Sign.SignedFrom.fixed {resolve : Resolver} {body payload aad : Value} {index : Nat}
    {ss ts : List Entry} (run : SignedFrom resolve body payload aad index ss ts) :
    ∀ t ∈ ts, t.prot.Fixed := by
  induction run with
  | nil => simp
  | cons _ _ w _ ih =>
    rw [List.forall_mem_cons]
    exact ⟨.of_encode w.prepared.bytes_eq, ih⟩

theorem Sign1.attach_fixed {m : Sign1} {signature : Value} {prot : Option Bucket}
    (unsigned : m.state ≠ .signed) (signed : (m.attach signature prot).after.state = .signed) :
    (m.attach signature prot).after.prot.Fixed := by
  obtain ⟨b, -, after | ⟨-, p, encoded, after⟩⟩ := m.attach_cases signature prot
  · rw [after] at signed
    exact absurd signed unsigned
  · rw [after]
    exact .of_encode encoded

theorem Sign1.sign_fixed {m : Sign1} {agent : Agent} {aad : Value} (unsigned : m.state ≠ .signed)
    (signed : (m.sign agent aad).after.state = .signed) : (m.sign agent aad).after.prot.Fixed := by
  rcases m.sign_ends agent aad with
    ⟨-, after, -⟩ | ⟨-, -, after, -⟩ | ⟨-, -, after, -⟩ | ⟨-, -, w, after, -, -⟩
  · rw [after] at signed
    exact absurd signed unsigned
  · rw [after] at signed
    exact absurd signed unsigned
  · rw [after] at signed
    cases signed
  · rw [after]
    exact .of_encode w.prepared.bytes_eq

theorem Mac0.createTag_fixed {m : Mac0} {agent : Agent} {aad : Value} (unsigned : m.state ≠ .signed)
    (signed : (m.createTag agent aad).after.state = .signed) :
    (m.createTag agent aad).after.prot.Fixed := by
  rcases m.createTag_ends agent aad with
    ⟨-, after, -⟩ | ⟨-, -, after, -⟩ | ⟨-, -, w, after, -⟩
  · rw [after] at signed
    exact absurd signed unsigned
  · rw [after] at signed
    exact absurd signed unsigned
  · rw [after]
    exact .of_encode w.prepared.bytes_eq

/-! ## How a message starts -/

theorem Sign.state_of_ofSources {m : Sign} {payload : Value} {prot unprot : Source}
    {entries : List Entry} (made : ofSources payload prot unprot entries = .ok m)
    (unsigned : ∀ s ∈ entries, s.isSigned = false) : m.state = .unsigned := by
  obtain ⟨layer, -, made⟩ := Except.bind_eq_ok.mp made
  obtain ⟨payload, -, made⟩ := Except.bind_eq_ok.mp made
  cases made
  cases entries with
  | nil => rfl
  | cons s ss => simp [stateFor, unsigned s]

theorem Sign1.of_ofSources {m : Sign1} {payload signature : Value} {prot unprot : Source}
    (made : ofSources payload prot unprot signature = .ok m) :
    m.signature = signature ∧ m.state = stateFor signature := by
  obtain ⟨layer, -, made⟩ := Except.bind_eq_ok.mp made
  obtain ⟨payload, -, made⟩ := Except.bind_eq_ok.mp made
  cases made
  exact ⟨rfl, rfl⟩

theorem Mac0.of_ofSources {m : Mac0} {payload tag : Value} {prot unprot : Source}
    (made : ofSources payload prot unprot tag = .ok m) : m.tag = tag ∧ m.state = stateFor tag := by
  obtain ⟨layer, -, made⟩ := Except.bind_eq_ok.mp made
  obtain ⟨payload, -, made⟩ := Except.bind_eq_ok.mp made
  cases made
  exact ⟨rfl, rfl⟩

/-- A received layer keeps the bytes of its protected bucket. -/
theorem Layer.fixed_of_decode {h : Layer} {prot unprot : Value} (hd : decode prot unprot = .ok h) :
    h.prot.Fixed := by
  obtain ⟨-, -, p, -, -, decoded⟩ := wellFormed_of_decode hd
  obtain ⟨-, isProtected, q, -, fixed⟩ := Bucket.wellFormed_of_decodeProtected decoded
  exact ⟨isProtected, Bucket.isFinalized_iff_exists.mpr ⟨q, fixed⟩⟩

namespace Message

variable {m : Message}

/-- **A message that comes to be signed** has fixed protected buckets. -/
theorem perform_fixed {o : Operation} (unsigned : m.state ≠ .signed)
    (signed : (m.perform o).after.state = .signed) : ∀ b ∈ (m.perform o).after.prots, b.Fixed := by
  -- Signing, tagging and attaching lead to the state; all else keeps it or comes to another one.
  have checked {state state' : State} (ne : state ≠ .signed)
      (next : state' = state ∨ state' = .verified ∨ state' = .verificationFailed) :
      state' ≠ .signed := by
    rcases next with rfl | rfl | rfl
    · exact ne
    · simp
    · simp
  have same (h : (m.perform o).after.state = m.state) :
      ∀ b ∈ (m.perform o).after.prots, b.Fixed := absurd (h.symm.trans signed) unsigned
  cases m with
  | sign m =>
    cases o with
    | signAll keys aad =>
      rw [perform, Step.within_after] at signed ⊢
      rcases Sign.sign_cases m keys aad with
        ⟨e, -, after⟩ | ⟨-, -, -, -, resolve, body, entries, -, body_eq, run, after⟩
      · rw [after] at signed
        exact absurd signed unsigned
      · rw [after]
        simp only [prots, List.forall_mem_cons, List.forall_mem_map]
        exact ⟨.of_encode body_eq, run.fixed⟩
    | verifyAll keys aad =>
      obtain ⟨state, after, next⟩ := m.verify_after keys aad
      rw [perform, Step.within_after, Step.silent_after, after] at signed
      exact absurd signed (checked unsigned next)
    | add entry =>
      refine same ?_
      rw [perform, Step.within_after, Sign.add]
      split <;> rfl
    | changeEntry index side c =>
      refine same ?_
      rw [perform, Step.within_after, changeEntry]
      split <;> rfl
    | _ => exact same rfl
  | sign1 m =>
    cases o with
    | sign agent aad =>
      rw [perform, Step.within_after] at signed ⊢
      simpa [prots] using Sign1.sign_fixed unsigned signed
    | verify agent aad =>
      obtain ⟨state, after, next⟩ := m.verify_after agent aad
      rw [perform, Step.within_after, after] at signed
      exact absurd signed (checked unsigned next)
    | attach signature prot =>
      rw [perform, Step.within_after] at signed ⊢
      simpa [prots] using Sign1.attach_fixed unsigned signed
    | toBeSigned aad alg =>
      obtain ⟨prot, after, -⟩ := m.toBeSigned_after aad alg
      refine same ?_
      rw [perform, Step.within_after, Step.silent_after, after]
      rfl
    | _ => exact same rfl
  | mac0 m =>
    cases o with
    | sign agent aad =>
      rw [perform, Step.within_after] at signed ⊢
      simpa [prots] using Mac0.createTag_fixed unsigned signed
    | verify agent aad =>
      obtain ⟨state, after, next⟩ := m.authenticateTag_after agent aad
      rw [perform, Step.within_after, after] at signed
      exact absurd signed (checked unsigned next)
    | _ => exact same rfl

/-- A message is settled: if its state is signed, its protected buckets are fixed. -/
def Settled (m : Message) : Prop :=
  m.state = .signed → ∀ b ∈ m.prots, b.Fixed

theorem Settled.perform (h : m.Settled) {o : Operation} (alone : o.replaces = false) :
    (m.perform o).after.Settled := by
  by_cases signed : m.state = .signed
  · have stays := Frozen.perform ⟨.inl signed, h signed⟩ alone
    exact fun _ => stays.keeps.prots ▸ h signed
  · exact perform_fixed signed

/-- A message that is received keeps the bytes of its protected buckets. -/
theorem fixed_of_decode {shape : Shape} {data : Value} (h : decode shape data = .ok m) :
    ∀ b ∈ m.prots, b.Fixed := by
  cases shape with
  | sign =>
    obtain ⟨m, decoded, rfl⟩ := Except.map_eq_ok.mp h
    obtain ⟨prot, unprot, xs, -, -, layer, -, each, -⟩ := Sign.decode_eq_ok decoded
    rw [prots, List.forall_mem_cons, List.forall_mem_map]
    refine ⟨Layer.fixed_of_decode layer, fun s hs => ?_⟩
    obtain ⟨x, -, decoded⟩ := Forall₂.exists_left each hs
    obtain ⟨prot, unprot, -, layer, -⟩ := Entry.decode_eq_ok decoded
    exact Layer.fixed_of_decode layer
  | sign1 =>
    obtain ⟨m, decoded, rfl⟩ := Except.map_eq_ok.mp h
    obtain ⟨prot, unprot, -, layer, -⟩ := Sign1.decode_eq_ok decoded
    rw [prots, List.forall_mem_singleton]
    exact Layer.fixed_of_decode layer
  | mac0 =>
    obtain ⟨m, decoded, rfl⟩ := Except.map_eq_ok.mp h
    obtain ⟨prot, unprot, -, layer, -⟩ := Mac0.decode_eq_ok decoded
    rw [prots, List.forall_mem_singleton]
    exact Layer.fixed_of_decode layer

/-- A message to start with is settled: it is not signed, or it keeps the bytes that were
received. -/
theorem Starts.settled (h : m.Starts) : m.Settled := by
  have of_unsigned {m : Message} (unsigned : m.state = .unsigned) : m.Settled :=
    fun signed => by rw [unsigned] at signed; cases signed
  cases h with
  | sign made unsigned => exact of_unsigned (Sign.state_of_ofSources made unsigned)
  | sign1 made unsigned =>
    exact of_unsigned ((Sign1.of_ofSources made).2.trans (by simp [Sign1.stateFor, unsigned]))
  | mac0 made untagged =>
    exact of_unsigned ((Mac0.of_ofSources made).2.trans (by simp [Mac0.stateFor, untagged]))
  | received decoded => exact fun _ => fixed_of_decode decoded

/-! ## From the moment on that the state is signed -/

/-- An operation comes to set or erase a protected parameter of the message or of an entry. -/
inductive AttemptsProtected : Message → Operation → Prop
  | body {m : Message} {c : Bucket.Change} (attempts : m.layer.prot.Attempts c) :
      AttemptsProtected m (.change .prot c)
  | entry {m : Sign} {index : Nat} {s : Entry} {c : Bucket.Change}
      (there : m.entries[index]? = some s) (attempts : s.prot.Attempts c) :
      AttemptsProtected (.sign m) (.changeEntry index .prot c)

/-- A frozen message stays as it is when a protected parameter is to be set or erased, and says that
the headers are finalized. -/
theorem Frozen.refuses {o : Operation} (h : m.Frozen) (attempts : m.AttemptsProtected o) :
    (m.perform o).after = m ∧ (m.perform o).result = .error (.header .finalized) := by
  cases attempts with
  | @body m c attempts =>
    have own : m.layer.prot.Fixed := h.fixed _ (by cases m <;> simp [prots, layer])
    obtain ⟨after, result⟩ := Layer.change_refused own attempts
    rw [perform_change, Step.within_after, Step.within_result, after]
    exact ⟨by cases m <;> rfl, result⟩
  | @entry m index s c there attempts =>
    have own : s.prot.Fixed := h.fixed _
      (List.mem_cons_of_mem _ (List.mem_map_of_mem (List.mem_of_getElem? there)))
    obtain ⟨after, result⟩ := Layer.change_refused own attempts
    rw [Message.perform, Step.within_after, Step.within_result, changeEntry, there]
    refine ⟨?_, result⟩
    rw [Step.within_after, after]
    show Message.sign { m with entries := m.entries.set index s } = _
    rw [set_of_getElem? there]

/-- A run leaves a frozen message frozen, with the same content. -/
theorem Frozen.run (h : m.Frozen) {ops : List Operation} (alone : ∀ o ∈ ops, o.replaces = false) :
    (m.run ops).Frozen ∧ m.Keeps (m.run ops) := by
  refine run_invariant (P := fun t => t.Frozen ∧ m.Keeps t) ?_ ⟨h, .refl m⟩
  rintro o member t ⟨frozen, keeps⟩
  have stays := frozen.perform (alone o member)
  exact ⟨⟨stays.state, stays.keeps.prots ▸ frozen.fixed⟩, keeps.trans stays.keeps⟩

/-- What a frozen message hands out to be signed is what its signature covers. -/
theorem Frozen.covered_of_toBeSigned {m : Sign1} {aad alg : Value} {b : Bytes}
    (h : (Message.sign1 m).Frozen) (answered : (m.toBeSigned aad alg).result = .ok b) :
    (Message.sign1 m).covered aad = [.ok b] := by
  have ne : m.state ≠ .unsigned := h.state.ne_unsigned
  have handed : (do m.check; m.structureFor (← m.prot.encode) aad) = Except.ok b := by
    unfold Sign1.toBeSigned at answered
    simp only [if_neg ne] at answered
    split at answered <;> exact answered
  obtain ⟨-, -, handed⟩ := Except.bind_eq_ok.mp handed
  rw [covered, handed]

/-- **Frozen once signed.** A message that was made without signatures, or received, is worked on
until its state is signed, and then further; signatures are attached alone. At every later point it
is of the same kind, with the same entries in number and order, protected buckets, payload and bytes
to be signed for any external data, and its state is that of a signed message. The bytes of the
protected buckets are the fixed ones. Every next operation but attaching a signature leaves the
signatures, and every next one that comes to set or erase a protected parameter leaves the whole
message and says that the headers are finalized. -/
theorem frozen_once_signed (starts : m.Starts) (before after : List Operation)
    (alone : ∀ o ∈ before ++ after, o.replaces = false) (signed : (m.run before).state = .signed) :
    let s := m.run before
    let t := s.run after
    s.Keeps t ∧ t.state.IsSigned ∧ (∀ b ∈ t.prots, ∃ p, b.fixed = some p ∧ b.encode = .ok p) ∧
      (∀ o, o.isAttach = false → (t.perform o).after.signatures = t.signatures) ∧
      (∀ o, t.AttemptsProtected o →
        (t.perform o).after = t ∧ (t.perform o).result = .error (.header .finalized)) ∧
      (∀ aad, t.covered aad = s.covered aad) ∧
      ∀ m', t = .sign1 m' → ∀ aad alg b, (m'.toBeSigned aad alg).result = .ok b →
        s.covered aad = [.ok b] := by
  intro s t
  rw [List.forall_mem_append] at alone
  have settled : s.Settled :=
    run_invariant (fun o member _ h => h.perform (alone.1 o member)) starts.settled
  have frozen : s.Frozen := ⟨.inl signed, settled signed⟩
  obtain ⟨later, keeps⟩ : t.Frozen ∧ s.Keeps t := frozen.run alone.2
  refine ⟨keeps, later.state, ?_, ?_, fun o attempts => later.refuses attempts, keeps.covered_eq, ?_⟩
  · intro b hb
    obtain ⟨p, fixed⟩ := Bucket.isFinalized_iff_exists.mp (later.fixed b hb).isFinalized
    exact ⟨p, fixed, (later.fixed b hb).encode_eq fixed⟩
  · intro o none
    have alone : o.replaces = false := by
      cases o with
      | attach => cases none
      | _ => rfl
    exact (later.perform alone).signatures none
  · intro m' ht aad alg b answered
    rw [← keeps.covered_eq aad, ht]
    exact (ht ▸ later).covered_of_toBeSigned answered

/-- A message for two signers after it was signed, changed in a header that is not protected, and
signed once more. -/
theorem frozen_once_signed_pair :
    let signers : Keys := .inOrder [.marking .es256 1, .marking .edDSA 2]
    let s := (Message.sign Sign.unsignedPair).run [.signAll signers (.bytes [])]
    let t := s.run [.changeEntry 1 .unprot (.set (.int 4) (.bytes [0x31])),
      .signAll signers (.bytes [])]
    s.state = .signed ∧ t.prots = s.prots ∧ (∀ aad, t.covered aad = s.covered aad) ∧
      (t.perform (.changeEntry 1 .prot (.erase (.int 1)))).result =
        .error (.header .finalized) := by
  intro signers s t
  have starts : (Message.sign Sign.unsignedPair).Starts :=
    @Starts.sign _ (.bytes [0]) .none .none _ rfl (by simp [Entry.isSigned, Value.isTruthy])
  have signed : s.state = .signed := by rfl
  obtain ⟨keeps, -, -, -, refused, covered, -⟩ := frozen_once_signed starts _
    [.changeEntry 1 .unprot (.set (.int 4) (.bytes [0x31])), .signAll signers (.bytes [])]
    (by decide) signed
  exact ⟨signed, keeps.prots, covered, (refused _ (.entry (by rfl) (.erase _))).2⟩

end Message

end Cose
