import Cose.Proofs.Message.Frozen

/-!
# Signatures that are there stay

A message is signed as a whole or entry by entry, entries are added, and in between it is verified
and encoded. What carries a signature is not signed again: an entry, a message with one signature
and a tag look at their own signature, while a message with several signers looks at its state. That
state is not unsigned if every entry came with a signature, or once the message was signed or
verified as a whole. Until then a message with several signers that is signed as a whole has all its
entries signed, also those that carry a signature.

## Main definitions

* `Message.Work`, `Message.work`: what is done to messages and their entries
* `Message.slots`, `Message.Retains`: signatures with the protected buckets that they cover, and
  messages that still have those of another one
* `Message.SignsSigned`: what carries a signature is signed
* `Message.SignsOver`: a message in the unsigned state is signed as a whole, with a signature in it

## Main results

* `Message.work_refused`: signing what is signed is refused, unless it is signed over
* `Message.work_retains`, `Message.works_retain`: what is not signed over keeps its signatures
* `Message.signatures_stay`: all histories
* `Message.partly_signed_is_signed_over`: a message that is signed over
-/

namespace Cose

namespace Message

/-! ## Work on messages -/

/-- **Work on a message.** What signs or verifies takes the keys of all entries, or one agent for a
message with a single signature or a tag. A single entry is signed for a body and a payload that are
given. -/
inductive Work where
  | add (entry : Entry)
  | signEntry (index : Nat) (agent : Agent) (body payload aad : Value)
  | signAll (keys : Keys) (aad : Value)
  | verifyAll (keys : Keys) (aad : Value)
  | sign (agent : Agent) (aad : Value)
  | verify (agent : Agent) (aad : Value)
  | encode

/-- A single entry of a message is signed. -/
def signEntry (m : Sign) (index : Nat) (agent : Agent) (body payload aad : Value) :
    Step Sign Unit :=
  match m.entries[index]? with
  | none => .fail m (.fault .missingKey)
  | some s => (s.sign agent body payload aad).within fun t =>
      { m with entries := m.entries.set index t }

/-- What a piece of work leaves. -/
def work : Message → Work → Step Message Unit
  | .sign m, .signEntry index agent body payload aad =>
    (signEntry m index agent body payload aad).within .sign
  | m, .signEntry .. => .fail m (.fault .attribute)
  | m, .add entry => m.perform (.add entry)
  | m, .signAll keys aad => m.perform (.signAll keys aad)
  | m, .verifyAll keys aad => m.perform (.verifyAll keys aad)
  | m, .sign agent aad => m.perform (.sign agent aad)
  | m, .verify agent aad => m.perform (.verify agent aad)
  | m, .encode => m.perform .encode

/-- A message after pieces of work in order, whether they answer or fail. -/
def works (m : Message) (ws : List Work) : Message :=
  ws.foldl (fun m w => (m.work w).after) m

@[simp] theorem works_nil (m : Message) : m.works [] = m := rfl

@[simp] theorem works_cons (m : Message) (w : Work) (ws : List Work) :
    m.works (w :: ws) = (m.work w).after.works ws := rfl

theorem works_append (m : Message) (before after : List Work) :
    m.works (before ++ after) = (m.works before).works after :=
  List.foldl_append

/-- A message to begin with: new, whatever signatures it is given, or received. -/
inductive Begins : Message → Prop
  | sign {m : Sign} {payload : Value} {prot unprot : Source} {entries : List Entry}
      (made : Sign.ofSources payload prot unprot entries = .ok m) : Begins (.sign m)
  | sign1 {m : Sign1} {payload signature : Value} {prot unprot : Source}
      (made : Sign1.ofSources payload prot unprot signature = .ok m) : Begins (.sign1 m)
  | mac0 {m : Mac0} {payload tag : Value} {prot unprot : Source}
      (made : Mac0.ofSources payload prot unprot tag = .ok m) : Begins (.mac0 m)
  | received {shape : Shape} {data : Value} {m : Message} (decoded : decode shape data = .ok m) :
      Begins m

/-! ## Signatures and what they cover -/

/-- The signatures of a message in order, or its tag, each with the protected buckets that it
covers. -/
def slots : Message → List (List Bucket × Value)
  | .sign m => m.entries.map fun s => ([m.prot, s.prot], s.signature)
  | .sign1 m => [([m.prot], m.signature)]
  | .mac0 m => [([m.prot], m.tag)]

/-- A message still has the signatures of another one, in their places and with the protected
buckets that they cover. -/
def Retains (m m' : Message) : Prop :=
  ∀ (i : Nat) (covered : List Bucket) (v : Value), m.slots[i]? = some (covered, v) →
    v.isTruthy = true → m'.slots[i]? = some (covered, v)

/-- Every signature is there, and there is one. -/
def IsComplete (m : Message) : Prop :=
  m.slots ≠ [] ∧ ∀ slot ∈ m.slots, slot.2.isTruthy = true

/-- What carries a signature is signed: an entry, a message with several signers of which one
entry carries a signature, a message with one signature, or a message with a tag. -/
inductive SignsSigned : Message → Work → Prop
  | entry {m : Sign} {index : Nat} {s : Entry} (agent : Agent) (body payload aad : Value)
      (there : m.entries[index]? = some s) (signed : s.isSigned = true) :
      SignsSigned (.sign m) (.signEntry index agent body payload aad)
  | all {m : Sign} {s : Entry} (keys : Keys) (aad : Value) (member : s ∈ m.entries)
      (signed : s.isSigned = true) : SignsSigned (.sign m) (.signAll keys aad)
  | sign1 {m : Sign1} (agent : Agent) (aad : Value) (signed : m.signature.isTruthy = true) :
      SignsSigned (.sign1 m) (.sign agent aad)
  | mac0 {m : Mac0} (agent : Agent) (aad : Value) (tagged : m.tag.isTruthy = true) :
      SignsSigned (.mac0 m) (.sign agent aad)

/-- A message is signed over: it is signed as a whole in the unsigned state, and one of its
entries carries a signature. -/
inductive SignsOver : Message → Work → Prop
  | all {m : Sign} {s : Entry} (keys : Keys) (aad : Value) (unsigned : m.state = .unsigned)
      (member : s ∈ m.entries) (signed : s.isSigned = true) :
      SignsOver (.sign m) (.signAll keys aad)

/-- Every entry carries what its agent has made of some bytes now, in place of what it carried. -/
def SignedAnew (keys : Keys) (m m' : Sign) : Prop :=
  m'.entries.length = m.entries.length ∧
    ∀ (i : Nat) (s : Entry), m.entries[i]? = some s → ∃ agent covered signature s',
      keys.LeadsTo m.entries.length i s agent ∧ agent.sign covered = .ok signature ∧
        m'.entries[i]? = some s' ∧ s'.signature = .bytes signature

/-- The message is not signed over in the course of work. -/
def NeverSignsOver : Message → List Work → Prop
  | _, [] => True
  | m, w :: ws => ¬ m.SignsOver w ∧ (m.work w).after.NeverSignsOver ws

namespace Retains

variable {m m' m'' : Message}

theorem refl (m : Message) : m.Retains m :=
  fun _ _ _ there _ => there

theorem trans (h : m.Retains m') (h' : m'.Retains m'') : m.Retains m'' :=
  fun i covered v there signed => h' i covered v (h i covered v there signed) signed

/-- Where there is no signature, none can be lost. -/
theorem of_unsigned (h : ∀ slot ∈ m.slots, slot.2.isTruthy = false) : m.Retains m' := by
  intro i covered v there signed
  have absent := h _ (List.mem_of_getElem? there)
  exact absurd signed (by simp [absent])

end Retains

/-! ## One piece of work -/

section Work

variable {m : Message} {w : Work}

/-- **Signing what is signed is refused**, and changes nothing, unless the message is signed
over. -/
theorem work_refused (signs : m.SignsSigned w) (kept : ¬ m.SignsOver w) :
    ∃ f, m.work w = .fail m (.state f) := by
  cases signs with
  | @entry m index s agent body payload aad there signed =>
    refine ⟨.entryAlreadySigned, ?_⟩
    rw [work, signEntry, there]
    simp only [Entry.sign, if_pos signed, Step.within, Step.fail, set_of_getElem? there]
  | @all m s keys aad member signed =>
    have ne : m.state ≠ .unsigned := fun unsigned => kept (.all keys aad unsigned member signed)
    have nonempty : ¬ m.entries.isEmpty = true := by
      simpa using List.ne_nil_of_mem member
    refine ⟨.signIn m.state, ?_⟩
    rw [work, perform, Sign.sign, if_neg nonempty, if_pos ne]
    rfl
  | @sign1 m agent aad signed =>
    refine ⟨.alreadySigned, ?_⟩
    have refused : m.prepare agent = .error (.state .alreadySigned) := by
      rw [Sign1.prepare, if_pos (by simp [signed])]
      rfl
    rw [work, perform, Sign1.sign, refused]
    rfl
  | @mac0 m agent aad tagged =>
    refine ⟨.alreadyTagged, ?_⟩
    have refused : m.prepare agent = .error (.state .alreadyTagged) := by
      rw [Mac0.prepare, if_pos (by simp [tagged])]
      rfl
    rw [work, perform, Mac0.createTag, refused]
    rfl

/-- Signing an entry without a signature leaves the other entries. -/
theorem retains_set {m : Sign} {index : Nat} {s t : Entry} (there : m.entries[index]? = some s)
    (unsigned : s.isSigned = false) :
    (Message.sign m).Retains (.sign { m with entries := m.entries.set index t }) := by
  intro i covered v at_i signed
  simp only [slots, List.getElem?_map, Option.map_eq_some_iff, Prod.mk.injEq] at at_i ⊢
  obtain ⟨u, at_i, rfl, rfl⟩ := at_i
  have other : i ≠ index := by
    rintro rfl
    obtain rfl : s = u := Option.some.inj (there.symm.trans at_i)
    exact absurd signed (by simpa [Entry.isSigned] using unsigned)
  exact ⟨u, by rw [List.getElem?_set_ne (Ne.symm other)]; exact at_i, rfl, rfl⟩

theorem retains_signEntry (m : Sign) (index : Nat) (agent : Agent) (body payload aad : Value) :
    (Message.sign m).Retains (.sign (signEntry m index agent body payload aad).after) := by
  rw [signEntry]
  split
  · exact .refl _
  next s there =>
  cases signed : s.isSigned with
  | true =>
    simp only [Entry.sign, if_pos signed, Step.within_after, Step.fail_after, set_of_getElem? there]
    exact .refl _
  | false => exact retains_set there signed

/-- **What is not signed over keeps its signatures**, and the protected buckets that they cover. -/
theorem work_retains (kept : ¬ m.SignsOver w) : m.Retains (m.work w).after := by
  by_cases signs : m.SignsSigned w
  · obtain ⟨f, refused⟩ := work_refused signs kept
    rw [refused]
    exact .refl m
  cases m with
  | sign m =>
    cases w with
    | add entry =>
      rw [work, perform, Step.within_after, Sign.add]
      split
      · exact .refl _
      · intro i covered v there _
        simp only [slots, List.map_append] at there ⊢
        exact List.getElem?_append_left (List.getElem?_eq_some_iff.mp there).1 ▸ there
    | signEntry index agent body payload aad =>
      exact retains_signEntry m index agent body payload aad
    | signAll keys aad =>
      refine .of_unsigned ?_
      simp only [slots, List.mem_map, forall_exists_index, and_imp, forall_apply_eq_imp_iff₂]
      intro s member
      by_contra signed
      exact signs (.all keys aad member (by simpa [Entry.isSigned] using signed))
    | verifyAll keys aad =>
      obtain ⟨state, after, -⟩ := m.verify_after keys aad
      rw [work, perform, Step.within_after, Step.silent_after, after]
      exact .refl (.sign m)
    | _ => exact .refl _
  | sign1 m =>
    cases w with
    | sign agent aad =>
      refine .of_unsigned ?_
      simp only [slots, List.mem_singleton, forall_eq]
      by_contra signed
      exact signs (.sign1 agent aad (by simpa using signed))
    | verify agent aad =>
      obtain ⟨state, after, -⟩ := m.verify_after agent aad
      rw [work, perform, Step.within_after, after]
      exact .refl (.sign1 m)
    | _ => exact .refl _
  | mac0 m =>
    cases w with
    | sign agent aad =>
      refine .of_unsigned ?_
      simp only [slots, List.mem_singleton, forall_eq]
      by_contra tagged
      exact signs (.mac0 agent aad (by simpa using tagged))
    | verify agent aad =>
      obtain ⟨state, after, -⟩ := m.authenticateTag_after agent aad
      rw [work, perform, Step.within_after, after]
      exact .refl (.mac0 m)
    | _ => exact .refl _

/-- A message that is signed as a whole is left as it is if signing fails, else no entry keeps
the signature it had. -/
theorem sign_cases_anew (m : Sign) (keys : Keys) (aad : Value) :
    (∃ e, (m.sign keys aad).result = .error e ∧ (m.sign keys aad).after = m) ∨
      (m.sign keys aad).result = .ok () ∧ SignedAnew keys m (m.sign keys aad).after := by
  rcases Sign.sign_cases m keys aad with
    failed | ⟨-, -, -, ok, resolve, body, entries, resolved, -, run, after⟩
  · exact .inl failed
  · refine .inr ⟨ok, ?_⟩
    rw [after]
    refine ⟨run.length_eq, fun i s at_i => ?_⟩
    obtain ⟨agent, found, w, signed⟩ := run.getElem? at_i
    rw [Nat.zero_add] at found
    exact ⟨agent, w.covered, w.signature, w.after, ⟨resolve, resolved, found⟩, w.signature_eq,
      signed, rfl⟩

/-- A message that has left the unsigned state does not come back to it. -/
theorem work_ne_unsigned (left : m.state ≠ .unsigned) : (m.work w).after.state ≠ .unsigned := by
  have checked {state : State}
      (next : state = m.state ∨ state = .verified ∨ state = .verificationFailed) :
      state ≠ .unsigned := by
    rcases next with rfl | rfl | rfl
    · exact left
    · simp
    · simp
  cases m with
  | sign m =>
    cases w with
    | add entry =>
      rw [work, perform, Step.within_after, Sign.add, if_pos (show m.state ≠ .unsigned from left)]
      exact left
    | signEntry index agent body payload aad =>
      rw [work, Step.within_after, signEntry]
      split <;> exact left
    | signAll keys aad =>
      rw [work, perform, Step.within_after, Sign.sign_of_ne_unsigned left]
      exact left
    | verifyAll keys aad =>
      obtain ⟨state, after, next⟩ := m.verify_after keys aad
      rw [work, perform, Step.within_after, Step.silent_after, after]
      exact checked next
    | _ => exact left
  | sign1 m =>
    cases w with
    | sign agent aad =>
      rw [work, perform, Sign1.sign_of_ne_unsigned left]
      exact left
    | verify agent aad =>
      obtain ⟨state, after, next⟩ := m.verify_after agent aad
      rw [work, perform, Step.within_after, after]
      exact checked next
    | _ => exact left
  | mac0 m =>
    cases w with
    | sign agent aad =>
      rw [work, perform, Mac0.createTag_of_ne_unsigned left]
      exact left
    | verify agent aad =>
      obtain ⟨state, after, next⟩ := m.authenticateTag_after agent aad
      rw [work, perform, Step.within_after, after]
      exact checked next
    | _ => exact left

end Work

/-! ## Whole histories -/

section Works

variable {m : Message} {ws : List Work}

/-- **A message that is never signed over keeps its signatures** in the course of work. -/
theorem works_retain (kept : m.NeverSignsOver ws) : m.Retains (m.works ws) := by
  induction ws generalizing m with
  | nil => exact .refl m
  | cons w ws ih => exact (work_retains kept.1).trans (ih kept.2)

/-- A message that has left the unsigned state is never signed over. -/
theorem neverSignsOver_of_ne_unsigned (left : m.state ≠ .unsigned) : m.NeverSignsOver ws := by
  induction ws generalizing m with
  | nil => trivial
  | cons w ws ih =>
    refine ⟨?_, ih (work_ne_unsigned left)⟩
    rintro ⟨-, -, unsigned, -, -⟩
    exact left unsigned

theorem work_shape (m : Message) (w : Work) : (m.work w).after.shape = m.shape := by
  cases m <;> cases w <;> rfl

/-- Only a message with several signers is signed over. -/
theorem neverSignsOver_of_single (single : m.shape ≠ .sign) : m.NeverSignsOver ws := by
  induction ws generalizing m with
  | nil => trivial
  | cons w ws ih =>
    refine ⟨?_, ih (work_shape m w ▸ single)⟩
    rintro ⟨-, -, -, -, -⟩
    exact single rfl

/-- The state of a message with several signers at the start. -/
theorem isComplete_sign {m : Sign} (state : m.state = Sign.stateFor m.entries) :
    (Message.sign m).IsComplete ↔ m.state ≠ .unsigned := by
  have complete : (Message.sign m).IsComplete ↔
      (!m.entries.isEmpty && m.entries.all Entry.isSigned) = true := by
    simp [IsComplete, slots, Entry.isSigned]
  rw [complete, state, Sign.stateFor]
  split <;> simp_all

theorem isComplete_sign1 {m : Sign1} (state : m.state = Sign1.stateFor m.signature) :
    (Message.sign1 m).IsComplete ↔ m.state ≠ .unsigned := by
  rw [state, Sign1.stateFor]
  by_cases signed : m.signature.isTruthy = true <;> simp [IsComplete, slots, signed]

theorem isComplete_mac0 {m : Mac0} (state : m.state = Mac0.stateFor m.tag) :
    (Message.mac0 m).IsComplete ↔ m.state ≠ .unsigned := by
  rw [state, Mac0.stateFor]
  by_cases tagged : m.tag.isTruthy = true <;> simp [IsComplete, slots, tagged]

/-- The state at the start is unsigned exactly if a signature is missing. -/
theorem Begins.isComplete_iff (h : m.Begins) : m.IsComplete ↔ m.state ≠ .unsigned := by
  cases h with
  | sign made =>
    obtain ⟨layer, -, made⟩ := Except.bind_eq_ok.mp made
    obtain ⟨payload, -, made⟩ := Except.bind_eq_ok.mp made
    cases made
    exact isComplete_sign rfl
  | sign1 made =>
    obtain ⟨signature, state⟩ := Sign1.of_ofSources made
    exact isComplete_sign1 (by rw [state, signature])
  | mac0 made =>
    obtain ⟨tag, state⟩ := Mac0.of_ofSources made
    exact isComplete_mac0 (by rw [state, tag])
  | @received shape data _ decoded =>
    cases shape with
    | sign =>
      obtain ⟨m, made, rfl⟩ := Except.map_eq_ok.mp decoded
      obtain ⟨-, -, -, -, -, -, -, -, state⟩ := Sign.decode_eq_ok made
      exact isComplete_sign state
    | sign1 =>
      obtain ⟨m, made, rfl⟩ := Except.map_eq_ok.mp decoded
      obtain ⟨-, -, -, -, -, -, state⟩ := Sign1.decode_eq_ok made
      exact isComplete_sign1 state
    | mac0 =>
      obtain ⟨m, made, rfl⟩ := Except.map_eq_ok.mp decoded
      obtain ⟨-, -, -, -, -, -, -, state⟩ := Mac0.decode_eq_ok made
      exact isComplete_mac0 state

/-- **Signatures that are there stay**, unless the message is signed over. A message is made, with
signatures or without, or received, and then worked on. Signing what carries a signature, which may
be an entry, is refused with an error about the state and leaves the message as it is. Only a
message with several signers may be signed over, in the unsigned state and with a signature in an
entry: signing it as a whole fails and leaves the message, or every entry is signed anew. A message
that was not signed over has the signatures that it had, and the protected buckets that they cover;
so it has those that it had when it left the unsigned state. It starts outside of that state exactly
if all its signatures are there. -/
theorem signatures_stay (begins : m.Begins) (ws : List Work) :
    let t := m.works ws
    (∀ w, t.SignsSigned w → ¬ t.SignsOver w →
        ∃ e, e.isCose = true ∧ t.work w = .fail t e) ∧
      (∀ n keys aad, t = .sign n →
        (∃ e, (n.sign keys aad).result = .error e ∧ (n.sign keys aad).after = n) ∨
          (n.sign keys aad).result = .ok () ∧ SignedAnew keys n (n.sign keys aad).after) ∧
      ((m.shape = .sign → m.NeverSignsOver ws) → m.Retains t) ∧
      (∀ before after, ws = before ++ after → (m.works before).state ≠ .unsigned →
        (m.works before).Retains t) ∧
      (m.IsComplete ↔ m.state ≠ .unsigned) := by
  intro t
  refine ⟨fun w signs kept => ?_, fun n keys aad _ => sign_cases_anew n keys aad, fun kept => ?_,
    fun before after split left => ?_, begins.isComplete_iff⟩
  · obtain ⟨f, refused⟩ := work_refused signs kept
    exact ⟨.state f, rfl, refused⟩
  · by_cases several : m.shape = .sign
    · exact works_retain (kept several)
    · exact works_retain (neverSignsOver_of_single several)
  · have never : (m.works before).NeverSignsOver after := neverSignsOver_of_ne_unsigned left
    have retained := works_retain never
    rwa [← works_append, ← split] at retained

end Works

/-- A message with two entries of which one is signed alone: signing that one again is refused, and
its signature is still there after work that is refused or adds the other one. -/
theorem signatures_stay_pair :
    let signer : Agent := .marking .es256 1
    let first : Work := .signEntry 0 signer (.bytes []) (.bytes [0]) (.bytes [])
    let second : Work := .signEntry 1 signer (.bytes []) (.bytes [0]) (.bytes [])
    let m := Message.sign Sign.unsignedPair
    m.Begins ∧ (m.works [first]).SignsSigned first ∧
      (∃ e, e.isCose = true ∧ (m.works [first]).work first = .fail (m.works [first]) e) ∧
      (m.works [first]).Retains (((m.works [first]).works [first, second])) := by
  intro signer first second m
  have begins : m.Begins := @Begins.sign _ (.bytes [0]) .none .none _ rfl
  have signs : (m.works [first]).SignsSigned first := .entry _ _ _ _ (by rfl) (by rfl)
  have apart (w : Work) (h : w = first ∨ w = second) (t : Message) : ¬ t.SignsOver w := by
    rintro ⟨⟩
    simp [first, second] at h
  refine ⟨begins, signs, (signatures_stay begins [first]).1 first signs (apart _ (.inl rfl) _), ?_⟩
  exact works_retain ⟨apart _ (.inl rfl) _, apart _ (.inr rfl) _, trivial⟩

/-- A message with two entries, of which the first one carries a signature. -/
def partlySigned : Sign where
  prot := { isProtected := true, fixed := some [] }
  unprot := { isProtected := false }
  payload := .bytes [0]
  entries :=
    let s (signature : Value) : Entry :=
      { prot := { isProtected := true, fixed := some [] }, unprot := { isProtected := false },
        signature }
    [s (.bytes [7]), s (.bytes [])]
  state := .unsigned

/-- **A message that is received with one of two signatures** and is signed as a whole: signing
answers, and the signature that was there is replaced. -/
theorem partly_signed_is_signed_over :
    let received : Bytes := [0xd8, 0x62, 0x84, 0x40, 0xa0, 0x41, 0x00, 0x82,
      0x83, 0x40, 0xa0, 0x41, 0x07, 0x83, 0x40, 0xa0, 0x40]
    let signers : Keys := .inOrder [.marking .es256 1, .marking .es256 2]
    let m := Message.sign partlySigned
    let step := m.work (.signAll signers (.bytes []))
    decode .sign (.bytes received) = .ok m ∧ m.SignsSigned (.signAll signers (.bytes [])) ∧
      step.result = .ok () ∧ m.signatures[0]? = some (.bytes [7]) ∧
      step.after.signatures[0]? =
        some (.bytes (1 :: encodeStructure .signature [[], [], [], [0]])) ∧
      ¬ m.Retains step.after := by
  intro received signers m step
  refine ⟨by rfl, .all _ _ (List.mem_cons_self ..) rfl, by rfl, rfl, by rfl, fun retains => ?_⟩
  have kept := retains 0 _ (.bytes [7]) (by rfl) rfl
  cases kept

end Message

end Cose
