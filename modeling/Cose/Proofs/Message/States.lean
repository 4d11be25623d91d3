import Cose.Proofs.Credential.Signing
import Cose.Proofs.Message.Frozen

/-!
# What the state of a message says

The state of a message with a single signature or tag goes with the signature: it is unsigned as
long as there is none, and signed, verified or failed once there is one. This holds of every history
in which only what is signed is verified. Verifying a message without a signature is refused and
recorded in the state, which is that of a signed message from then on; signing such a message is
refused.

## Main definitions

* `Message.isSigned`: whether a message has a signature or a tag
* `Message.Turn`: what an operation can do to the state and the signature
* `Message.InLine`, `Message.Tells`: what the state says about the signature in every history, and
  in one that verifies only what is signed
* `Message.Operation.Moves`: the transitions of the state

## Main results

* `Message.perform_turn`: these are all the turns
* `Message.InLine.next`, `Message.Tells.next`: one turn
* `Message.state_tells_signature`: whole histories
* `Sign1.verify_bare`, `Mac0.authenticateTag_bare`: verifying a message without a signature
-/

namespace Cose

namespace Message

/-- Whether a message has a signature or a tag. -/
def isSigned (m : Message) : Bool :=
  m.signatures.any Value.isTruthy

@[simp] theorem isSigned_sign1 (m : Sign1) : (sign1 m).isSigned = m.signature.isTruthy := by
  simp [isSigned, signatures]

@[simp] theorem isSigned_mac0 (m : Mac0) : (mac0 m).isSigned = m.tag.isTruthy := by
  simp [isSigned, signatures]

/-- Whether an operation verifies a message with an agent. -/
def Operation.isVerify : Operation → Bool
  | .verify .. => true
  | _ => false

/-- An operation that signs does so with an agent that works properly. -/
def Operation.Proper : Operation → Prop
  | .sign agent _ => agent.Proper
  | _ => True

/-! ## One operation -/

/-- What an operation can do to the state and the signature of a message: nothing, or it signs a
message without a signature, attaches a signature, or judges the signature that is there or
missing. -/
inductive Turn (m m' : Message) : Operation → Prop
  | idle {o : Operation} (state : m'.state = m.state) (signatures : m'.signatures = m.signatures) :
      Turn m m' o
  | signs {agent : Agent} {aad : Value} (unsigned : m.state = .unsigned) (state : m'.state = .signed)
      (signed : m'.isSigned = true) : Turn m m' (.sign agent aad)
  | attaches {signature : Value} {prot : Option Bucket} (state : m'.state = .signed)
      (signed : m'.isSigned = true) : Turn m m' (.attach signature prot)
  | judges {agent : Agent} {aad : Value}
      (state : m'.state = .verified ∨ m'.state = .verificationFailed)
      (signatures : m'.signatures = m.signatures) : Turn m m' (.verify agent aad)

variable {m m' : Message} {o : Operation}

theorem turn_sign (m : Sign1) {agent : Agent} (proper : agent.Proper) (aad : Value) :
    (sign1 m).Turn (sign1 (m.sign agent aad).after) (.sign agent aad) := by
  rcases m.sign_ends agent aad with
    ⟨-, after, -⟩ | ⟨-, -, after, -⟩ | ⟨-, made, -, -⟩ | ⟨unsigned, -, w, after, signed, -⟩
  · rw [after]
    exact .idle rfl rfl
  · rw [after]
    exact .idle rfl rfl
  · exact absurd rfl (proper.signature_ne _ _ made)
  · refine .signs unsigned (by rw [after]; rfl) ?_
    rw [isSigned_sign1]
    exact signed

theorem turn_createTag (m : Mac0) {agent : Agent} (proper : agent.Proper) (aad : Value) :
    (mac0 m).Turn (mac0 (m.createTag agent aad).after) (.sign agent aad) := by
  rcases m.createTag_ends agent aad with
    ⟨-, after, -⟩ | ⟨-, -, after, -⟩ | ⟨unsigned, -, w, after, -⟩
  · rw [after]
    exact .idle rfl rfl
  · rw [after]
    exact .idle rfl rfl
  · rw [after]
    refine .signs unsigned rfl ?_
    rw [isSigned_mac0]
    exact Value.isTruthy_bytes (proper.tag_ne _ _ w.tag_eq)

theorem turn_attach (m : Sign1) (signature : Value) (prot : Option Bucket) :
    (sign1 m).Turn (sign1 (m.attach signature prot).after) (.attach signature prot) := by
  obtain ⟨b, -, after | ⟨present, p, -, after⟩⟩ := m.attach_cases signature prot
  · rw [after]
    exact .idle rfl rfl
  · rw [after]
    exact .attaches rfl (by rw [isSigned_sign1]; exact present)

/-- A message whose state is all that changes, if it does, by a verification. -/
theorem turn_verify {agent : Agent} {aad : Value}
    (state : m'.state = m.state ∨ m'.state = .verified ∨ m'.state = .verificationFailed)
    (signatures : m'.signatures = m.signatures) : m.Turn m' (.verify agent aad) := by
  rcases state with same | judged
  · exact .idle same signatures
  · exact .judges judged signatures

/-- **Every operation takes one of the turns** on a message with a single signature or a tag. -/
theorem perform_turn (single : m.shape ≠ .sign) (proper : o.Proper) :
    m.Turn (m.perform o).after o := by
  cases m with
  | sign m => exact absurd rfl single
  | sign1 m =>
    cases o with
    | sign agent aad => exact turn_sign m proper aad
    | attach signature prot => exact turn_attach m signature prot
    | verify agent aad =>
      obtain ⟨state, after, next⟩ := m.verify_after agent aad
      rw [perform, Step.within_after, after]
      exact turn_verify next rfl
    | toBeSigned aad alg =>
      obtain ⟨prot, after, -⟩ := m.toBeSigned_after aad alg
      rw [perform, Step.within_after, Step.silent_after, after]
      exact .idle rfl rfl
    | _ => exact .idle rfl rfl
  | mac0 m =>
    cases o with
    | sign agent aad => exact turn_createTag m proper aad
    | verify agent aad =>
      obtain ⟨state, after, next⟩ := m.authenticateTag_after agent aad
      rw [perform, Step.within_after, after]
      exact turn_verify next rfl
    | _ => exact .idle rfl rfl

theorem perform_shape (m : Message) (o : Operation) : (m.perform o).after.shape = m.shape := by
  cases m <;> cases o <;> rfl

/-! ## What the state says -/

/-- The state is in line with the signature: the message is unsigned, without a signature, or in
a state of a signed message. -/
def InLine (m : Message) : Prop :=
  (m.state = .unsigned ∧ m.isSigned = false) ∨ m.state.IsSigned

/-- The state tells whether there is a signature. -/
def Tells (m : Message) : Prop :=
  m.state = .unsigned ↔ m.isSigned = false

theorem isSigned_congr (h : m'.signatures = m.signatures) : m'.isSigned = m.isSigned := by
  rw [isSigned, isSigned, h]

theorem InLine.next (h : m.InLine) (turn : m.Turn m' o) : m'.InLine := by
  cases turn with
  | idle state signatures => rwa [InLine, state, isSigned_congr signatures]
  | signs _ state _ => exact .inr (.inl state)
  | attaches state _ => exact .inr (.inl state)
  | judges state _ => exact .inr (.inr state)

/-- A turn that verifies only what is signed. -/
theorem Tells.next (h : m.Tells) (turn : m.Turn m' o)
    (verified : o.isVerify = true → m.isSigned = true) : m'.Tells := by
  cases turn with
  | idle state signatures => rwa [Tells, state, isSigned_congr signatures]
  | signs _ state signed => simp [Tells, state, signed]
  | attaches state signed => simp [Tells, state, signed]
  | judges state signatures =>
    have present : m'.isSigned = true := (isSigned_congr signatures).trans (verified rfl)
    rcases state with state | state <;> simp [Tells, state, present]

/-- The transitions of the state that go with an operation: signing takes an unsigned message to
a signed one, attaching a signature does so from every state, and verification records what it came
to for a signed message. -/
inductive Operation.Moves : Operation → State → State → Prop
  | rest (o : Operation) (s : State) : Moves o s s
  | sign (agent : Agent) (aad : Value) : Moves (.sign agent aad) .unsigned .signed
  | attach (signature : Value) (prot : Option Bucket) (s : State) :
      Moves (.attach signature prot) s .signed
  | verified {s : State} (agent : Agent) (aad : Value) (signed : s.IsSigned) :
      Moves (.verify agent aad) s .verified
  | failed {s : State} (agent : Agent) (aad : Value) (signed : s.IsSigned) :
      Moves (.verify agent aad) s .verificationFailed

/-- The transition of a turn that verifies only what is signed. -/
theorem Turn.moves (turn : m.Turn m' o) (inLine : m.InLine)
    (verified : o.isVerify = true → m.isSigned = true) : o.Moves m.state m'.state := by
  cases turn with
  | idle state _ => exact state ▸ .rest _ _
  | signs unsigned state _ => exact unsigned ▸ state ▸ .sign _ _
  | attaches state _ => exact state ▸ .attach _ _ _
  | judges state _ =>
    have signed : m.state.IsSigned := by
      rcases inLine with ⟨-, bare⟩ | signed
      · exact absurd (verified rfl) (by simp [bare])
      · exact signed
    rcases state with state | state
    · exact state ▸ .verified _ _ signed
    · exact state ▸ .failed _ _ signed

/-! ## Whole histories -/

/-- Only what is signed is verified in the course of operations. -/
def VerifiesSigned : Message → List Operation → Prop
  | _, [] => True
  | m, o :: ops => (o.isVerify = true → m.isSigned = true) ∧ (m.perform o).after.VerifiesSigned ops

theorem InLine.run {ops : List Operation} (h : m.InLine) (single : m.shape ≠ .sign)
    (proper : ∀ o ∈ ops, o.Proper) : (m.run ops).InLine ∧ (m.run ops).shape ≠ .sign := by
  refine run_invariant (P := fun t => t.InLine ∧ t.shape ≠ .sign) ?_ ⟨h, single⟩
  rintro o member t ⟨inLine, single⟩
  exact ⟨inLine.next (perform_turn single (proper o member)), by rwa [perform_shape]⟩

/-- The induction is on the operations: what is verified has to be signed as it is at that point. -/
theorem Tells.run {ops : List Operation} (h : m.Tells) (single : m.shape ≠ .sign)
    (proper : ∀ o ∈ ops, o.Proper) (verifies : m.VerifiesSigned ops) : (m.run ops).Tells := by
  induction ops generalizing m with
  | nil => exact h
  | cons o ops ih =>
    rw [List.forall_mem_cons] at proper
    have next : (m.perform o).after.Tells := h.next (perform_turn single proper.1) verifies.1
    exact ih next (by rwa [perform_shape]) proper.2 verifies.2

theorem Starts.state_sign1 {m : Sign1} (h : (Message.sign1 m).Starts) :
    m.state = Sign1.stateFor m.signature := by
  cases h with
  | sign1 made _ =>
    obtain ⟨signature, state⟩ := Sign1.of_ofSources made
    rw [state, signature]
  | @received shape data _ decoded =>
    cases shape with
    | sign1 =>
      obtain ⟨m, decoded, ⟨⟩⟩ := Except.map_eq_ok.mp decoded
      obtain ⟨-, -, -, -, -, -, state⟩ := Sign1.decode_eq_ok decoded
      exact state
    | _ =>
      obtain ⟨m, -, ⟨⟩⟩ := Except.map_eq_ok.mp decoded

theorem Starts.state_mac0 {m : Mac0} (h : (Message.mac0 m).Starts) :
    m.state = Mac0.stateFor m.tag := by
  cases h with
  | mac0 made _ =>
    obtain ⟨tag, state⟩ := Mac0.of_ofSources made
    rw [state, tag]
  | @received shape data _ decoded =>
    cases shape with
    | mac0 =>
      obtain ⟨m, decoded, ⟨⟩⟩ := Except.map_eq_ok.mp decoded
      obtain ⟨-, -, -, -, -, -, -, state⟩ := Mac0.decode_eq_ok decoded
      exact state
    | _ =>
      obtain ⟨m, -, ⟨⟩⟩ := Except.map_eq_ok.mp decoded

/-- At the start the state is made from the signature. -/
theorem Starts.tells (h : m.Starts) (single : m.shape ≠ .sign) : m.InLine ∧ m.Tells := by
  cases m with
  | sign m => exact absurd rfl single
  | sign1 m =>
    have state : (Message.sign1 m).state = Sign1.stateFor m.signature := h.state_sign1
    by_cases signed : m.signature.isTruthy = true
    · simp [InLine, Tells, State.IsSigned, state, Sign1.stateFor, signed]
    · simp [InLine, Tells, state, Sign1.stateFor, signed]
  | mac0 m =>
    have state : (Message.mac0 m).state = Mac0.stateFor m.tag := h.state_mac0
    by_cases tagged : m.tag.isTruthy = true
    · simp [InLine, Tells, State.IsSigned, state, Mac0.stateFor, tagged]
    · simp [InLine, Tells, state, Mac0.stateFor, tagged]

/-- A message without a signature can be signed: that it were signed already is not the
error. -/
theorem technical_perform_sign (single : m.shape ≠ .sign) (unsigned : m.state = .unsigned)
    (bare : m.isSigned = false) {agent : Agent} (proper : agent.Proper) (aad : Value) :
    Technical (m.perform (.sign agent aad)).result := by
  cases m with
  | sign m => exact absurd rfl single
  | sign1 m => exact Sign1.technical_sign unsigned (by simpa using bare) proper aad
  | mac0 m => exact Mac0.technical_createTag unsigned (by simpa using bare) proper aad

/-- **The state tells whether there is a signature.** A message with a single signature or tag, made
without one or received, is worked on; what signs it works properly. Its state is unsigned, without
a signature, or that of a signed message. If only what is signed is verified, then it is unsigned
exactly as long as there is no signature, every next operation takes it along the transitions of the
state, and a message without a signature is never said to be signed already. -/
theorem state_tells_signature (starts : m.Starts) (single : m.shape ≠ .sign) {ops : List Operation}
    (proper : ∀ o ∈ ops, o.Proper) :
    let t := m.run ops
    ((t.state = .unsigned ∧ t.isSigned = false) ∨ t.state.IsSigned) ∧
      (m.VerifiesSigned ops →
        (t.state = .unsigned ↔ t.isSigned = false) ∧
          (∀ o : Operation, o.Proper → (o.isVerify = true → t.isSigned = true) →
            o.Moves t.state (t.perform o).after.state) ∧
          (t.isSigned = false → ∀ agent aad, agent.Proper → ∀ f,
            (t.perform (.sign agent aad)).result ≠ .error (.state f))) := by
  intro t
  obtain ⟨startsInLine, startsTells⟩ := starts.tells single
  obtain ⟨inLine, still⟩ : t.InLine ∧ t.shape ≠ .sign := startsInLine.run single proper
  refine ⟨inLine, fun verifies => ?_⟩
  have tells : t.Tells := startsTells.run single proper verifies
  refine ⟨tells, ?_, ?_⟩
  · intro o proper verified
    exact (perform_turn still proper).moves inLine verified
  · intro bare agent aad proper f
    exact (technical_perform_sign still (tells.mpr bare) bare proper aad).ne_state f

end Message

/-- A message with a payload and nothing else. -/
def Sign1.bareSample : Sign1 where
  prot := { isProtected := true }
  unprot := { isProtected := false }
  payload := .bytes [0]
  signature := .bytes []
  state := .unsigned

theorem Agent.marking_proper (a : Algorithm) (mark : UInt8) : (marking a mark).Proper where
  algorithm := .ok _
  sign _ := .ok _
  createTag _ := .ok _
  signature_ne := by
    rintro data signature ⟨⟩
    simp
  tag_ne := by
    rintro data tag ⟨⟩
    simp

theorem Sign1.bareSample_starts : (Message.sign1 bareSample).Starts :=
  @Message.Starts.sign1 bareSample (.bytes [0]) (.bytes []) .none .none rfl rfl

/-- A message with a payload and without a tag. -/
def Mac0.bareSample : Mac0 where
  prot := { isProtected := true }
  unprot := { isProtected := false }
  payload := .bytes [0]
  tag := .bytes []
  state := .unsigned

theorem Mac0.bareSample_starts : (Message.mac0 bareSample).Starts :=
  @Message.Starts.mac0 bareSample (.bytes [0]) (.bytes []) .none .none rfl rfl

/-- An authenticator with a shared key. -/
def Credential.shared : Credential where
  role := .authenticator
  algorithm := .hmac256
  key := .data (.bytes [1])

/-- Messages that are signed and then verified, one of them with a credential: there is a signature
or a tag, so they are not unsigned. -/
theorem Message.state_tells_signature_signed :
    let signer : Agent := .marking .es256 1
    let ops : List Operation := [.sign signer (.bytes []), .verify signer (.bytes [])]
    let m := Message.sign1 Sign1.bareSample
    let shared : Agent := Credential.shared.agent
    let ops' : List Operation := [.sign shared (.bytes []), .verify shared (.bytes [])]
    let m' := Message.mac0 Mac0.bareSample
    (m.Starts ∧ m.shape ≠ .sign ∧ (∀ o ∈ ops, o.Proper) ∧ m.VerifiesSigned ops ∧
        (m.run ops).state ≠ .unsigned) ∧
      m'.Starts ∧ m'.shape ≠ .sign ∧ (∀ o ∈ ops', o.Proper) ∧ m'.VerifiesSigned ops' ∧
        (m'.run ops').state ≠ .unsigned := by
  intro signer ops m shared ops' m'
  constructor
  · have single : m.shape ≠ .sign := by simp [m, shape]
    have proper : ∀ o ∈ ops, o.Proper := by
      simp [ops, Operation.Proper, Agent.marking_proper, signer]
    have verifies : m.VerifiesSigned ops := ⟨by simp [Operation.isVerify], fun _ => rfl, trivial⟩
    obtain ⟨tells, -, -⟩ := (state_tells_signature Sign1.bareSample_starts single proper).2 verifies
    refine ⟨Sign1.bareSample_starts, single, proper, verifies, fun unsigned => ?_⟩
    have bare : (m.run ops).isSigned = false := tells.mp unsigned
    have signed : (m.run ops).isSigned = true := by
      obtain ⟨state, after, -⟩ :=
        (Sign1.bareSample.sign signer (.bytes [])).after.verify_after signer (.bytes [])
      simp only [m, ops, run_cons, run_nil, perform, Step.within_after, after]
      rfl
    exact absurd (signed.symm.trans bare) (by simp)
  · have single : m'.shape ≠ .sign := by simp [m', shape]
    have proper : ∀ o ∈ ops', o.Proper := by
      simp [ops', Operation.Proper, shared, Credential.shared.proper]
    have tagged : (m'.run [.sign shared (.bytes [])]).isSigned = true := by decide +kernel
    have verifies : m'.VerifiesSigned ops' :=
      ⟨by simp [Operation.isVerify], fun _ => tagged, trivial⟩
    obtain ⟨tells, -, -⟩ := (state_tells_signature Mac0.bareSample_starts single proper).2 verifies
    refine ⟨Mac0.bareSample_starts, single, proper, verifies, fun unsigned => ?_⟩
    have bare : (m'.run ops').isSigned = false := tells.mp unsigned
    have signed : (m'.run ops').isSigned = true := by decide +kernel
    exact absurd (signed.symm.trans bare) (by simp)

/-! ## Verifying what is not signed -/

/-- **A missing signature is recorded as one that failed**, once the agent is admitted. -/
theorem Sign1.verify_bare {m : Sign1} {agent : Agent} {alg : Algorithm}
    (bare : m.signature.isTruthy = false) (signs : agent.signatureAlgorithm .sign1 = .ok alg)
    (agrees : m.prot.checkAlgorithm (.algorithm alg) = .ok ()) (aad : Value) :
    m.verify agent aad =
      .fail { m with state := .verificationFailed } (.verification .noSignature) := by
  have missing : m.checkSignature agent aad = .error (.verification .noSignature) := by
    rw [checkSignature, bare]
    rfl
  rw [verify, signs]
  simp only [Except.ok_bind, agrees, missing]
  rfl

/-- **No authenticator accepts an empty tag**, and that is recorded as well. -/
theorem Mac0.authenticateTag_bare {m : Mac0} {c : Credential} {aad : Value}
    {p covered expected : Bytes} (bare : m.tag = .bytes []) (role : c.role = .authenticator)
    (mac : c.algorithm.family.isMac = true)
    (agrees : m.prot.checkAlgorithm (.algorithm c.algorithm) = .ok ())
    (encoded : m.prot.encode = .ok p) (covers : m.structureFor p aad = .ok covered)
    (tagged : c.tag (.bytes covered) = .ok expected) :
    m.authenticateTag c.agent aad =
      .fail { m with state := .verificationFailed } (.verification .authentication) := by
  have admitted : c.agent.macAlgorithm = .ok c.algorithm := by
    rw [Agent.macAlgorithm, Credential.agent, Except.ok_bind, if_pos mac]
    rfl
  have nonempty : [] ≠ expected := by
    obtain ⟨hash, -, length⟩ := Credential.length_tag tagged
    have pos := hash.digestSize_pos
    exact (List.ne_nil_of_length_pos (by omega)).symm
  have refused : c.agent.authenticateTag covered m.tag = .error (.verification .authentication) := by
    have given : (Value.bytes []).octetsOrNone = .ok [] := rfl
    rw [bare]
    simp only [Credential.agent, Credential.authenticateTag, role, tagged, Except.ok_bind, given,
      if_neg nonempty]
    rfl
  rw [authenticateTag, admitted]
  simp only [Except.ok_bind, agrees, encoded, covers, refused]
  rfl

/-- Messages that are verified before they were signed: there is no signature or tag, the state says
that there is one, and signing says that it is there already. -/
theorem Message.state_without_signature :
    let signer : Agent := .marking .es256 1
    let m := Message.sign1 Sign1.bareSample
    let t := m.run [.verify signer (.bytes [])]
    let m' := Message.mac0 Mac0.bareSample
    let t' := m'.run [.verify Credential.shared.agent (.bytes [])]
    (m.Starts ∧ t.isSigned = false ∧ t.state = .verificationFailed ∧
        (t.perform (.sign signer (.bytes []))).result = .error (.state .alreadySigned)) ∧
      m'.Starts ∧ t'.isSigned = false ∧ t'.state = .verificationFailed ∧
        (t'.perform (.sign Credential.shared.agent (.bytes []))).result =
          .error (.state .alreadyTagged) := by
  intro signer m t m' t'
  have failed : t = .sign1 { Sign1.bareSample with state := .verificationFailed } := by
    simp only [t, m, run_cons, run_nil, perform, Step.within_after]
    rw [Sign1.verify_bare (by rfl) (by rfl) (by rfl)]
    rfl
  have failed' : t' = .mac0 { Mac0.bareSample with state := .verificationFailed } := by
    simp only [t', m', run_cons, run_nil, perform, Step.within_after]
    rw [Mac0.authenticateTag_bare (by rfl) (by rfl) (by rfl) (by rfl) (by rfl) (by rfl) (by rfl)]
    rfl
  rw [failed, failed']
  refine ⟨⟨Sign1.bareSample_starts, rfl, rfl, ?_⟩, Mac0.bareSample_starts, rfl, rfl, ?_⟩
  · rw [perform, Step.within_result, Sign1.sign_of_ne_unsigned (by simp)]
    rfl
  · rfl

end Cose
