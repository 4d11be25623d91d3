import Cose.Proofs.Header.Agreement
import Cose.Proofs.Message.Unprotected

/-!
# Signing and attaching

A message with one signer is signed in two steps: the bytes to be signed go to a key, and what it
returns is attached. A caller may take the steps apart, by asking for the bytes and attaching a
signature that was made elsewhere, and comes to the same message. What fails in the first step
leaves the message as it was. The second step refuses an empty signature, and then the message stays
between the two: it counts as being signed, without a signature, and cannot be signed any more.

## Main results

* `Layer.Prepared.check_bucket`: the headers that are signed pass the rules
* `Sign1.sign_leaves`: what a message is left as, whatever the key does
* `Sign1.toBeSigned_attach`: both steps taken apart come to the same
-/

namespace Cose

/-- **The headers that are signed pass the rules** if those of the message do. -/
theorem Layer.Prepared.check_bucket {h : Layer} {a : Algorithm} (p : h.Prepared a)
    (checked : h.check = .ok ()) : Layer.check { h with prot := p.bucket } = .ok () := by
  refine check_eq_ok.mpr ⟨p.valid, ?_⟩
  obtain ⟨-, ⟨-, same⟩ | ⟨-, apart, -⟩⟩ := withAlgorithm_cases p.bucket_eq
  · have apart := (check_eq_ok.mp checked).2
    rwa [← same] at apart
  · exact apart

namespace Sign1

variable {m : Sign1} {agent : Agent} {aad : Value} {a : Algorithm}

/-! ## What is left -/

theorem unsigned_of_sign (answered : (m.sign agent aad).result = .ok ()) : m.state = .unsigned := by
  rcases prepared : m.prepare agent with e | r
  · rw [sign, prepared] at answered
    cases answered
  · exact (unsigned_of_prepare prepared).1

/-- Where signing answers, the key has returned a signature that is not empty. -/
theorem exists_signing (answered : (m.sign agent aad).result = .ok ()) :
    ∃ w : m.Signing agent aad, w.signature ≠ [] ∧ (m.sign agent aad).after = w.after := by
  rcases m.sign_ends agent aad with
    ⟨-, -, result⟩ | ⟨-, -, -, result⟩ | ⟨-, -, -, result, -, -, -⟩ | ⟨-, -, w, after, signed, -⟩
  · exact absurd (answered.symm.trans result) (by simp)
  · exact absurd (answered.symm.trans result) (by simp)
  · exact absurd (answered.symm.trans result) (by simp)
  · refine ⟨w, fun empty => ?_, after⟩
    rw [after] at signed
    have present : (Value.bytes w.signature).isTruthy = true := signed
    rw [empty] at present
    cases present

/-- The message is left between the two steps: the key has returned an empty signature for the
bytes to be signed, and nothing but the state has changed. -/
structure Stuck (m : Sign1) (agent : Agent) (aad : Value) : Prop where
  made : ∃ prot line bytes covered, m.prepare agent = .ok (prot, line) ∧
    prot.encode = .ok bytes ∧ m.structureFor bytes aad = .ok covered ∧ agent.sign covered = .ok []
  result : (m.sign agent aad).result = .error (.state .emptySignature)
  after : (m.sign agent aad).after = { m with state := .signing }

/-- A message between the two steps is not signed by any key. -/
theorem Stuck.sign_again (h : m.Stuck agent aad) (other : Agent) (aad' : Value) :
    (m.sign agent aad).after.sign other aad' =
      .fail (m.sign agent aad).after (.state .alreadySigned) := by
  have refused : (m.sign agent aad).after.prepare other = .error (.state .alreadySigned) := by
    rw [h.after]
    rfl
  rw [sign, refused]

/-- **What signing leaves.** If it fails, whatever the reason, the message is as it was, unless the
key has returned an empty signature and the message is left between the two steps. If it answers,
the message is signed, its protected bucket is fixed, and its signature is what the key has returned
for the bytes to be signed, which is not empty. -/
theorem sign_leaves (m : Sign1) (agent : Agent) (aad : Value) :
    (∀ e, (m.sign agent aad).result = .error e →
      (m.sign agent aad).after = m ∨ m.Stuck agent aad) ∧
    (∀ e, (m.sign agent aad).result = .error e → (∀ b, agent.sign b ≠ .ok []) →
      (m.sign agent aad).after = m) ∧
    ((m.sign agent aad).result = .ok () → ∃ w : m.Signing agent aad, w.signature ≠ [] ∧
      (m.sign agent aad).after =
        { m with prot := w.prepared.bucket.fix w.prepared.bytes,
                 signature := .bytes w.signature, state := .signed }) := by
  have fails (e : Error) (failed : (m.sign agent aad).result = .error e) :
      (m.sign agent aad).after = m ∨ m.Stuck agent aad := by
    rcases m.sign_ends agent aad with
      ⟨-, after, -⟩ | ⟨-, -, after, -⟩ | ⟨-, made, after, result, prepared, encoded, covers⟩ |
      ⟨-, -, -, -, -, result⟩
    · exact .inl after
    · exact .inl after
    · exact .inr ⟨⟨_, _, _, _, prepared, encoded, covers, made⟩, result, after⟩
    · exact absurd (failed.symm.trans result) (by simp)
  refine ⟨fails, fun e failed proper => ?_, exists_signing⟩
  refine (fails e failed).resolve_right fun stuck => ?_
  obtain ⟨-, -, -, covered, -, -, -, empty⟩ := stuck.made
  exact proper covered empty

/-- An unsigned message without headers. -/
def unsignedBare : Sign1 where
  prot := { isProtected := true }
  unprot := { isProtected := false }
  payload := .bytes [0]
  signature := .bytes []
  state := .unsigned

/-- An attempt with an agent that offers nothing leaves the message as it was, and a proper one
leaves a signature. -/
theorem sign_leaves_bare :
    (unsignedBare.sign .nobody).after = unsignedBare ∧
      ∃ w : unsignedBare.Signing (.marking .es256 1) (.bytes []), w.signature ≠ [] := by
  constructor
  · exact (sign_leaves unsignedBare .nobody (.bytes [])).2.1 (.fault .attribute) (by rfl) nofun
  · have signed := (sign_leaves unsignedBare (.marking .es256 1) (.bytes [])).2.2 (by rfl)
    obtain ⟨w, nonempty, -⟩ := signed
    exact ⟨w, nonempty⟩

/-- A key that returns an empty signature leaves a message between the two steps: it is not as it
was, and no key signs it any more, not even one that would have signed it. -/
theorem sign_leaves_stuck :
    let empty : Agent := { Agent.marking .es256 1 with sign := fun _ => .ok [] }
    let good : Agent := .marking .es256 1
    let left := (unsignedBare.sign empty).after
    unsignedBare.state = .unsigned ∧ unsignedBare.signature = .bytes [] ∧
      (unsignedBare.sign empty).result = .error (.state .emptySignature) ∧
      left.state = .signing ∧ left ≠ unsignedBare ∧
      (∀ other aad, left.sign other aad = .fail left (.state .alreadySigned)) ∧
      (unsignedBare.sign good).result = .ok () := by
  intro empty good left
  have stuck : unsignedBare.Stuck empty (.bytes []) :=
    ⟨⟨_, _, _, _, rfl, rfl, rfl, rfl⟩, by rfl, by rfl⟩
  have signing : left.state = .signing := by rfl
  refine ⟨rfl, rfl, by rfl, signing, fun same => ?_, stuck.sign_again, by rfl⟩
  rw [same] at signing
  cases signing

/-! ## Both steps taken apart -/

/-- The bytes to be signed with the algorithm of a key are those that the key gets, and the message
has the protected bucket that is signed then. -/
theorem Signing.toBeSigned_eq (w : m.Signing agent aad) (unsigned : m.state = .unsigned) :
    m.toBeSigned aad (.algorithm w.algorithm) =
      ⟨{ m with prot := w.prepared.bucket }, .ok w.covered, []⟩ := by
  have checked : Layer.check { m.toLayer with prot := w.prepared.bucket } = .ok () :=
    w.prepared.check_bucket w.checked
  have covers : Sign1.structureFor { m with prot := w.prepared.bucket } w.prepared.bytes aad =
      .ok w.covered := w.covered_eq
  simp only [toBeSigned, if_pos unsigned, w.prepared.bucket_eq, checked, w.prepared.bytes_eq,
    covers, Except.ok_bind, Step.pure]

/-- Attaching the signature of a key fixes the bucket that was signed. -/
theorem Signing.attach_eq (w : m.Signing agent aad) (nonempty : w.signature ≠ []) :
    Sign1.attach { m with prot := w.prepared.bucket } (.bytes w.signature) =
      ⟨w.after, .ok (), []⟩ := by
  have present := Value.isTruthy_bytes nonempty
  rw [attach, present]
  simp only [Option.getD_none, w.prepared.finalize_eq]
  rfl

/-- **Asking for the bytes and attaching a signature comes to what signing comes to.** If a key
signs a message, the bytes to be signed with its algorithm are those that the key gets; attaching
what it returns for them succeeds, and leaves the message that signing leaves. -/
theorem toBeSigned_attach (m : Sign1) (agent : Agent) (aad : Value) (a : Algorithm)
    (own : agent.algorithm = .ok a) (answered : (m.sign agent aad).result = .ok ()) :
    ∃ covered s, Hands (fun f => m.sign { agent with sign := f } aad) agent.sign covered ∧
      agent.sign covered = .ok s ∧ (m.sign agent aad).after.signature = .bytes s ∧
      (m.toBeSigned aad (.algorithm a)).result = .ok covered ∧
      (m.toBeSigned aad (.algorithm a)).after.attach (.bytes s) =
        ⟨(m.sign agent aad).after, .ok (), []⟩ := by
  obtain ⟨w, after, hands⟩ := hands answered
  obtain ⟨w', nonempty, after'⟩ := exists_signing answered
  have nonempty : w.signature ≠ [] := by
    have same : Value.bytes w.signature = .bytes w'.signature :=
      congrArg Sign1.signature (after.symm.trans after')
    rwa [Value.bytes.inj same]
  have same : w.algorithm = a :=
    Except.ok.inj ((Agent.signatureAlgorithm_eq_ok w.algorithm_eq).symm.trans own)
  refine ⟨w.covered, w.signature, hands, w.signature_eq, by rw [after]; rfl, ?_⟩
  rw [← same, w.toBeSigned_eq (unsigned_of_sign answered), w.attach_eq nonempty, after]
  exact ⟨rfl, rfl⟩

/-- A message whose header does not name the algorithm yet is signed in both ways. -/
theorem toBeSigned_attach_es256 :
    let signer : Agent := .marking .es256 1
    let asked := unsignedBare.toBeSigned (.bytes [5]) (.algorithm .es256)
    ∃ covered s, asked.result = .ok covered ∧ signer.sign covered = .ok s ∧
      (asked.after.attach (.bytes s)).after = (unsignedBare.sign signer (.bytes [5])).after := by
  intro signer asked
  obtain ⟨covered, s, -, made, -, bytes, attached⟩ :=
    toBeSigned_attach unsignedBare signer (.bytes [5]) .es256 rfl (by rfl)
  exact ⟨covered, s, bytes, made, by rw [attached]⟩

end Sign1

end Cose
