import Cose.Proofs.Message.Completeness
import Cose.Proofs.Errors

/-!
# Messages with a single signature or tag

What the operations on such a message can come to, each said once: the message that they leave, with
the errors and the answers that go with it. What is shown of histories of these messages rests on
these cases.

## Main definitions

* `Sign1.SignEnds`, `Mac0.TagEnds`: how signing and tagging end

## Main results

* `Sign1.sign_ends`, `Mac0.createTag_ends`: these are all the ways
* `Sign1.technical_sign`, `Mac0.technical_createTag`: a message without a signature is not refused
* `Sign1.attach_cases`, `Sign1.toBeSigned_after`: attaching a signature, and the bytes to be signed
* `Sign1.verify_after`, `Mac0.authenticateTag_after`: verification changes the state at most
-/

namespace Cose

/-! ## One signature -/

namespace Sign1

variable {m : Sign1} {agent : Agent} {aad : Value}

theorem prepare_of_unsigned (unsigned : m.state = .unsigned) (bare : m.signature.isTruthy = false)
    (proper : agent.Proper) : Technical (m.prepare agent) := by
  rw [prepare, if_neg (by simp [unsigned, bare])]
  exact m.technical_prepare (Agent.technical_signatureAlgorithm proper.algorithm .sign1) _

/-- Signing is prepared only for a message that is not signed. -/
theorem unsigned_of_prepare {r : Bucket × LogLine} (h : m.prepare agent = .ok r) :
    m.state = .unsigned ∧ m.signature.isTruthy = false := by
  by_cases signed : (m.state ≠ .unsigned || m.signature.isTruthy) = true
  · rw [prepare, if_pos signed] at h
    cases h
  · simpa using signed

/-- **How signing ends.** -/
inductive SignEnds (m : Sign1) (agent : Agent) (aad : Value) (step : Step Sign1 Unit) : Prop
  | refused {e : Error} (refused : m.prepare agent = .error e) (after : step.after = m)
      (result : step.result = .error e)
  | failed {prot : Bucket} {line : LogLine} {e : Error}
      (prepared : m.prepare agent = .ok (prot, line))
      (failed : (do agent.sign (← m.structureFor (← prot.encode) aad)) = .error e)
      (after : step.after = m) (result : step.result = .error e)
  /-- The agent hands out an empty signature, which is not attached. -/
  | empty {prot : Bucket} {line : LogLine} {bytes covered : Bytes}
      (unsigned : m.state = .unsigned) (made : agent.sign covered = .ok [])
      (after : step.after = { m with state := .signing })
      (result : step.result = .error (.state .emptySignature))
      (prepared : m.prepare agent = .ok (prot, line)) (encoded : prot.encode = .ok bytes)
      (covers : m.structureFor bytes aad = .ok covered)
  | done (unsigned : m.state = .unsigned) (bare : m.signature.isTruthy = false)
      (w : m.Signing agent aad) (after : step.after = w.after)
      (signed : step.after.signature.isTruthy = true) (result : step.result = .ok ())

theorem sign_ends (m : Sign1) (agent : Agent) (aad : Value) :
    m.SignEnds agent aad (m.sign agent aad) := by
  cases prepared : m.prepare agent with
  | error e => exact .refused prepared (by rw [sign, prepared]; rfl) (by rw [sign, prepared]; rfl)
  | ok r =>
    obtain ⟨prot, line⟩ := r
    obtain ⟨unsigned, bare⟩ := unsigned_of_prepare prepared
    cases computed : (do agent.sign (← m.structureFor (← prot.encode) aad)) with
    | error e =>
      have same : { m with state := .unsigned } = m := by rw [← unsigned]
      refine .failed prepared computed ?_ ?_
      · simp only [sign, prepared, computed, Step.logging_after, Step.fail_after, same]
      · simp only [sign, prepared, computed, Step.logging_result, Step.fail_result]
    | ok signature =>
      obtain ⟨p, encoded, rest⟩ := Except.bind_eq_ok.mp computed
      obtain ⟨covered, covers, made⟩ := Except.bind_eq_ok.mp rest
      have step : m.sign agent aad =
          Step.logging [line] ({ m with state := .signing }.attach (.bytes signature) prot) := by
        simp only [sign, prepared, computed]
      by_cases none : signature = []
      · subst none
        exact .empty unsigned made (by rw [step]; rfl) (by rw [step]; rfl) prepared encoded covers
      · have present : (Value.bytes signature).isTruthy = true := Value.isTruthy_bytes none
        have attached : { m with state := .signing }.attach (.bytes signature) prot =
            ⟨{ m with prot := prot.fix p, signature := .bytes signature,
                      state := .signed }, .ok (), []⟩ := by
          rw [attach, present]
          simp only [Option.getD_some, Bucket.finalize_of_encode encoded]
          rfl
        have result : (m.sign agent aad).result = .ok () := by
          rw [step, Step.logging_result, attached]
        obtain ⟨w, after⟩ := sign_eq_ok result
        refine .done unsigned bare w after ?_ result
        rw [step, Step.logging_after, attached]
        exact present

/-- **A message without a signature is never said to be signed already**: an agent that works
properly signs it, or the error is a technical one. -/
theorem technical_sign (unsigned : m.state = .unsigned) (bare : m.signature.isTruthy = false)
    (proper : agent.Proper) (aad : Value) : Technical (m.sign agent aad).result := by
  rcases m.sign_ends agent aad with
    ⟨refused, -, result⟩ | ⟨prepared, failed, -, result⟩ | ⟨-, made, -, -⟩ | ⟨-, -, w, -, -, result⟩
  · rw [result]
    exact .error (prepare_of_unsigned unsigned bare proper _ refused)
  · rw [result]
    have computed (prot : Bucket) :
        Technical (do agent.sign (← m.structureFor (← prot.encode) aad)) :=
      prot.technical_encode.bind fun _ => (sigStructure_technical _ _ _ _ _).bind proper.sign
    exact .error (computed _ _ failed)
  · exact absurd rfl (proper.signature_ne _ _ made)
  · rw [result]
    exact .ok _

/-- Attaching a signature fails, at most with the other bucket in place, or it fixes the bucket. -/
theorem attach_cases (m : Sign1) (signature : Value) (prot : Option Bucket) :
    ∃ b, (b = m.prot ∨ prot = some b) ∧
      ((m.attach signature prot).after = { m with prot := b } ∨
        signature.isTruthy = true ∧ ∃ p, b.encode = .ok p ∧ (m.attach signature prot).after =
          { m with prot := b.fix p, signature, state := .signed }) := by
  by_cases present : signature.isTruthy = true
  · refine ⟨prot.getD m.prot, by cases prot <;> simp, ?_⟩
    cases encoded : (prot.getD m.prot).encode with
    | error e =>
      left
      rw [attach, present]
      simp [Bucket.finalize, encoded, Except.map]
    | ok p =>
      right
      refine ⟨present, p, rfl, ?_⟩
      rw [attach, present]
      simp [Bucket.finalize_of_encode encoded]
  · refine ⟨m.prot, .inl rfl, .inl ?_⟩
    rw [attach, if_pos (by simpa using present)]
    rfl

/-- The bytes to be signed leave a message as it is but for an algorithm in the protected bucket,
and that only as long as the message is not signed. -/
theorem toBeSigned_after (m : Sign1) (aad alg : Value) :
    ∃ prot, (m.toBeSigned aad alg).after = { m with prot } ∧
      (m.state ≠ .unsigned → prot = m.prot) := by
  unfold toBeSigned
  split
  · exact ⟨m.prot, rfl, fun _ => rfl⟩
  split
  · next unsigned =>
    split
    · exact ⟨m.prot, rfl, fun _ => rfl⟩
    · exact ⟨_, rfl, fun signed => absurd unsigned signed⟩
  · exact ⟨m.prot, rfl, fun _ => rfl⟩

theorem verify_after (m : Sign1) (agent : Agent) (aad : Value) :
    ∃ state, (m.verify agent aad).after = { m with state } ∧
      (state = m.state ∨ state = .verified ∨ state = .verificationFailed) := by
  rw [verify]
  split
  · exact ⟨_, rfl, .inl rfl⟩
  split
  · exact ⟨_, rfl, .inr (.inl rfl)⟩
  split
  · exact ⟨_, rfl, .inr (.inr rfl)⟩
  · exact ⟨_, rfl, .inl rfl⟩

end Sign1

/-! ## A tag -/

namespace Mac0

variable {m : Mac0} {agent : Agent} {aad : Value}

theorem prepare_of_unsigned (unsigned : m.state = .unsigned) (bare : m.tag.isTruthy = false)
    (proper : agent.Proper) : Technical (m.prepare agent) := by
  rw [prepare, if_neg (by simp [unsigned, bare])]
  exact m.technical_prepare (Agent.technical_macAlgorithm proper.algorithm) _

/-- Tagging is prepared only for a message without a tag. -/
theorem unsigned_of_prepare {r : Bucket × LogLine} (h : m.prepare agent = .ok r) :
    m.state = .unsigned ∧ m.tag.isTruthy = false := by
  by_cases tagged : (m.state ≠ .unsigned || m.tag.isTruthy) = true
  · rw [prepare, if_pos tagged] at h
    cases h
  · simpa using tagged

/-- How tagging ends. A tag is kept as the agent makes it, so it may be empty. -/
inductive TagEnds (m : Mac0) (agent : Agent) (aad : Value) (step : Step Mac0 Unit) : Prop
  | refused {e : Error} (refused : m.prepare agent = .error e) (after : step.after = m)
      (result : step.result = .error e)
  | failed {prot : Bucket} {line : LogLine} {e : Error}
      (prepared : m.prepare agent = .ok (prot, line))
      (failed : (do agent.createTag (← m.structureFor (← prot.encode) aad)) = .error e)
      (after : step.after = m) (result : step.result = .error e)
  | done (unsigned : m.state = .unsigned) (bare : m.tag.isTruthy = false)
      (w : m.Tagging agent aad) (after : step.after = w.after) (result : step.result = .ok ())

theorem createTag_ends (m : Mac0) (agent : Agent) (aad : Value) :
    m.TagEnds agent aad (m.createTag agent aad) := by
  cases prepared : m.prepare agent with
  | error e =>
    exact .refused prepared (by rw [createTag, prepared]; rfl) (by rw [createTag, prepared]; rfl)
  | ok r =>
    obtain ⟨prot, line⟩ := r
    obtain ⟨unsigned, bare⟩ := unsigned_of_prepare prepared
    cases computed : (do agent.createTag (← m.structureFor (← prot.encode) aad)) with
    | error e =>
      have same : { m with state := .unsigned } = m := by rw [← unsigned]
      refine .failed prepared computed ?_ ?_
      · simp only [createTag, prepared, computed, Step.logging_after, Step.fail_after, same]
      · simp only [createTag, prepared, computed, Step.logging_result, Step.fail_result]
    | ok tag =>
      obtain ⟨p, encoded, -⟩ := Except.bind_eq_ok.mp computed
      have result : (m.createTag agent aad).result = .ok () := by
        simp only [createTag, prepared, computed, Bucket.finalize_of_encode encoded,
          Step.logging_result]
      obtain ⟨w, after⟩ := createTag_eq_ok result
      exact .done unsigned bare w after result

/-- **A message without a tag is never said to be tagged already**: an agent that works properly
tags it, or the error is a technical one. -/
theorem technical_createTag (unsigned : m.state = .unsigned) (bare : m.tag.isTruthy = false)
    (proper : agent.Proper) (aad : Value) : Technical (m.createTag agent aad).result := by
  rcases m.createTag_ends agent aad with
    ⟨refused, -, result⟩ | ⟨prepared, failed, -, result⟩ | ⟨-, -, w, -, result⟩
  · rw [result]
    exact .error (prepare_of_unsigned unsigned bare proper _ refused)
  · rw [result]
    have computed (prot : Bucket) :
        Technical (do agent.createTag (← m.structureFor (← prot.encode) aad)) :=
      prot.technical_encode.bind fun _ =>
        (macStructure_technical _ _ _ _).bind proper.createTag
    exact .error (computed _ _ failed)
  · rw [result]
    exact .ok _

theorem authenticateTag_after (m : Mac0) (agent : Agent) (aad : Value) :
    ∃ state, (m.authenticateTag agent aad).after = { m with state } ∧
      (state = m.state ∨ state = .verified ∨ state = .verificationFailed) := by
  rw [authenticateTag]
  simp only
  split
  · exact ⟨_, rfl, .inl rfl⟩
  split
  · exact ⟨_, rfl, .inr (.inl rfl)⟩
  split
  · exact ⟨_, rfl, .inr (.inr rfl)⟩
  · exact ⟨_, rfl, .inl rfl⟩

end Mac0

end Cose
