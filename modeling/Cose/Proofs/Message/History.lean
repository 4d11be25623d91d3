import Cose.Proofs.Header.Change
import Cose.Proofs.Message.Signing
import Cose.Proofs.Message.Wire

/-!
# Histories of messages

A message is made, or received, and then worked on: signed, verified, encoded, and its header maps
are changed. Every operation may answer or fail, and the next one finds the message as it was left.
The buckets of a message and of its entries are objects of their own here.

## Main definitions

* `Message.Operation`, `Message.perform`: the operations on messages
* `Message.run`: a message after operations in order
* `Message.Starts`: a message that is new and not signed, or received

## Main results

* `Message.run_invariant`: what each operation of a run keeps holds after the run
-/

namespace Cose

/-- A step without its answer. -/
def Step.silent {σ α : Type} (step : Step σ α) : Step σ Unit :=
  ⟨step.after, step.result.map fun _ => (), step.log⟩

@[simp] theorem Step.silent_after {σ α : Type} (step : Step σ α) :
    step.silent.after = step.after := rfl

namespace Message

/-- **An operation on a message.** What signs and verifies takes the keys of all entries, or one
agent for a message with a single signature or a tag. A signature may be attached together with
another protected bucket. -/
inductive Operation where
  | signAll (keys : Keys) (aad : Value)
  | verifyAll (keys : Keys) (aad : Value)
  | add (entry : Entry)
  | changeEntry (index : Nat) (side : Layer.Side) (c : Bucket.Change)
  | sign (agent : Agent) (aad : Value)
  | verify (agent : Agent) (aad : Value)
  | attach (signature : Value) (prot : Option Bucket)
  | toBeSigned (aad alg : Value)
  | encode
  | change (side : Layer.Side) (c : Bucket.Change)

/-- The state of a message. -/
def state : Message → State
  | .sign m => m.state
  | .sign1 m => m.state
  | .mac0 m => m.state

/-- The headers of a message itself. -/
def layer : Message → Layer
  | .sign m => m.toLayer
  | .sign1 m => m.toLayer
  | .mac0 m => m.toLayer

/-- A message with other headers of its own. -/
def withLayer (h : Layer) : Message → Message
  | .sign m => .sign { m with toLayer := h }
  | .sign1 m => .sign1 { m with toLayer := h }
  | .mac0 m => .mac0 { m with toLayer := h }

/-- A change of the headers of an entry. -/
def changeEntry (m : Sign) (index : Nat) (side : Layer.Side) (c : Bucket.Change) :
    Step Sign Unit :=
  match m.entries[index]? with
  | none => .fail m (.fault .missingKey)
  | some s => (s.toLayer.change side c).within fun h =>
      { m with entries := m.entries.set index { s with toLayer := h } }

/-- What an operation leaves. A message fails on the operations that its kind lacks. -/
def perform : Message → Operation → Step Message Unit
  | .sign m, .signAll keys aad => (m.sign keys aad).within .sign
  | .sign m, .verifyAll keys aad => (m.verify keys aad).silent.within .sign
  | .sign m, .add entry => (m.add entry).within .sign
  | .sign m, .changeEntry index side c => (changeEntry m index side c).within .sign
  | .sign1 m, .sign agent aad => (m.sign agent aad).within .sign1
  | .sign1 m, .verify agent aad => (m.verify agent aad).within .sign1
  | .sign1 m, .attach signature prot => (m.attach signature prot).within .sign1
  | .sign1 m, .toBeSigned aad alg => (m.toBeSigned aad alg).silent.within .sign1
  | .mac0 m, .sign agent aad => (m.createTag agent aad).within .mac0
  | .mac0 m, .verify agent aad => (m.authenticateTag agent aad).within .mac0
  | m, .encode => .pure m (m.encode.map fun _ => ())
  | m, .change side c => (m.layer.change side c).within (withLayer · m)
  | m, _ => .fail m (.fault .attribute)

/-- A message after operations in order, whether they answer or fail. -/
def run (m : Message) (ops : List Operation) : Message :=
  ops.foldl (fun m o => (m.perform o).after) m

/-- A message to start with: new and without signatures, or received. -/
inductive Starts : Message → Prop
  | sign {m : Sign} {payload : Value} {prot unprot : Source} {entries : List Entry}
      (made : Sign.ofSources payload prot unprot entries = .ok m)
      (unsigned : ∀ s ∈ entries, s.isSigned = false) : Starts (.sign m)
  | sign1 {m : Sign1} {payload signature : Value} {prot unprot : Source}
      (made : Sign1.ofSources payload prot unprot signature = .ok m)
      (unsigned : signature.isTruthy = false) : Starts (.sign1 m)
  | mac0 {m : Mac0} {payload tag : Value} {prot unprot : Source}
      (made : Mac0.ofSources payload prot unprot tag = .ok m)
      (untagged : tag.isTruthy = false) : Starts (.mac0 m)
  | received {shape : Shape} {data : Value} {m : Message} (decoded : decode shape data = .ok m) :
      Starts m

@[simp] theorem run_nil (m : Message) : m.run [] = m := rfl

@[simp] theorem run_cons (m : Message) (o : Operation) (ops : List Operation) :
    m.run (o :: ops) = (m.perform o).after.run ops := rfl

/-- **What each operation of a run keeps** holds after the run. -/
theorem run_invariant {P : Message → Prop} {m : Message} {ops : List Operation}
    (kept : ∀ o ∈ ops, ∀ m, P m → P (m.perform o).after) (start : P m) : P (m.run ops) := by
  induction ops generalizing m with
  | nil => exact start
  | cons o ops ih =>
    rw [List.forall_mem_cons] at kept
    exact ih kept.2 (kept.1 m start)

end Message

end Cose
