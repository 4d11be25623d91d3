import Cose.Message.Step
import Cose.Value.Basic

/-!
# Agents

Messages are signed, verified, tagged and authenticated through agents: what a caller hands over
as a key. An agent has an algorithm and the operations that it offers; using an operation that it
lacks is an error of its own. Nothing else about a key is known here, so what is stated of messages
holds for all agents.

## Main definitions

* `Agent`: an algorithm and operations
* `Agent.nobody`: the agent that offers nothing
-/

namespace Cose

/-- **An agent.** -/
structure Agent where
  /-- The algorithm that the agent works with. -/
  algorithm : Except Error Algorithm
  /-- Signs data. -/
  sign : Bytes → Except Error Bytes
  /-- Checks a signature over data. -/
  verify : Bytes → Value → Except Error Unit
  /-- Computes the tag of data. -/
  createTag : Bytes → Except Error Bytes
  /-- Checks the tag of data. -/
  authenticateTag : Bytes → Value → Except Error Unit

namespace Agent

/-- The agent that offers nothing. -/
def nobody : Agent :=
  let absent : Error := .fault .attribute
  ⟨.error absent, fun _ => .error absent, fun _ _ => .error absent, fun _ => .error absent,
    fun _ _ => .error absent⟩

/-- The algorithm of an agent that is to sign or verify a message of the given kind. Algorithms
that tag are refused. -/
def signatureAlgorithm (agent : Agent) (shape : Shape) : Except Error Algorithm := do
  let alg ← agent.algorithm
  if alg.family.isSignature then return alg
  else throw (.algorithmMismatch (.mac alg.name shape))

/-- The algorithm of an agent that is to tag or authenticate a message. Algorithms that sign are
refused. -/
def macAlgorithm (agent : Agent) : Except Error Algorithm := do
  let alg ← agent.algorithm
  if alg.family.isMac then return alg
  else throw (.algorithmMismatch (.notMac alg.name))

end Agent

/-- What a check of a signature says: accepted, refused, or not decided because of another
error. -/
def refusalOf : Except Error Unit → Except Error (Option Refusal)
  | .ok () => .ok none
  | .error e =>
    match e.refusal? with
    | some r => .ok (some r)
    | none => .error e

end Cose
