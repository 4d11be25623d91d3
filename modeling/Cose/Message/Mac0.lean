import Cose.Message.Agent
import Cose.Message.Payload
import Cose.Structure

/-!
# Messages authenticated with a shared key

A COSE_Mac0 message is a layer of headers, a payload and a tag under a key that both parties
already share. Its states are those of a signed message, with the tag in place of the signature.

## Main definitions

* `Mac0`: a message with a tag
* `Mac0.createTag`, `Mac0.authenticateTag`: tagging and authenticating
* `Mac0.encode`, `Mac0.decode`: the encoded form
-/

namespace Cose

/-- **A message with a tag.** -/
structure Mac0 extends Layer where
  payload : Value
  tag : Value
  state : State

namespace Mac0

/-- The state of a message with the given tag. -/
def stateFor (tag : Value) : State :=
  if tag.isTruthy then .signed else .unsigned

/-- A new message. -/
def ofSources (payload : Value) (prot unprot : Source) (tag : Value := .bytes []) :
    Except Error Mac0 := do
  let layer ← Layer.ofSources prot unprot
  let payload ← checkPayload payload
  return { layer with payload, tag, state := stateFor tag }

/-- The text of a message in messages. -/
def literal (m : Mac0) : Except Error String := do
  let p ← m.prot.literal
  let u ← m.unprot.literal
  let payload ← sizeText m.payload
  let tag ← sizeText m.tag
  return s!"<COSE_Mac0: [{p}, {u}, {payload}, {tag}]>"

/-- The bytes that a tag covers, given the bytes of the protected bucket. -/
def structureFor (m : Mac0) (prot : Bytes) (aad : Value) : Except Error Bytes :=
  macStructure Context.mac0.text (.bytes prot) aad m.payload

/-- What is settled before the tag is computed: the protected bucket to tag, and the log line. -/
def prepare (m : Mac0) (agent : Agent) : Except Error (Bucket × LogLine) := do
  if m.state ≠ .unsigned || m.tag.isTruthy then throw (.state .alreadyTagged)
  let alg ← agent.macAlgorithm
  m.check
  let prot ← m.withAlgorithm (.algorithm alg)
  prot.validate
  let line ← operationLine "Tagging COSE_Mac0" alg m.kid
  return (prot, line)

/-- **Tags a message.** -/
def createTag (m : Mac0) (agent : Agent) (aad : Value := .bytes []) : Step Mac0 Unit :=
  match m.prepare agent with
  | .error e => .fail m e
  | .ok (prot, line) =>
    let tag : Except Error Bytes := do
      agent.createTag (← m.structureFor (← prot.encode) aad)
    Step.logging [line] <|
      match tag with
      | .error e => .fail { m with state := .unsigned } e
      | .ok tag =>
        match prot.finalize with
        | .error e => .fail { m with prot, state := .signing } e
        | .ok (prot, _) => ⟨{ m with prot, tag := .bytes tag, state := .signed }, .ok (), []⟩

/-- **Authenticates a message.** -/
def authenticateTag (m : Mac0) (agent : Agent) (aad : Value := .bytes []) : Step Mac0 Unit :=
  let admitted : Except Error Unit := do
    let alg ← agent.macAlgorithm
    m.prot.checkAlgorithm (.algorithm alg)
  match admitted with
  | .error e => .fail m e
  | .ok () =>
    let checked : Except Error Unit := do
      agent.authenticateTag (← m.structureFor (← m.prot.encode) aad) m.tag
    match checked with
    | .ok () => ⟨{ m with state := .verified }, .ok (), []⟩
    | .error e =>
      if e.kind = .authentication then .fail { m with state := .verificationFailed } e
      else .fail m e

/-- The encoded form of a message, which has a tag. -/
def encode (m : Mac0) : Except Error Bytes := do
  if !m.tag.isTruthy then throw (.state .noTag)
  let headers ← m.toLayer.encode
  encodeTagged .mac0 (headers ++ [m.payload, m.tag])

/-- **A message from its encoded form.** -/
def decode [Cbor.Reader] (data : Value) : Except Error Mac0 := do
  let (prot, unprot, payload, tag) ← decodeTagged .mac0 data
  if !(tag.isBytes && tag.isTruthy) then throw (.decode .tag)
  let layer ← Layer.decode prot unprot
  let payload ← decodePayload payload
  return { layer with payload, tag, state := stateFor tag }

end Mac0

end Cose
