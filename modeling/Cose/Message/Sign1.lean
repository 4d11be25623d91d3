import Cose.Message.Agent
import Cose.Message.Payload
import Cose.Structure

/-!
# Messages with one signer

A COSE_Sign1 message is a layer of headers, a payload and a signature. Signing goes through the
states unsigned, signing and signed; verification records its outcome in the state of a message
that has been signed. The signature may also be computed elsewhere, over the bytes that
`Sign1.toBeSigned` hands out, and attached.

## Main definitions

* `Sign1`: a message with one signer
* `Sign1.toBeSigned`, `Sign1.sign`, `Sign1.attach`, `Sign1.verify`: signing and verifying
* `Sign1.encode`, `Sign1.decode`: the encoded form
-/

namespace Cose

/-- **A message with one signer.** -/
structure Sign1 extends Layer where
  payload : Value
  signature : Value
  state : State

namespace Sign1

/-- The state of a message with the given signature. -/
def stateFor (signature : Value) : State :=
  if signature.isTruthy then .signed else .unsigned

/-- A new message. -/
def ofSources (payload : Value) (prot unprot : Source) (signature : Value := .bytes []) :
    Except Error Sign1 := do
  let layer ← Layer.ofSources prot unprot
  let payload ← checkPayload payload
  return { layer with payload, signature, state := stateFor signature }

/-- The text of a message in messages. -/
def literal (m : Sign1) : Except Error String := do
  let p ← m.prot.literal
  let u ← m.unprot.literal
  let payload ← sizeText m.payload
  let signature ← sizeText m.signature
  return s!"<COSE_Sign1: [{p}, {u}, {payload}, {signature}]>"

/-- The bytes that a signature covers, given the bytes of the protected bucket. -/
def structureFor (m : Sign1) (prot : Bytes) (aad : Value) : Except Error Bytes :=
  sigStructure Context.signature1.text (.bytes prot) .null aad m.payload

/-- **The bytes to be signed.** An algorithm that is given is added to the protected bucket of an
unsigned message first. -/
def toBeSigned (m : Sign1) (aad : Value := .bytes []) (alg : Value := .null) :
    Step Sign1 Bytes :=
  let covered (m : Sign1) : Except Error Bytes := do
    m.check
    m.structureFor (← m.prot.encode) aad
  match alg with
  | .null => .pure m (covered m)
  | alg =>
    if m.state = .unsigned then
      match m.withAlgorithm alg with
      | .error e => .fail m e
      | .ok prot =>
        let m := { m with prot }
        .pure m (covered m)
    else .pure m (covered m)

/-- **Attaches a signature** and fixes the protected bucket, or another bucket in its place. -/
def attach (m : Sign1) (signature : Value) (prot : Option Bucket := none) : Step Sign1 Unit :=
  if !signature.isTruthy then .fail m (.state .emptySignature)
  else
    let m := { m with prot := prot.getD m.prot }
    match m.prot.finalize with
    | .error e => .fail m e
    | .ok (prot, _) => ⟨{ m with prot, signature, state := .signed }, .ok (), []⟩

/-- What is settled before the signature is computed: the protected bucket to sign, and the log
line. -/
def prepare (m : Sign1) (agent : Agent) : Except Error (Bucket × LogLine) := do
  if m.state ≠ .unsigned || m.signature.isTruthy then throw (.state .alreadySigned)
  let alg ← agent.signatureAlgorithm .sign1
  m.check
  let prot ← m.withAlgorithm (.algorithm alg)
  prot.validate
  let line ← operationLine "Signing COSE_Sign1" alg m.kid
  return (prot, line)

/-- **Signs a message.** -/
def sign (m : Sign1) (agent : Agent) (aad : Value := .bytes []) : Step Sign1 Unit :=
  match m.prepare agent with
  | .error e => .fail m e
  | .ok (prot, line) =>
    let signature : Except Error Bytes := do
      agent.sign (← m.structureFor (← prot.encode) aad)
    Step.logging [line] <|
      match signature with
      | .error e => .fail { m with state := .unsigned } e
      | .ok signature => { m with state := .signing }.attach (.bytes signature) (some prot)

/-- The check of the signature of a message. -/
def checkSignature (m : Sign1) (agent : Agent) (aad : Value) : Except Error Unit := do
  if !m.signature.isTruthy then throw (.verification .noSignature)
  agent.verify (← m.structureFor (← m.prot.encode) aad) m.signature

/-- **Verifies a message.** -/
def verify (m : Sign1) (agent : Agent) (aad : Value := .bytes []) : Step Sign1 Unit :=
  let admitted : Except Error Unit := do
    let alg ← agent.signatureAlgorithm .sign1
    m.prot.checkAlgorithm (.algorithm alg)
  match admitted with
  | .error e => .fail m e
  | .ok () =>
    match m.checkSignature agent aad with
    | .ok () => ⟨{ m with state := .verified }, .ok (), []⟩
    | .error e =>
      if e.kind.isA .verification then .fail { m with state := .verificationFailed } e
      else .fail m e

/-- The encoded form of a message. -/
def encode (m : Sign1) : Except Error Bytes := do
  let headers ← m.toLayer.encode
  encodeTagged .sign1 (headers ++ [m.payload, m.signature.orElse (.bytes [])])

/-- **A message from its encoded form.** -/
def decode [Cbor.Reader] (data : Value) : Except Error Sign1 := do
  let (prot, unprot, payload, signature) ← decodeTagged .sign1 data
  if !signature.isBytes then throw (.decode .signature)
  let layer ← Layer.decode prot unprot
  let payload ← decodePayload payload
  return { layer with payload, signature, state := stateFor signature }

end Sign1

/-- A new message, signed at once. -/
def signedMessage (agent : Agent) (payload : Value) (prot unprot : Source)
    (aad : Value := .bytes []) : Except Error Sign1 × List LogLine :=
  match Sign1.ofSources payload prot unprot with
  | .error e => (.error e, [])
  | .ok m =>
    let step := m.sign agent aad
    (step.result.map fun _ => step.after, step.log)

end Cose
