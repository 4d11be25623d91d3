import Cose.Message.Agent
import Cose.Message.Payload
import Cose.Structure

/-!
# Entries of a message with several signers

An entry is one signer's headers and signature over the content of the message that it belongs to.
Computing a signature and committing it are separate, so that a message with several signers can
compute all signatures before it keeps any.

## Main definitions

* `Entry`: a signer's headers and signature
* `Entry.compute`, `Entry.commit`, `Entry.sign`, `Entry.verify`: signing and verifying
* `Entry.encode`, `Entry.decode`: the encoded form
-/

namespace Cose

/-- **An entry**: the headers and the signature of one signer. -/
structure Entry extends Layer where
  signature : Value

namespace Entry

/-- A new entry. -/
def ofSources (prot unprot : Source) (signature : Value := .bytes []) : Except Error Entry := do
  let layer ← Layer.ofSources prot unprot
  return { layer with signature }

/-- Whether an entry carries a signature. -/
def isSigned (s : Entry) : Bool :=
  s.signature.isTruthy

/-- The text of an entry in messages. -/
def literal (s : Entry) : Except Error String := do
  let p ← s.prot.literal
  let u ← s.unprot.literal
  let signature ← sizeText s.signature
  return s!"<COSE_Signature: [{p}, {u}, {signature}]>"

/-- The bytes that the signature of an entry covers, with a given bucket as its protected one. -/
def toBeSigned (prot : Bucket) (body payload aad : Value) : Except Error Bytes := do
  sigStructure Context.signature.text body (.bytes (← prot.encode)) aad payload

/-- **Computes a signature** and the protected bucket that it covers; the entry stays as it is. -/
def compute (s : Entry) (agent : Agent) (body payload aad : Value) :
    Except Error (Bucket × Bytes) := do
  let alg ← agent.signatureAlgorithm .sign
  let prot ← s.withAlgorithm (.algorithm alg)
  prot.validate
  let signature ← agent.sign (← toBeSigned prot body payload aad)
  return (prot, signature)

/-- **Commits a signature** and the protected bucket that it covers, which is fixed. -/
def commit (s : Entry) (prot : Bucket) (signature : Value) : Step Entry Unit :=
  match prot.finalize with
  | .error e => .fail { s with prot } e
  | .ok (prot, _) => ⟨{ s with prot, signature }, .ok (), []⟩

/-- **Signs an entry** on its own. -/
def sign (s : Entry) (agent : Agent) (body payload : Value) (aad : Value := .bytes []) :
    Step Entry Unit :=
  if s.isSigned then .fail s (.state .entryAlreadySigned)
  else
    match s.compute agent body payload aad with
    | .error e => .fail s e
    | .ok (prot, signature) => s.commit prot (.bytes signature)

/-- **Verifies an entry.** -/
def verify (s : Entry) (agent : Agent) (body payload : Value) (aad : Value := .bytes []) :
    Except Error Unit := do
  let alg ← agent.signatureAlgorithm .sign
  s.prot.checkAlgorithm (.algorithm alg)
  if !s.isSigned then throw (.verification .noEntrySignature)
  agent.verify (← toBeSigned s.prot body payload aad) s.signature

/-- The elements that an entry is encoded as. -/
def encode (s : Entry) : Except Error (List Value) := do
  return (← s.toLayer.encode) ++ [s.signature.orElse (.bytes [])]

/-- **An entry from its encoded form.** -/
def decode [Cbor.Reader] : Value → Except Error Entry
  | .list [prot, unprot, signature] => do
    if !signature.isBytes then throw (.decode .entrySignature)
    let layer ← Layer.decode prot unprot
    return { layer with signature }
  | _ => .error (.decode .entryShape)

end Entry

end Cose
