import Cose.Credential.Operations
import Cose.Key.Ec2
import Cose.Message.Sign1

/-!
# Messages of other implementations

Other implementations write the protected header in the order in which it was given, and the
signature of a message covers the bytes as they were written. Such messages are made and checked
here without the rules for headers, with deterministic ECDSA.

## Main definitions

* `Sign1.signInOrder`: a message whose protected header keeps its order
* `Sign1.checkInOrder`: whether the signature of an encoded message is valid
-/

namespace Cose.Sign1

/-- The bytes of a protected header whose parameters keep their order; none for an empty one. -/
def encodeInOrder (parameters : List (Value × Value)) : Except Error Bytes := do
  let bucket ← Bucket.ofSource true (.value (.map parameters))
  if bucket.entries.isEmpty then return []
  match Cbor.encode .plain (.map bucket.toEntries) with
  | some b => return b
  | none => throw (.fault .unencodable)

/-- The algorithm that encoded protected headers name. -/
def namedAlgorithm [Cbor.Reader] (prot : Bytes) : Except Error Algorithm := do
  match ← (← Bucket.decodeProtected (.bytes prot)).algorithm with
  | some alg => return alg
  | none => throw (.fault .attribute)

/-- **A message whose protected header keeps its order**, signed with an elliptic curve key. -/
def signInOrder [Cbor.Reader] [Crypto.Primitives] (payload : Value) (key : Key)
    (parameters : List (Value × Value)) (aad : Value := .bytes []) : Except Error Sign1 := do
  let _ ← key.toEc2
  let prot ← encodeInOrder parameters
  let signer : Credential := ⟨.ecdsaSigner, ← namedAlgorithm prot, key, none⟩
  let covered ← sigStructure Context.signature1.text (.bytes prot) .null aad payload
  let signature ← signer.sign (.bytes covered)
  decode (.bytes (← encodeTagged .sign1 [.bytes prot, .map [], payload, .bytes signature]))

/-- **Whether the signature of an encoded message is valid** for an elliptic curve key, or for the
public half of a private one. -/
def checkInOrder [Cbor.Reader] [Crypto.Primitives] (data : Value) (key : Key)
    (aad : Value := .bytes []) : Except Error Bool := do
  let m ← decode data
  let _ ← key.toEc2
  let prot ← m.prot.encode
  let verifier : Credential := ⟨.ecdsaVerifier, ← namedAlgorithm prot, key.publicHalf, none⟩
  let covered ← sigStructure Context.signature1.text (.bytes prot) .null aad m.payload
  match verifier.verify (.bytes covered) m.signature with
  | .ok () => return true
  | .error (.verification _) => return false
  | .error e => throw e

end Cose.Sign1
