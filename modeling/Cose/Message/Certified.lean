import Cose.Credential.Operations
import Cose.Message.Sign1

/-!
# Messages for certificates

A message for a certificate names in its protected header the default algorithm of the
certificate's key, and the fingerprint of the certificate as key identifier. It is signed at once,
or offline: what has to be signed is handed out first, and the signature is attached later.

## Main definitions

* `Sign1.forCertificate`: an unsigned message for a certificate
* `Sign1.createCertified`: a message signed at once, in its encoded form
* `Sign1.offlineRequest`, `Sign1.finishOffline`: signing offline
* `Sign1.validate`: a message checked against a certificate or a public key
-/

namespace Cose

/-- Entries with those of a value added: the entries of a map, or elements that are pairs. -/
def mergeParameters (entries : List (Value × Value)) (extra : Value) :
    Except Error (List (Value × Value)) := do
  if !extra.isTruthy then return entries
  (← extra.parameters).foldlM (fun entries parameter => do
    let (label, value) ← parameter
    if label.isHashable then return Value.insert label value entries
    else throw (.fault .type)) entries

/-- The protected header of a message for a certificate, with further parameters. -/
def certifiedHeader [Key.Loader] (certificate : String) (extra : Value) :
    Except Error Value := do
  let alg ← (← Key.Loader.loadPublic certificate).defaultAlgorithm
  let kid ← Key.Loader.fingerprint certificate
  let alg ← Algorithm.lookup (.text alg)
  let entries := [(Label.alg.toValue, .algorithm alg), (Label.kid.toValue, .bytes kid)]
  return .map (← mergeParameters entries extra)

/-- **What is handed out to be signed offline**: the name of the algorithm, and in base64 the
digest of the bytes to be signed, or these bytes if the algorithm hashes them itself. -/
structure OfflineRequest where
  algorithm : String
  value : String

namespace Sign1

/-- **An unsigned message for a certificate.** -/
def forCertificate [Key.Loader] (payload : Value) (certificate : String)
    (extra : Value := .null) : Except Error Sign1 := do
  ofSources payload (.value (← certifiedHeader certificate extra)) .none

/-- **A message for a certificate, signed at once**, in its encoded form. -/
def createCertified [Key.Loader] [Crypto.Primitives] (payload : Value)
    (key certificate : String) (extra : Value := .null) (entropy : Option Bytes := none) :
    Except Error Bytes × List LogLine :=
  let prepared : Except Error (Credential × List LogLine × Sign1) := do
    let (signer, lines) ← Credential.loadSigner key .null entropy
    return (signer, lines, ← forCertificate payload certificate extra)
  match prepared with
  | .error e => (.error e, [])
  | .ok (signer, lines, m) =>
    let step := m.sign signer.agent
    (step.result.bind fun _ => step.after.encode, lines ++ step.log)

/-- **What an offline signer has to sign** for a certificate. -/
def offlineRequest [Key.Loader] (payload : Value) (certificate : String)
    (extra : Value := .null) : Except Error OfflineRequest := do
  let m ← forCertificate payload certificate extra
  match ← m.prot.algorithm with
  | none => throw (.argument .sizeUnknown)
  | some alg =>
    let covered ← m.toBeSigned.result
    let value := match alg.hash with
      | none => covered
      | some hash => hash.digest covered
    return ⟨alg.name, Text.encode64 value⟩

/-- The bytes of a signature in base64, given as a text or as bytes. -/
def decodeSignature : Value → Except Error Bytes
  | .text s =>
    if s.toList.all fun c => c.toNat < 128 then orInvalid (Text.lenient64? s.toList)
    else .error (.fault .value)
  | .bytes b | .buffer b => orInvalid (Text.lenient64? (b.map fun x => Char.ofNat x.toNat))
  | _ => .error (.fault .type)
where
  /-- What the reader found, or the error of text that is not base64. -/
  orInvalid : Option Bytes → Except Error Bytes
    | some b => .ok b
    | none => .error (.fault .base64)

/-- **A message around a signature that was made offline**, in its encoded form. -/
def finishOffline [Key.Loader] (payload : Value) (certificate : String) (signature : Value)
    (extra : Value := .null) : Except Error Bytes := do
  let m ← forCertificate payload certificate extra
  let step := m.attach (.bytes (← decodeSignature signature))
  step.result
  step.after.encode

/-- **A message that is verified** against a certificate or a public key. -/
def validate [Cbor.Reader] [Key.Loader] [Crypto.Primitives] (pem : String) (data : Value)
    (aad : Value := .bytes []) : Except Error Sign1 := do
  let m ← decode data
  let alg := match ← m.prot.algorithm with
    | some alg => .algorithm alg
    | none => .null
  let (verifier, _) ← Credential.loadVerifier pem alg
  let step := m.verify verifier.agent aad
  step.result
  return step.after

end Sign1

end Cose
