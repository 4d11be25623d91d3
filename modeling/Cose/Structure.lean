import Cose.Cbor.Encoder
import Cose.Error

/-!
# Structures to be signed and tagged

What is signed or tagged is the encoding of an array: a context text that tells the kinds of
message apart, the protected headers, the external data and the payload. Fields that are absent
are written as empty byte strings and never left out.

## Main definitions

* `Context`: the contexts
* `byteField`: a field of a structure
* `sigStructure`: what a signature covers
* `macStructure`: what a tag covers
-/

namespace Cose

/-- **The contexts**: an entry of a message with several signers, a message with one signer, and a
tagged message. -/
inductive Context where
  | signature
  | signature1
  | mac0
  deriving DecidableEq, Repr

/-- The text of a context. -/
def Context.text : Context → String
  | .signature => "Signature"
  | .signature1 => "Signature1"
  | .mac0 => "MAC0"

/-- The bytes of a field: a byte string or buffer, empty when absent. -/
def byteField (name : String) : Value → Except Error Bytes
  | .null => .ok []
  | .bytes b | .buffer b => .ok b
  | v => .error (.argument (.fieldType name v.typeName))

/-- The encoding of a context and byte strings as an array. -/
def encodeStructure (context : Context) (fields : List Bytes) : Bytes :=
  Cbor.head .array (fields.length + 1) ++ Cbor.encodeText context.text ++
    fields.flatMap Cbor.encodeBytes

/-- **What a signature covers.** The protected headers of the signer are a field of their own for
an entry of a message with several signers, and are not used otherwise. -/
def sigStructure (context : String) (bodyProtected signProtected externalAad payload : Value) :
    Except Error Bytes := do
  let body := byteField "body_protected" bodyProtected
  let external := byteField "external_aad" externalAad
  let content := byteField "payload" payload
  if context = Context.signature.text then
    let body ← body
    match signProtected with
    | .null => throw (.argument .signProtectedMissing)
    | signProtected =>
      let signer ← byteField "sign_protected" signProtected
      return encodeStructure .signature [body, signer, ← external, ← content]
  else if context = Context.signature1.text then
    let body ← body
    match signProtected with
    | .null => return encodeStructure .signature1 [body, ← external, ← content]
    | _ => throw (.argument (.signProtectedUnused context))
  else throw (.argument (.signContext context))

/-- **What a tag covers.** -/
def macStructure (context : String) (protectedHeader externalAad payload : Value) :
    Except Error Bytes := do
  if context = Context.mac0.text then
    let body ← byteField "protected" protectedHeader
    let external ← byteField "external_aad" externalAad
    let content ← byteField "payload" payload
    return encodeStructure .mac0 [body, external, content]
  else throw (.argument (.macContext context))

end Cose
