import Cose.Cbor.Encoder
import Cose.Cbor.Reader
import Cose.Header.Layer
import Cose.Message.Step

/-!
# Payloads and tagged arrays

What the kinds of message share: a payload is a byte string or absent, and an encoded message is a
tagged array of four elements.

## Main definitions

* `checkPayload`: the payload of a new message
* `decodePayload`: the payload of a received message
* `encodeTagged`, `decodeTagged`: an array of four elements behind the tag of a kind of message
* `sizeText`: the size of a payload or a signature in messages
-/

namespace Cose

/-- The payload of a new message: a byte string, a copy of a buffer, or null. -/
def checkPayload : Value → Except Error Value
  | .null => .ok .null
  | .bytes b | .buffer b => .ok (.bytes b)
  | v => .error (.argument (.payloadType v.typeName))

/-- The payload of a received message: a byte string or null. -/
def decodePayload : Value → Except Error Value
  | .null => .ok .null
  | .bytes b => .ok (.bytes b)
  | _ => .error (.decode .payload)

/-- The encoding of an array behind the tag of a kind of message. -/
def encodeTagged (shape : Shape) (elements : List Value) : Except Error Bytes :=
  match Cbor.encode .plain (.tag shape.tag (.list elements)) with
  | some b => .ok b
  | none => .error (.fault .unencodable)

/-- The value that data is read as. Only bytes can be read. -/
def readData [Cbor.Reader] (data : Value) : Except Cbor.Failure Value :=
  match data.bytes? with
  | some b => Cbor.Reader.read b
  | none => .error (.raised .type)

/-- The four elements behind the tag of a kind of message. An error of types that the reader raises
is a finding about the data. -/
def decodeTagged [Cbor.Reader] (shape : Shape) (data : Value) :
    Except Error (Value × Value × Value × Value) :=
  match readData data with
  | .error .malformed => .error (.decode (.malformed shape))
  | .error (.raised fault) =>
    if fault.kind.isA .type then .error (.decode (.malformed shape)) else .error (.fault fault)
  | .ok (.tag number content) =>
    if number = shape.tag then
      match content with
      | .list [a, b, c, d] => .ok (a, b, c, d)
      | _ => .error (.decode (.wrongLength shape))
    else .error (.decode (.wrongTag shape))
  | .ok _ => .error (.decode (.wrongTag shape))

/-- The size of a payload or a signature in messages; what is absent has size zero. -/
def sizeText (v : Value) : Except Error String :=
  match (v.orElse (.bytes [])).length? with
  | some n => .ok s!"({n} B)"
  | none => .error (.fault .type)

/-- The text of a value in messages, if it has one. -/
def Value.literal? (v : Value) : Except Error String :=
  if v.isWritable then .ok v.literal else .error (.fault .value)

/-- The log line of an operation with an algorithm and a key identifier. -/
def operationLine (what : String) (alg : Algorithm) (kid : Value) : Except Error LogLine := do
  let kid ← kid.literal?
  return ⟨.debug, s!"{what} with {alg.name} (kid={kid})"⟩

end Cose
