import Cose.Cbor.Reader
import Cose.Header.Rules

/-!
# The encoded form of header buckets

A protected bucket travels as a byte string that holds its canonical encoding, empty for an empty
bucket; an unprotected one travels as a map. A decoded protected bucket keeps the bytes it came
from.

## Main definitions

* `Bucket.encode`, `Bucket.finalize`: the bytes of a protected bucket, and fixing them
* `Bucket.toMap`: the map of an unprotected bucket
* `Bucket.decodeProtected`, `Bucket.decodeUnprotected`: buckets from what was received
-/

namespace Cose.Bucket

/-- **The bytes of a protected bucket.** -/
def encode (b : Bucket) : Except Error Bytes :=
  if !b.isProtected then .error (.argument .unprotectedEncoding)
  else match b.fixed with
    | some bytes => .ok bytes
    | none =>
      if b.entries.isEmpty then .ok []
      else do
        b.validate
        match Cbor.encode .canonical (.map b.toEntries) with
        | some bytes => return bytes
        | none => throw (.fault .unencodable)

/-- The bucket with its bytes fixed, and these bytes. -/
def finalize (b : Bucket) : Except Error (Bucket × Bytes) :=
  b.encode.map fun bytes => (b.fix bytes, bytes)

/-- The map of a bucket. -/
def toMap (b : Bucket) : Except Error Value :=
  b.validate.map fun _ => .map b.toEntries

/-- The label that a received key spells, without replacing an alias. -/
def givenLabel : Value → Label → Label
  | .text s, _ => .text s
  | _, l => l

/-- The entries of a bucket from those of a received map: the labels are made canonical and have to
stay distinct. -/
def load (entries : List (Label × Value)) :
    List (Value × Value) → Except Error (List (Label × Value))
  | [] => .ok entries
  | (k, v) :: rest =>
    match Label.ofValue k with
    | .error (.header fault) => .error (.decode (.header fault))
    | .error e => .error e
    | .ok l =>
      if (entries.lookup l).isSome then
        .error (.writing l.isWritable (.decode (.duplicatedLabel (givenLabel k l))))
      else load (entries ++ [(l, v)]) rest

/-- **A protected bucket from the byte string that was received.** What the reader raises is left as
it is. -/
def decodeProtected [Cbor.Reader] : Value → Except Error Bucket
  | .bytes [] => .ok { isProtected := true, fixed := some [] }
  | .bytes b =>
    match Cbor.Reader.read b with
    | .error .malformed => .error (.decode .protectedMalformed)
    | .error (.raised fault) => .error (.fault fault)
    | .ok (.map es) =>
      (load [] es).map fun entries => { isProtected := true, entries := entries, fixed := some b }
    | .ok _ => .error (.decode .protectedNotMap)
  | _ => .error (.decode .protectedNotBytes)

/-- **An unprotected bucket from the map that was received.** -/
def decodeUnprotected : Value → Except Error Bucket
  | .map es => (load [] es).map fun entries => { isProtected := false, entries := entries }
  | _ => .error (.decode .unprotectedNotMap)

end Cose.Bucket
