import Cose.Header.Codec

/-!
# Layers of headers

A layer is the pair of a protected and an unprotected bucket that every message and every
signature of a message carries. Signing adds the algorithm of the key to the protected bucket
unless it is there already or the bucket is finalized.

## Main definitions

* `Layer`: the two buckets
* `Layer.check`, `Layer.encode`: the rules for a layer, and the two elements it is encoded as
* `Layer.checkAlgorithm`: whether an algorithm agrees with the header
* `Layer.withAlgorithm`: the protected bucket to sign with an algorithm
* `Layer.decode`: a layer from what was received
-/

namespace Cose

/-- **A layer of headers.** -/
structure Layer where
  prot : Bucket
  unprot : Bucket

/-- How an algorithm is written in messages. -/
def Value.display : Value → String
  | .text s => s
  | .algorithm a => a.name
  | v => v.literal

/-- Whether an algorithm agrees with the one that a bucket names, if it names one. -/
def Bucket.checkAlgorithm (b : Bucket) (alg : Value) : Except Error Unit := do
  match ← b.algorithm with
  | none => return ()
  | some named =>
    if Value.same (.algorithm named) alg then return ()
    else throw (.writing alg.isWritable (.algorithmMismatch (.header alg.display named.name)))

namespace Layer

/-- A layer of two sources: a bucket of the right kind is taken as it is, all else makes a fresh
bucket. -/
def ofSources (prot unprot : Source) : Except Error Layer := do
  let p ← match prot with
    | .bucket b => if b.isProtected then pure b else Bucket.ofSource true prot
    | _ => Bucket.ofSource true prot
  let u ← match unprot with
    | .bucket b => if b.isProtected then Bucket.ofSource false unprot else pure b
    | _ => Bucket.ofSource false unprot
  return ⟨p, u⟩

/-- The key identifier of a layer. -/
def kid (h : Layer) : Value :=
  keyId h.prot h.unprot

/-- **The rules for a layer.** -/
def check (h : Layer) : Except Error Unit := do
  h.prot.validate
  checkBuckets h.prot h.unprot

/-- The two elements that a layer is encoded as. -/
def encode (h : Layer) : Except Error (List Value) := do
  h.check
  let p ← h.prot.encode
  let u ← h.unprot.toMap
  return [.bytes p, u]

/-- Whether the protected bucket stays as it is when signing: it names an algorithm, or cannot be
changed any more. -/
def keepsBucket (h : Layer) : Bool :=
  h.prot.has .alg || h.prot.isFinalized

/-- **The protected bucket to sign with an algorithm**: the bucket itself if it stays as it is,
else a copy with the algorithm added. -/
def withAlgorithm (h : Layer) (alg : Value) : Except Error Bucket := do
  h.prot.checkAlgorithm alg
  if h.keepsBucket then return h.prot
  else
    let copy ← Bucket.ofSource true (.bucket h.prot)
    let filled ← copy.setAlgorithm alg
    checkBuckets filled h.unprot
    return filled

/-- **A layer from what was received.** The rules for a layer hold of it. -/
def decode [Cbor.Reader] (prot unprot : Value) : Except Error Layer := do
  let p ← Bucket.decodeProtected prot
  let u ← Bucket.decodeUnprotected unprot
  let h : Layer := ⟨p, u⟩
  match h.check with
  | .ok () => return h
  | .error (.header fault) => throw (.decode (.header fault))
  | .error e => throw e

end Layer

end Cose
