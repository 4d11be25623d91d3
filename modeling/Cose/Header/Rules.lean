import Cose.Header.Bucket
import Cose.Text.Character

/-!
# Rules for header parameters

The common parameters have types of their own, and some exclude each other: inside a bucket, and
between the two buckets of a layer, which share no label.

## Main definitions

* `isMediaType`: the values of the content type
* `Bucket.validate`: the rules inside a bucket
* `checkBuckets`: the rules between the buckets of a layer
* `keyId`: the key identifier of a layer
-/

namespace Cose

/-- Whether a value names a content type: a non-negative integer, or a trimmed text with exactly
one slash. -/
def isMediaType : Value → Bool
  | .int n => 0 ≤ n
  | .text s => !s.isEmpty && Text.trim s == s && s.toList.count '/' == 1
  | _ => false

/-- Whether a value has the type of the parameter "alg". -/
def isAlgorithmId : Value → Bool
  | .int _ | .text _ => true
  | _ => false

namespace Bucket

/-- Why an element of the list of critical labels is refused: it is no label, or the bucket has no
such parameter. -/
def criticalLabelFault? (b : Bucket) (v : Value) : Option Error :=
  match Label.ofValue v with
  | .error e => some e
  | .ok l =>
    if b.has l then none
    else
      let given := match v with
        | .text s => Label.text s
        | _ => l
      some (.writing l.isWritable (.header (.criticalMissing given)))

/-- Why the parameter "crit" is refused. -/
def criticalFault? (b : Bucket) (v : Value) : Option Error :=
  if !b.isProtected then some (.header .criticalNotAllowed)
  else match v with
    | .list [] => some (.header .criticalEmpty)
    | .list xs => xs.findSome? b.criticalLabelFault?
    | _ => some (.header .criticalNotArray)

/-- Why a parameter is refused. -/
def entryFault? (b : Bucket) (entry : Label × Value) : Option Error :=
  let (l, v) := entry
  if l = .alg then if isAlgorithmId v then none else some (.header .algorithmType)
  else if l = .crit then b.criticalFault? v
  else if l = .contentType then if isMediaType v then none else some (.header .contentType)
  else if l = .kid then if v.isBytes then none else some (.header .keyIdType)
  else if l = .iv ∨ l = .partialIv then
    if v.isBytes then none else some (.header (.vectorType l))
  else none

/-- **The rules inside a bucket.** The first parameter that is refused decides. -/
def validate (b : Bucket) : Except Error Unit :=
  match b.entries.findSome? b.entryFault? with
  | some e => .error e
  | none => if b.has .iv && b.has .partialIv then .error (.header .bothVectors) else .ok ()

end Bucket

/-- The labels that both buckets have. -/
def sharedLabels (prot unprot : Bucket) : List Label :=
  prot.labels.filter unprot.has

/-- **The rules between the buckets of a layer.** -/
def checkBuckets (prot unprot : Bucket) : Except Error Unit := do
  unprot.validate
  let shared := sharedLabels prot unprot
  if !shared.isEmpty then
    throw (.writing (shared.all Label.isWritable) (.header (.shared shared)))
  if (prot.has .iv || unprot.has .iv) && (prot.has .partialIv || unprot.has .partialIv) then
    throw (.header .bothVectors)

/-- The key identifier of a layer, from the unprotected bucket if it has one. -/
def keyId (prot unprot : Bucket) : Value :=
  match unprot.kid with
  | .null => prot.kid
  | kid => kid

end Cose
