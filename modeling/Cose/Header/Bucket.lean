import Cose.Registry
import Cose.Value.Equality
import Cose.Value.Literal

/-!
# Buckets of header parameters

A bucket maps header labels to values in the order of insertion. Labels are made canonical on the
way in, so an alias and its integer address one parameter; an algorithm stored for the label "alg"
becomes its identifier. A protected bucket becomes read-only once its bytes are fixed.

## Main definitions

* `Bucket`, `Bucket.fix`: a bucket of header parameters, and the one with its bytes fixed
* `Label.ofValue`: the canonical label that a value spells
* `Bucket.get`, `Bucket.contains`, `Bucket.set`, `Bucket.erase`: a bucket as a finite map
* `Bucket.update`, `Bucket.pop`, `Bucket.popFirst`, `Bucket.clear`, `Bucket.setDefault`: the
  operations built from these
* `Bucket.ofSource`: a bucket from other data
-/

namespace Cose

/-- **A bucket of header parameters.** Once it is finalized it is read-only, and its bytes are
fixed. -/
structure Bucket where
  isProtected : Bool
  entries : List (Label × Value) := []
  fixed : Option Bytes := none
  isFinalized : Bool := fixed.isSome
  /-- A bucket is read-only exactly if it has bytes that are fixed. -/
  isFinalized_eq : isFinalized = fixed.isSome := by
    first | exact @rfl Bool false | exact @rfl Bool true | rfl

/-- The canonical label that a value spells: an integer, or a text. -/
def Label.ofValue : Value → Except Error Label
  | .int n => .ok (.int n)
  | .text s => .ok (.ofText s)
  | v => .error (.header (.labelType v.typeName))

/-- A label as a value. -/
def Label.toValue : Label → Value
  | .int n => .int n
  | .text s => .text s

/-- What is stored for the parameter "alg": an algorithm and a registered name become the
identifier, other integers and texts stay. -/
def normalizeAlgorithm : Value → Except Error Value
  | .algorithm a => .ok (.int a.value)
  | .int n => .ok (.int n)
  | .text s =>
    match Algorithm.lookup (.text s) with
    | .ok a => .ok (.int a.value)
    | .error _ => .ok (.text s)
  | _ => .error (.header .algorithmType)

/-- Entries with a value stored for a label: in its place, or at the end. -/
def storeEntry (l : Label) (v : Value) : List (Label × Value) → List (Label × Value)
  | [] => [(l, v)]
  | (k, w) :: es => if k = l then (l, v) :: es else (k, w) :: storeEntry l v es

/-- Entries without the one for a label. -/
def eraseEntry (l : Label) : List (Label × Value) → List (Label × Value)
  | [] => []
  | (k, w) :: es => if k = l then es else (k, w) :: eraseEntry l es

namespace Bucket

/-- The bucket with its bytes fixed. -/
def fix (b : Bucket) (bytes : Bytes) : Bucket :=
  { b with fixed := some bytes, isFinalized := true, isFinalized_eq := rfl }

@[simp] theorem fix_isProtected (b : Bucket) (p : Bytes) : (b.fix p).isProtected = b.isProtected := rfl

@[simp] theorem fix_entries (b : Bucket) (p : Bytes) : (b.fix p).entries = b.entries := rfl

@[simp] theorem fix_fixed (b : Bucket) (p : Bytes) : (b.fix p).fixed = some p := rfl

/-- Buckets are the same if their entries and their bytes are. -/
theorem eq_of_fields {b c : Bucket} (kind : b.isProtected = c.isProtected)
    (entries : b.entries = c.entries) (fixed : b.fixed = c.fixed) : b = c := by
  obtain ⟨_, _, _, _, agree⟩ := b
  obtain ⟨_, _, _, _, agree'⟩ := c
  cases kind
  cases entries
  cases fixed
  cases agree.trans agree'.symm
  rfl

/-- Fixing the bytes that are fixed already changes nothing. -/
theorem fix_of_fixed {b : Bucket} {p : Bytes} (fixed : b.fixed = some p) : b.fix p = b :=
  eq_of_fields rfl rfl fixed.symm

/-- The value stored for a canonical label. -/
def find? (b : Bucket) (l : Label) : Option Value :=
  b.entries.lookup l

/-- Whether a value is stored for a canonical label. -/
def has (b : Bucket) (l : Label) : Bool :=
  (b.find? l).isSome

/-- The labels of a bucket in order. -/
def labels (b : Bucket) : List Label :=
  b.entries.map Prod.fst

/-- The number of parameters. -/
def size (b : Bucket) : Nat :=
  b.entries.length

/-- The parameters as entries of a map. -/
def toEntries (b : Bucket) : List (Value × Value) :=
  b.entries.map fun e => (e.1.toValue, e.2)

/-- The value of a parameter under any spelling of its label. -/
def get (b : Bucket) (label : Value) : Except Error Value := do
  match b.find? (← Label.ofValue label) with
  | some v => return v
  | none => throw (.fault .missingKey)

/-- Whether a parameter is present; what is no label is not. -/
def contains (b : Bucket) (label : Value) : Bool :=
  match Label.ofValue label with
  | .ok l => b.has l
  | .error _ => false

/-- Refuses changes once the bytes are fixed. -/
def checkMutable (b : Bucket) : Except Error Unit :=
  if b.isFinalized then .error (.header .finalized) else .ok ()

/-- The bucket with a value stored for a canonical label. -/
def store (b : Bucket) (l : Label) (v : Value) : Bucket :=
  { b with entries := storeEntry l v b.entries }

/-- The bucket with a parameter set. -/
def set (b : Bucket) (label value : Value) : Except Error Bucket := do
  b.checkMutable
  let l ← Label.ofValue label
  if l = .alg then return b.store l (← normalizeAlgorithm value)
  else return b.store l value

/-- The bucket without a parameter that it has. -/
def erase (b : Bucket) (label : Value) : Except Error Bucket := do
  b.checkMutable
  let l ← Label.ofValue label
  if b.has l then return { b with entries := eraseEntry l b.entries }
  else throw (.fault .missingKey)

/-- The bucket after setting parameters in order, up to the first that cannot be set. -/
def update (b : Bucket) : List (Except Error (Value × Value)) → Bucket × Except Error Unit
  | [] => (b, .ok ())
  | .error e :: _ => (b, .error e)
  | .ok (label, value) :: rest =>
    match b.set label value with
    | .ok b => update b rest
    | .error e => (b, .error e)

/-- Reads a parameter, or answers with a default when it is missing. -/
def getDefault (b : Bucket) (label default : Value) : Except Error Value :=
  match b.get label with
  | .error (.fault .missingKey) => .ok default
  | r => r

/-- Takes a parameter out, or answers with a default when it is missing. -/
def pop (b : Bucket) (label : Value) (default : Option Value) : Except Error (Bucket × Value) :=
  match b.get label, default with
  | .ok v, _ => (b.erase label).map fun b => (b, v)
  | .error (.fault .missingKey), some v => .ok (b, v)
  | .error e, _ => .error e

/-- Takes the first parameter out. -/
def popFirst (b : Bucket) : Except Error (Bucket × (Label × Value)) :=
  match b.entries with
  | [] => .error (.fault .missingKey)
  | e :: _ => (b.erase e.1.toValue).map fun b => (b, e)

/-- Takes all parameters out. -/
def clear (b : Bucket) : Except Error Bucket :=
  if b.entries.isEmpty then .ok b
  else b.checkMutable.map fun _ => { b with entries := [] }

/-- Reads a parameter, or sets it when it is missing. -/
def setDefault (b : Bucket) (label default : Value) : Except Error (Bucket × Value) :=
  match b.get label with
  | .error (.fault .missingKey) => (b.set label default).map fun b => (b, default)
  | .error e => .error e
  | .ok v => .ok (b, v)

/-- The registered algorithm that the bucket names, if it names one. -/
def algorithm (b : Bucket) : Except Error (Option Algorithm) :=
  match b.find? .alg with
  | none => .ok none
  | some v => (Algorithm.lookup v).map some

/-- The key identifier, null when there is none. -/
def kid (b : Bucket) : Value :=
  (b.find? .kid).getD .null

/-- The bucket with the algorithm set. -/
def setAlgorithm (b : Bucket) (alg : Value) : Except Error Bucket :=
  b.set Label.alg.toValue alg

/-- The bucket with the key identifier set. -/
def setKid (b : Bucket) (kid : Value) : Except Error Bucket :=
  b.set Label.kid.toValue kid

/-- Whether a bucket has the entries of a map, whatever their order. -/
def equalsMap (b : Bucket) (entries : List (Value × Value)) : Bool :=
  Value.same (.map b.toEntries) (.map entries)

/-- The text of a bucket in messages. -/
def literal (b : Bucket) : Except Error String :=
  if b.entries.all fun e => e.1.isWritable && e.2.isWritable then
    let kind := if b.isProtected then "protected" else "unprotected"
    let items := b.entries.map fun e => e.1.name ++ ": " ++ e.2.literal
    .ok (s!"<HeaderMap({kind}) " ++ Value.braced items ++ ">")
  else .error (.fault .value)

end Bucket

/-! ## Buckets from other data -/

/-- The elements that a value gives out one by one: those of a container, the keys of a map, the
characters of a text, the bytes of a byte string. -/
def Value.elements? : Value → Option (List Value)
  | .list xs | .tuple xs | .set xs | .frozenSet xs => some xs
  | .map es | .frozenMap es => some (es.map Prod.fst)
  | .text s => some (s.toList.map fun c => .text c.toString)
  | .bytes b | .buffer b => some (b.map fun x => .int x.toNat)
  | .simple n => some [.int n]
  | _ => none

/-- A label and its value, given as two elements. -/
def Value.pair (v : Value) : Except Error (Value × Value) :=
  match v.elements? with
  | some [label, value] => .ok (label, value)
  | some _ => .error (.fault .value)
  | none => .error (.fault .type)

/-- The parameters that a value lists: the entries of a map, or elements that are pairs. -/
def Value.parameters : Value → Except Error (List (Except Error (Value × Value)))
  | .map es | .frozenMap es => .ok (es.map .ok)
  | v =>
    match v.elements? with
    | some xs => .ok (xs.map Value.pair)
    | none => .error (.fault .type)

/-- **What a bucket is made from**: another bucket, a value, or something that lists no
parameters. -/
inductive Source where
  | bucket (b : Bucket)
  | value (v : Value)
  | object

namespace Source

/-- The source that gives no parameters. -/
def none : Source := .value .null

/-- Whether a source counts as present. -/
def isTruthy : Source → Bool
  | .bucket b => !b.entries.isEmpty
  | .value v => v.isTruthy
  | .object => true

/-- The parameters that a source lists. -/
def parameters : Source → Except Error (List (Except Error (Value × Value)))
  | .bucket b => .ok (b.toEntries.map .ok)
  | .value v => v.parameters
  | .object => .error (.fault .type)

end Source

namespace Bucket

/-- The bucket after setting the parameters that a source lists. -/
def updateFrom (b : Bucket) (s : Source) : Bucket × Except Error Unit :=
  match s.parameters with
  | .ok ps => b.update ps
  | .error e => (b, .error e)

/-- A fresh bucket with the parameters that a source lists. -/
def ofSource (isProtected : Bool) (s : Source) : Except Error Bucket :=
  let b : Bucket := { isProtected := isProtected }
  if s.isTruthy then
    match b.updateFrom s with
    | (b, .ok ()) => .ok b
    | (_, .error e) => .error e
  else .ok b

end Bucket

end Cose
