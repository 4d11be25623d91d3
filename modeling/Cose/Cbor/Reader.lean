import Cose.Cbor.Decoder
import Cose.Error

/-!
# Readers of CBOR

What is received is read by a library. Of a reader nothing is known here but what it comes to for a
byte string: the first item as a value, the finding that the bytes are malformed, or another error
that the library lets through. Where a reader makes an object of a tag that means nothing here, the
tag stands for the object.

The reader that is used reads with `decode?`. It finds bytes malformed, except where it is stopped
by a regular expression whose pattern is no string: making one is an error of types, which no one
turns into a finding about the bytes.

## Main definitions

* `Reader`, `Failure`: a reader, and why it gives no value
* `Raises`: the errors that a reader lets through
* `isStopped`: whether reading ends at a pattern that is no string
* `read`, `Reader.standard`: the reader that is used
-/

namespace Cose.Cbor

/-- **Why a reader gives no value.** -/
inductive Failure where
  | malformed
  | raised (fault : Fault)
  deriving DecidableEq, Repr

/-- **A reader of CBOR**: what it comes to for a byte string. -/
class Reader where
  read : Bytes → Except Failure Value

/-- The reader raises an error of its own over a byte string. -/
def Raises [Reader] (b : Bytes) (fault : Fault) : Prop :=
  Reader.read b = .error (.raised fault)

/-! ## Patterns that stop a reader -/

/-- Elements of one kind: how one is read, whether reading it is stopped, and whether an end mark may
stand in its place. -/
structure Elements where
  read : Bytes → Option (Value × Bytes)
  isStopped : Bytes → Bool
  mayEnd : Bool

/-- Whether reading is stopped within a number of elements that are of two kinds in turn. -/
def Elements.anyStopped (here there : Elements) : Nat → Bytes → Bool
  | 0, _ => false
  | n + 1, b =>
    here.isStopped b ||
      match here.read b with
      | some (.stop, rest) => !here.mayEnd && anyStopped there here n rest
      | some (_, rest) => anyStopped there here n rest
      | none => false

/-- **Whether reading the first item is stopped**: all before a pattern that is no string is read,
and so is that pattern. -/
def isStopped : (depth : Nat) → (frozen : Bool) → Bytes → Bool
  | 0, _, _ => false
  | _ + 1, _, [] => false
  | depth + 1, frozen, first :: rest =>
    let elements (frozen mayEnd : Bool) : Elements :=
      ⟨decodeItem depth frozen, isStopped depth frozen, mayEnd⟩
    let isOpen := infoOf first == unknownLength
    let count := if isOpen then some (rest.length, rest) else argument? (infoOf first) rest
    match Major.ofByte first, count with
    | .array, some (count, rest) =>
      (elements frozen isOpen).anyStopped (elements frozen isOpen) count rest
    | .map, some (count, rest) =>
      (elements true isOpen).anyStopped (elements frozen false) (2 * count) rest
    | .tag, some (number, rest) =>
      let frozen := frozen || number == setTag
      isStopped depth frozen rest ||
        match decodeItem depth frozen rest with
        | some (content, _) => number == patternTag && !isPattern content
        | none => false
    | _, _ => false

/-- The first item of a byte string, or why there is none. -/
def read (b : Bytes) : Except Failure Value :=
  match decode? b with
  | some v => .ok v
  | none => if isStopped maxDepth false b then .error (.raised .type) else .error .malformed

/-- The reader that is used. -/
instance Reader.standard : Reader := ⟨Cbor.read⟩

/-- The reader that is used answers with what `decode?` reads. -/
theorem Reader.read_eq_ok {b : Bytes} {v : Value} : Reader.read b = .ok v ↔ decode? b = some v := by
  change Cbor.read b = .ok v ↔ decode? b = some v
  rw [Cbor.read]
  cases decode? b with
  | some w => simp
  | none => cases isStopped maxDepth false b <;> simp

end Cose.Cbor
