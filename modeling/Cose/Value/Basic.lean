import Cose.Algorithm
import Cose.Bytes
import Cose.Float.Format

/-!
# Values

The data that headers, payloads and keys are made of: what CBOR carries, together with tuples and
byte buffers, which are written like arrays and byte strings, and algorithms, which stand for
their identifiers. A container that serves as a key of a map is immutable: arrays become tuples,
maps and sets become frozen.

## Main definitions

* `Value`: a value
* `Value.typeName`: the name of its type in messages
* `Value.isTruthy`: whether it counts as present where emptiness counts as absence
* `Value.length?`: the number of its elements, characters or bytes
-/

namespace Cose

/-- **A value.** A float is given by the bit pattern of a double, a map by its entries in the order
of insertion. -/
inductive Value where
  | null
  | bool (b : Bool)
  | int (n : Int)
  | text (s : String)
  | bytes (b : Bytes)
  | buffer (b : Bytes)
  | float (bits : UInt64)
  | list (items : List Value)
  | tuple (items : List Value)
  | map (entries : List (Value × Value))
  | frozenMap (entries : List (Value × Value))
  | set (items : List Value)
  | frozenSet (items : List Value)
  | tag (number : Nat) (content : Value)
  | simple (number : Nat)
  | undefined
  /-- The mark that ends a container of unknown length, where none is open. -/
  | stop
  | algorithm (a : Algorithm)

namespace Value

instance : Inhabited Value := ⟨.null⟩

/-- The name of the type of a value in messages. -/
def typeName : Value → String
  | .null => "NoneType"
  | .bool _ => "bool"
  | .int _ => "int"
  | .text _ => "str"
  | .bytes _ => "bytes"
  | .buffer _ => "bytearray"
  | .float _ => "float"
  | .list _ => "list"
  | .tuple _ => "tuple"
  | .map _ => "dict"
  | .frozenMap _ => "FrozenDict"
  | .set _ => "set"
  | .frozenSet _ => "frozenset"
  | .tag .. => "CBORTag"
  | .simple _ => "CBORSimpleValue"
  | .undefined => "undefined_type"
  | .stop => "break_marker_type"
  | .algorithm _ => "Algorithm"

/-- Whether a value counts as present: numbers other than zero, containers and texts that are not
empty, and all that is neither. -/
def isTruthy : Value → Bool
  | .null | .undefined => false
  | .bool b => b
  | .int n => n != 0
  | .text s => !s.isEmpty
  | .bytes b | .buffer b => !b.isEmpty
  | .float bits => !(Float.Format.double.decode bits.toNat).isZero
  | .list xs | .tuple xs | .set xs | .frozenSet xs => !xs.isEmpty
  | .map es | .frozenMap es => !es.isEmpty
  | .tag .. | .simple _ | .stop | .algorithm _ => true

/-- The number of elements, characters or bytes of a value that has them. -/
def length? : Value → Option Nat
  | .text s => some s.length
  | .bytes b | .buffer b => some b.length
  | .list xs | .tuple xs | .set xs | .frozenSet xs => some xs.length
  | .map es | .frozenMap es => some es.length
  | .simple _ => some 1
  | _ => none

/-- The bytes of a byte string or of a byte buffer. -/
def bytes? : Value → Option Bytes
  | .bytes b | .buffer b => some b
  | _ => none

/-- Whether a value is a byte string. -/
def isBytes : Value → Bool
  | .bytes _ => true
  | _ => false

/-- The value itself if it counts as present, else another. -/
def orElse (v other : Value) : Value :=
  if v.isTruthy then v else other

/-- An absent byte string is null. -/
def ofBytes? : Option Bytes → Value
  | some b => .bytes b
  | none => .null

end Value

end Cose
