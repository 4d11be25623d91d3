import Cose.Error
import Cose.Header.Bucket

/-!
# Values that spell bytes

Keys, tags and tagged content may be given as other values than byte strings: an integer spells
that many zero bytes, and a container of integers below 256 spells those bytes.

## Main definitions

* `Value.octets`: the bytes that a value spells
-/

namespace Cose.Value

/-- The byte that an element of a container spells. -/
def octet : Value → Except Error UInt8
  | .int n => if 0 ≤ n ∧ n < 256 then .ok (UInt8.ofNat n.toNat) else .error (.fault .value)
  | .bool b => .ok (if b then 1 else 0)
  | _ => .error (.fault .type)

/-- As many zero bytes as a number says, as long as it fits a machine word. -/
def zeros (n : Int) : Except Error Bytes :=
  if n < -2 ^ 63 ∨ 2 ^ 63 ≤ n then .error (.fault .overflow)
  else if n < 0 then .error (.fault .value)
  else .ok (List.replicate n.toNat 0)

/-- **The bytes that a value spells.** A text spells none. -/
def octets : Value → Except Error Bytes
  | .bytes b | .buffer b => .ok b
  | .int n => zeros n
  | .bool b => zeros (if b then 1 else 0)
  | .text _ => .error (.fault .type)
  | v =>
    match v.elements? with
    | some xs => xs.mapM octet
    | none => .error (.fault .type)

/-- The bytes that a value spells, none for null. -/
def octetsOrNone : Value → Except Error Bytes
  | .null => .ok []
  | v => v.octets

end Cose.Value
