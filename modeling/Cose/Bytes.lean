/-!
# Byte strings

A byte string is a list of bytes. This module reads and writes natural numbers big-endian, both
with the fewest digits and at a fixed width, and relates byte strings to text.

The powers of numbers, here and in everything that is stated later, are those of the core library,
also where the algebra of Mathlib would read `x ^ n` as a power in a monoid. The two are equal by
definition, and are not the same term.

## Main definitions

* `Bytes.ofNat`, `Bytes.ofNatWidth`: the digits of a number, shortest and at a fixed width
* `Bytes.toNat`: the number that a byte string spells
* `Bytes.ofText`, `Bytes.toText?`: UTF-8
* `Bytes.hex`: two lower-case hexadecimal digits a byte
-/

namespace Cose

/-- The power that a type of numbers has in the core library comes before any other. -/
@[default_instance 20000]
scoped instance naturalPow {α : Type} [NatPow α] : Pow α Nat := instPowNat

/-- **A byte string.** -/
abbrev Bytes := List UInt8

namespace Bytes

/-- The number whose big-endian base-256 digits are the given bytes. -/
def toNat (b : Bytes) : Nat :=
  b.foldl (fun n x => n * 256 + x.toNat) 0

/-- The last `width` big-endian digits of a number, base 256. -/
def ofNatWidth : (width : Nat) → Nat → Bytes
  | 0, _ => []
  | width + 1, n => UInt8.ofNat (n / 256 ^ width) :: ofNatWidth width n

/-- How many base-256 digits a number has; zero has none. -/
def digitCount (n : Nat) : Nat :=
  if n = 0 then 0 else Nat.log2 n / 8 + 1

/-- The big-endian digits of a number, base 256, without leading zeros. -/
def ofNat (n : Nat) : Bytes :=
  ofNatWidth (digitCount n) n

/-- The UTF-8 form of a text. -/
def ofText (s : String) : Bytes :=
  s.toByteArray.data.toList

/-- The text with the given UTF-8 form, if the bytes are well formed. -/
def toText? (b : Bytes) : Option String :=
  String.fromUTF8? ⟨b.toArray⟩

/-- One hexadecimal digit, lower case. -/
def hexDigit (n : Nat) : Char :=
  if n < 10 then Char.ofNat (48 + n) else Char.ofNat (87 + n)

/-- The two hexadecimal digits of a byte, lower case. -/
def hexByte (b : UInt8) : List Char :=
  [hexDigit (b.toNat / 16), hexDigit (b.toNat % 16)]

/-- The hexadecimal digits of a byte string, two a byte, lower case. -/
def hex (b : Bytes) : String :=
  String.ofList (b.flatMap hexByte)

@[simp] theorem length_ofNatWidth (width n : Nat) : (ofNatWidth width n).length = width := by
  induction width with
  | zero => rfl
  | succ width ih => simp [ofNatWidth, ih]

theorem foldl_eq (b : Bytes) (n : Nat) :
    b.foldl (fun n x => n * 256 + x.toNat) n = n * 256 ^ b.length + toNat b := by
  induction b generalizing n with
  | nil => simp [toNat]
  | cons x b ih =>
    have cons : toNat (x :: b) = x.toNat * 256 ^ b.length + toNat b := by
      rw [toNat, List.foldl_cons, ih, Nat.zero_mul, Nat.zero_add]
    rw [List.foldl_cons, ih, cons, List.length_cons, Nat.pow_succ, Nat.add_mul, Nat.mul_assoc,
      Nat.mul_comm 256, Nat.add_assoc]

@[simp] theorem toNat_nil : toNat [] = 0 := rfl

theorem toNat_cons (x : UInt8) (b : Bytes) :
    toNat (x :: b) = x.toNat * 256 ^ b.length + toNat b := by
  rw [toNat, List.foldl_cons, foldl_eq, Nat.zero_mul, Nat.zero_add]

/-- Reading back a fixed-width form keeps the number modulo the width. -/
theorem toNat_ofNatWidth (width n : Nat) : toNat (ofNatWidth width n) = n % 256 ^ width := by
  induction width with
  | zero => simp [ofNatWidth, Nat.mod_one]
  | succ width ih =>
    have head : (UInt8.ofNat (n / 256 ^ width)).toNat = n / 256 ^ width % 256 := by simp
    rw [ofNatWidth, toNat_cons, ih, length_ofNatWidth, head, Nat.pow_succ,
      Nat.mod_mul (a := 256 ^ width), Nat.add_comm, Nat.mul_comm]

end Bytes

end Cose
