import Cose.Bytes

/-!
# Binary floating-point formats

A binary format is given by the width of its fraction and of its exponent; its bit patterns stand
for signed multiples of powers of two, two infinities and the values that are not numbers. A
pattern is read in any format, and a number is written in each format that holds it exactly.

## Main definitions

* `Format`, `Format.half`, `Format.single`, `Format.double`: the formats of two, four and eight
  bytes
* `Number`: what a bit pattern stands for
* `Format.decode`, `Format.encode?`: between bit patterns and numbers
* `Number.isInt`, `Number.same`: comparison by value
-/

namespace Cose.Float

/-- **A binary format**: the widths of the fraction and of the exponent, in bits. -/
structure Format where
  fractionBits : Nat
  exponentBits : Nat
  deriving DecidableEq

namespace Format

/-- The format of two bytes. -/
def half : Format := ⟨10, 5⟩

/-- The format of four bytes. -/
def single : Format := ⟨23, 8⟩

/-- The format of eight bytes. -/
def double : Format := ⟨52, 11⟩

/-- The largest exponent field, kept for infinities and for what is not a number. -/
def topField (f : Format) : Nat := 2 ^ f.exponentBits - 1

/-- The offset of exponent fields. -/
def bias (f : Format) : Nat := 2 ^ (f.exponentBits - 1) - 1

/-- The exponent of the last place of the smallest numbers. -/
def lowestExponent (f : Format) : Int := 1 - (f.bias : Int) - f.fractionBits

end Format

/-- **What a bit pattern stands for**: the number `significand · 2 ^ exponent` with a sign, an
infinity, or not a number. -/
inductive Number where
  | finite (negative : Bool) (significand : Nat) (exponent : Int)
  | infinite (negative : Bool)
  | notANumber
  deriving DecidableEq

/-- The number that a bit pattern stands for. -/
def Format.decode (f : Format) (bits : Nat) : Number :=
  let fraction := bits % 2 ^ f.fractionBits
  let field := bits / 2 ^ f.fractionBits % 2 ^ f.exponentBits
  let negative := bits / 2 ^ (f.fractionBits + f.exponentBits) % 2 == 1
  if field == f.topField then
    if fraction == 0 then .infinite negative else .notANumber
  else if field == 0 then .finite negative fraction f.lowestExponent
  else .finite negative (2 ^ f.fractionBits + fraction) (f.lowestExponent + (field - 1 : Nat))

/-- The bit pattern of a magnitude `significand · 2 ^ exponent`, if the format holds it. -/
def Format.magnitude? (f : Format) (significand : Nat) (exponent : Int) : Option Nat :=
  if significand = 0 then some 0
  else
    -- The exponent of the last place: the leading bit fills the fraction, unless that falls below
    -- the lowest exponent.
    let leading : Int := exponent + Nat.log2 significand
    let last := max f.lowestExponent (leading - f.fractionBits)
    let shifted? : Option Nat :=
      if last ≤ exponent then some (significand * 2 ^ (exponent - last).toNat)
      else
        let divisor := 2 ^ (last - exponent).toNat
        if significand % divisor = 0 then some (significand / divisor) else none
    shifted?.bind fun shifted =>
      let steps := (last - f.lowestExponent).toNat
      -- A full fraction carries into the exponent field.
      let pattern := steps * 2 ^ f.fractionBits + shifted
      if pattern < f.topField * 2 ^ f.fractionBits then some pattern else none

/-- The bit pattern of a number, if the format holds it; all that is not a number has one
pattern. -/
def Format.encode? (f : Format) : Number → Option Nat
  | .finite negative significand exponent =>
    (f.magnitude? significand exponent).map (· + signBit negative)
  | .infinite negative => some (f.topField * 2 ^ f.fractionBits + signBit negative)
  | .notANumber => some (f.topField * 2 ^ f.fractionBits + 2 ^ (f.fractionBits - 1))
where
  /-- The sign bit in place. -/
  signBit (negative : Bool) : Nat :=
    if negative then 2 ^ (f.fractionBits + f.exponentBits) else 0

namespace Number

/-- The value of a finite number as a fraction of integers; nothing for the others. -/
def ratio? : Number → Option (Int × Nat)
  | .finite negative significand exponent =>
    let signed : Int := if negative then -(significand : Int) else significand
    if 0 ≤ exponent then some (signed * (2 ^ exponent.toNat : Nat), 1)
    else some (signed, 2 ^ (-exponent).toNat)
  | _ => none

/-- Whether a number has the value of an integer. -/
def isInt (x : Number) (n : Int) : Bool :=
  match x.ratio? with
  | some (num, den) => num == n * den
  | none => false

/-- Whether two numbers have the same value: zeros do whatever their sign, and what is not a
number differs from all. -/
def same : Number → Number → Bool
  | .notANumber, _ => false
  | _, .notANumber => false
  | .infinite a, .infinite b => a == b
  | x, y =>
    match x.ratio?, y.ratio? with
    | some (n, d), some (m, e) => n * e == m * d
    | _, _ => false

/-- Whether a number is zero. -/
def isZero : Number → Bool
  | .finite _ significand _ => significand == 0
  | _ => false

end Number

end Cose.Float
