import Cose.Bytes

/-!
# Arithmetic modulo a number

Residues are natural numbers below the modulus.

## Main definitions

* `bitsOf`: the binary digits of a number
* `powMod`, `inverseMod`: powers and inverses modulo a number
* `subMod`: differences modulo a number
* `rootMod`: square roots modulo a prime
* `littleNat`, `littleBytes`: little-endian numbers
-/

namespace Cose.Crypto

/-- How many binary digits a number has; zero has none. -/
def bitLength (n : Nat) : Nat :=
  if n = 0 then 0 else Nat.log2 n + 1

/-- The binary digits of a number, most significant first. -/
def bitsOf (n : Nat) : List Bool :=
  let length := bitLength n
  (List.range length).map fun i => n.testBit (length - 1 - i)

/-- A power modulo a number, by repeated squaring. -/
def powMod (base exponent modulus : Nat) : Nat :=
  (bitsOf exponent).foldl (fun acc bit =>
    let square := acc * acc % modulus
    if bit then square * base % modulus else square) (1 % modulus)

/-- The inverse of a residue modulo a prime. -/
def inverseMod (x prime : Nat) : Nat :=
  powMod x (prime - 2) prime

/-- A difference of residues. -/
def subMod (x y modulus : Nat) : Nat :=
  (x + modulus - y) % modulus

/-- How often a residue has to be squared to come to one, up to a bound. -/
def squarings (modulus : Nat) : (bound : Nat) → Nat → Nat
  | 0, _ => 0
  | bound + 1, x => if x = 1 then 0 else squarings modulus bound (x * x % modulus) + 1

/-- How often two divides a number, up to a bound. -/
def twos : (bound : Nat) → Nat → Nat
  | 0, _ => 0
  | bound + 1, n => if n % 2 = 0 then twos bound (n / 2) + 1 else 0

/-- A root that is off by a factor of `defect`, made good. The orders of `unit` and of the defect
are powers of two, of which the first is at most `2 ^ level`. -/
def correctRoot (prime : Nat) : (bound level unit defect root : Nat) → Nat
  | 0, _, _, _, root => root
  | bound + 1, level, unit, defect, root =>
    if defect = 1 then root
    else
      let i := squarings prime level defect
      let factor := powMod unit (2 ^ (level - i - 1)) prime
      let square := factor * factor % prime
      correctRoot prime bound i square (defect * square % prime) (root * factor % prime)

/-- **A square root of a residue modulo an odd prime**, if it has one. -/
def rootMod (x prime : Nat) : Nat :=
  if prime % 4 = 3 then powMod x ((prime + 1) / 4) prime
  else
    let level := twos (bitLength prime) (prime - 1)
    let odd := (prime - 1) / 2 ^ level
    let isNonresidue (z : Nat) : Bool := powMod z ((prime - 1) / 2) prime == prime - 1
    let unit := powMod (((List.range 100).find? isNonresidue).getD 0) odd prime
    correctRoot prime level level unit (powMod x odd prime) (powMod x ((odd + 1) / 2) prime)

/-- The number whose little-endian base-256 digits are the given bytes. -/
def littleNat (b : Bytes) : Nat :=
  Bytes.toNat b.reverse

/-- The little-endian digits of a number, base 256, at a fixed width. -/
def littleBytes (width n : Nat) : Bytes :=
  (Bytes.ofNatWidth width n).reverse

end Cose.Crypto
