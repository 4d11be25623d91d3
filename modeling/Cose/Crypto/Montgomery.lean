import Cose.Crypto.Modular

/-!
# Key agreement keys on Curve25519

The public key of an X25519 seed, by the differential ladder on first coordinates.

## Main definitions

* `X25519.publicKey`: the public key of a seed
-/

namespace Cose.Crypto.X25519

/-- The order of the field. -/
def p : Nat := 2 ^ 255 - 19

/-- Two consecutive multiples of a point, by the numerators and denominators of their first
coordinates. -/
structure Ladder where
  x : Nat
  z : Nat
  nextX : Nat
  nextZ : Nat

/-- Exchanges the two multiples. -/
def Ladder.exchange (l : Ladder) : Ladder := ⟨l.nextX, l.nextZ, l.x, l.z⟩

/-- Doubles the first multiple and adds the second to it, for a point with first coordinate
`u`. -/
def Ladder.step (u : Nat) (l : Ladder) : Ladder :=
  let a := (l.x + l.z) % p
  let b := subMod l.x l.z p
  let aa := a * a % p
  let bb := b * b % p
  let e := subMod aa bb p
  let da := subMod l.nextX l.nextZ p * a % p
  let cb := (l.nextX + l.nextZ) % p * b % p
  let sum := (da + cb) % p
  let difference := subMod da cb p
  ⟨aa * bb % p, e * ((aa + 121665 * e) % p) % p, sum * sum % p,
    u * (difference * difference % p) % p⟩

/-- The first coordinate of a multiple of the point with first coordinate `u`. -/
def multiply (n u : Nat) : Nat :=
  let last := (bitsOf n).foldl (fun l bit =>
    if bit then ((l.exchange).step u).exchange else l.step u) (⟨1, 0, u, 1⟩ : Ladder)
  last.x * inverseMod last.z p % p

/-- The secret number of a seed: a multiple of eight with its top bit set. -/
def secret (seed : Bytes) : Nat :=
  littleNat seed % 2 ^ 254 / 8 * 8 + 2 ^ 254

/-- **The public key of a seed.** -/
def publicKey (seed : Bytes) : Bytes :=
  littleBytes 32 (multiply (secret seed) 9)

end Cose.Crypto.X25519
