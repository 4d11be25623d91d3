import Cose.Crypto.Drbg
import Cose.Crypto.Weierstrass

/-!
# ECDSA

Signatures are pairs of numbers below the order of the curve. The secret number of a signature is
drawn from a keyed hash of the private key, the digest and additional data: without additional data
signatures are deterministic.

## Main definitions

* `Ecdsa.sign`: the signature of a digest
* `Ecdsa.verify`: whether a signature is valid
* `Ecdsa.toRaw`, `Ecdsa.ofRaw`: signatures as two numbers of fixed width, one after the other
-/

namespace Cose.Crypto.Ecdsa

/-- **The signature of a message** by a private key. -/
def sign (curve : Curve) (hash : Hash) (d : Nat) (message : Bytes) (additional : Bytes := []) :
    Option (Nat × Nat) := do
  let c := curve.weierstrass
  let width := (bitLength c.order + 7) / 8
  let digest := hash.digest message
  let z := leftmost c.order digest
  let seed := Bytes.ofNatWidth width d ++ Bytes.ofNatWidth width (z % c.order) ++ additional
  let k ← (Drbg.ofSeed hash seed).secret? c.order 64
  let (x, _) ← c.affine? (c.multiply k c.base)
  let r := x % c.order
  let s := inverseMod k c.order * ((z + r * d) % c.order) % c.order
  if r = 0 ∨ s = 0 then none else some (r, s)

/-- **Whether a pair of numbers is the signature of a message** by the key with a public point. -/
def verify (curve : Curve) (hash : Hash) (x y : Nat) (message : Bytes) (r s : Nat) : Bool :=
  let c := curve.weierstrass
  if 0 < r ∧ r < c.order ∧ 0 < s ∧ s < c.order then
    let z := leftmost c.order (hash.digest message)
    let w := inverseMod s c.order
    let q := c.add (c.multiply (z * w % c.order) c.base)
      (c.multiply (r * w % c.order) (Weierstrass.ofAffine x y))
    match c.affine? q with
    | some (v, _) => v % c.order == r
    | none => false
  else false

/-- A signature as two numbers of the given width, if they fit. -/
def toRaw (size : Nat) (signature : Nat × Nat) : Option Bytes :=
  let (r, s) := signature
  if r < 256 ^ size ∧ s < 256 ^ size then
    some (Bytes.ofNatWidth size r ++ Bytes.ofNatWidth size s)
  else none

/-- The two numbers of a signature of twice the given width. -/
def ofRaw (size : Nat) (b : Bytes) : Nat × Nat :=
  (Bytes.toNat (b.take size), Bytes.toNat (b.drop size))

end Cose.Crypto.Ecdsa
