import Cose.Crypto.Digest
import Cose.Crypto.Modular
import Cose.Crypto.Shake256

/-!
# Edwards curves and EdDSA

The points of the curves `a x² + y² = 1 + d x² y²` over a prime field in projective coordinates,
and the two signature schemes built on them, Ed25519 and Ed448. The one compares the encoded
commitment of a signature byte by byte, the other one compares points, up to the cofactor.

## Main definitions

* `Edwards`: the parameters of a scheme
* `ed25519`, `ed448`: the two schemes
* `Edwards.publicKey`, `Edwards.sign`, `Edwards.verify`: keys and signatures
-/

namespace Cose.Crypto

/-- **The parameters of a scheme**: the curve and its base point, the width of an encoded point,
the cleared low bits of a secret number and its top bit, and the hash function with twice that
width of output. -/
structure Edwards where
  p : Nat
  a : Nat
  d : Nat
  baseX : Nat
  baseY : Nat
  order : Nat
  width : Nat
  cofactorBits : Nat
  topBit : Nat
  /-- Whether a signature is checked up to points whose order divides the cofactor. Then points are
  read in reduced form only, and those without a first coordinate not at all. -/
  isCofactored : Bool
  /-- A square root of the quotient of two residues, if there is one. -/
  root? : Nat → Nat → Option Nat
  /-- The hash of a message, for signing. -/
  hash : Bytes → Bytes
  /-- The hash of a seed. -/
  expand : Bytes → Bytes

/-- A point in projective coordinates: `(x, y, z)` stands for `(x / z, y / z)`. -/
structure ProjectivePoint where
  x : Nat
  y : Nat
  z : Nat

namespace Edwards

/-- The neutral point. -/
def neutral : ProjectivePoint := ⟨0, 1, 1⟩

/-- The base point. -/
def base (c : Edwards) : ProjectivePoint := ⟨c.baseX, c.baseY, 1⟩

/-- The sum of two points. -/
def add (c : Edwards) (q r : ProjectivePoint) : ProjectivePoint :=
  let zz := q.z * r.z % c.p
  let square := zz * zz % c.p
  let xx := q.x * r.x % c.p
  let yy := q.y * r.y % c.p
  let e := c.d * (xx * yy % c.p) % c.p
  let f := subMod square e c.p
  let g := (square + e) % c.p
  let cross := subMod (subMod ((q.x + q.y) * (r.x + r.y) % c.p) xx c.p) yy c.p
  ⟨zz * f % c.p * cross % c.p,
    zz * g % c.p * subMod yy (c.a * xx % c.p) c.p % c.p,
    f * g % c.p⟩

/-- A multiple of a point. -/
def multiply (c : Edwards) (n : Nat) (q : ProjectivePoint) : ProjectivePoint :=
  (bitsOf n).foldl (fun acc bit =>
    let twice := c.add acc acc
    if bit then c.add twice q else twice) neutral

/-- The affine coordinates of a point. -/
def affine (c : Edwards) (q : ProjectivePoint) : Nat × Nat :=
  let i := inverseMod q.z c.p
  (q.x * i % c.p, q.y * i % c.p)

/-- A point as bytes: the second coordinate, with the parity of the first in the top bit. -/
def encode (c : Edwards) (q : ProjectivePoint) : Bytes :=
  let (x, y) := c.affine q
  littleBytes c.width (y + x % 2 * 2 ^ (8 * c.width - 1))

/-- The point with the given bytes, if there is one. -/
def decode? (c : Edwards) (b : Bytes) : Option ProjectivePoint := do
  guard (b.length = c.width)
  let n := littleNat b
  let sign := n / 2 ^ (8 * c.width - 1)
  let y := n % 2 ^ (8 * c.width - 1)
  guard (c.isCofactored = false ∨ y < c.p)
  let yy := y * y % c.p
  let x ← c.root? (subMod 1 yy c.p) (subMod c.a (c.d * yy % c.p) c.p)
  guard (c.isCofactored = false ∨ x ≠ 0)
  return ⟨if x % 2 = sign then x else subMod 0 x c.p, y % c.p, 1⟩

/-- The inverse of a point. -/
def negate (c : Edwards) (q : ProjectivePoint) : ProjectivePoint :=
  ⟨subMod 0 q.x c.p, q.y, q.z⟩

/-- Whether a point is the neutral one up to points whose order divides the cofactor. -/
def isSmall (c : Edwards) (q : ProjectivePoint) : Bool :=
  c.affine (c.multiply (2 ^ c.cofactorBits) q) == (0, 1)

/-- The secret number and the second half of the hash of a seed. -/
def secret (c : Edwards) (seed : Bytes) : Nat × Bytes :=
  let h := c.expand seed
  let n := littleNat (h.take c.width) % 2 ^ c.topBit
  (n / 2 ^ c.cofactorBits * 2 ^ c.cofactorBits + 2 ^ c.topBit, h.drop c.width)

/-- **The public key of a seed.** -/
def publicKey (c : Edwards) (seed : Bytes) : Bytes :=
  c.encode (c.multiply (c.secret seed).1 c.base)

/-- **The signature of a message** by a seed. -/
def sign (c : Edwards) (seed message : Bytes) : Bytes :=
  let (s, front) := c.secret seed
  let key := c.publicKey seed
  let r := littleNat (c.hash (front ++ message)) % c.order
  let commitment := c.encode (c.multiply r c.base)
  let k := littleNat (c.hash (commitment ++ key ++ message)) % c.order
  commitment ++ littleBytes c.width ((r + k * s) % c.order)

/-- **Whether a byte string is the signature of a message** by a public key. -/
def verify (c : Edwards) (key message signature : Bytes) : Bool :=
  let commitment := signature.take c.width
  let s := littleNat (signature.drop c.width)
  if signature.length = 2 * c.width ∧ s < c.order then
    match c.decode? key with
    | none => false
    | some q =>
      let k := littleNat (c.hash (commitment ++ key ++ message)) % c.order
      let expected := c.add (c.multiply s c.base) (c.multiply k (c.negate q))
      if c.isCofactored then
        match c.decode? commitment with
        | some r => c.isSmall (c.add expected (c.negate r))
        | none => false
      else c.encode expected == commitment
  else false

end Edwards

/-- A square root of `u / v` in a field whose order is five modulo eight. -/
def rootFive? (p : Nat) (u v : Nat) : Option Nat :=
  let v3 := v * v % p * v % p
  let v7 := v3 * v3 % p * v % p
  let x := u * v3 % p * powMod (u * v7 % p) ((p - 5) / 8) p % p
  let check := v * (x * x % p) % p
  if check = u then some x
  else if check = subMod 0 u p then some (x * powMod 2 ((p - 1) / 4) p % p)
  else none

/-- A square root of `u / v` in a field whose order is three modulo four. -/
def rootThree? (p : Nat) (u v : Nat) : Option Nat :=
  let x := u * inverseMod v p % p
  let root := powMod x ((p + 1) / 4) p
  if root * root % p = x then some root else none

/-- The scheme Ed25519. -/
def ed25519 : Edwards :=
  let p := 2 ^ 255 - 19
  { p := p
    a := p - 1
    d := 0x52036cee2b6ffe738cc740797779e89800700a4d4141d8ab75eb4dca135978a3
    baseX := 0x216936d3cd6e53fec0a4e231fdd6dc5c692cc7609525a7b2c9562d608f25d51a
    baseY := 0x6666666666666666666666666666666666666666666666666666666666666658
    order := 2 ^ 252 + 27742317777372353535851937790883648493
    width := 32
    cofactorBits := 3
    topBit := 254
    isCofactored := false
    root? := rootFive? p
    hash := Sha512.digest512
    expand := Sha512.digest512 }

/-- The scheme Ed448. Messages are hashed behind the name of the scheme. -/
def ed448 : Edwards :=
  let p := 2 ^ 448 - 2 ^ 224 - 1
  { p := p
    a := 1
    d := p - 39081
    baseX := 224580040295924300187604334099896036246789641632564134246125461686950415467406032909029192869357953282578032075146446173674602635247710
    baseY := 298819210078481492676017930443930673437544040154080242095928241372331506189835876003536878655418784733982303233503462500531545062832660
    order := 2 ^ 446 - 13818066809895115352007386748515426880336692474882178609894547503885
    width := 57
    cofactorBits := 2
    topBit := 447
    isCofactored := true
    root? := rootThree? p
    hash := fun b => Shake256.digest 114 (Bytes.ofText "SigEd448" ++ [0, 0] ++ b)
    expand := Shake256.digest 114 }

end Cose.Crypto
