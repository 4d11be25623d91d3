import Cose.Credential.Basic
import Cose.Crypto.Drbg

/-!
# Ephemeral credentials

A signer whose key is made for the occasion. Fresh keys are made from a seed, of the size that an
algorithm calls for: a secret number on its curve, a seed for EdDSA, an RSA modulus whose length
follows the hash function, a shared key as long as a tag.

## Main definitions

* `Crypto.isProbablePrime`, `Crypto.prime?`: the search for primes
* `Key.generateRsa?`: an RSA key of a given length
* `Key.generate`: a key for an algorithm
* `Credential.ephemeral`: a signer with a fresh key
-/

namespace Cose

namespace Crypto

/-- The primes below a thousand. -/
def smallPrimes : List Nat :=
  (List.range 1000).filter fun n =>
    2 ≤ n && (List.range 32).all fun d => d < 2 || n ≤ d || n % d != 0

/-- The product of the small primes. -/
def smallProduct : Nat :=
  smallPrimes.foldl (· * ·) 1

/-- Whether one of the first squarings of a residue is minus one modulo the number. -/
def reachesMinusOne (n : Nat) : (squarings : Nat) → Nat → Bool
  | 0, _ => false
  | squarings + 1, x => x == n - 1 || reachesMinusOne n squarings (x * x % n)

/-- Whether a base bears no witness against an odd number being prime. -/
def passes (n base : Nat) : Bool :=
  let s := twos (bitLength n) (n - 1)
  let x := powMod base ((n - 1) / 2 ^ s) n
  x == 1 || reachesMinusOne n s x

/-- Whether a large odd number has no small divisor and passes the test for several bases. -/
def isProbablePrime (n : Nat) : Bool :=
  Nat.gcd n smallProduct == 1 && [2, 3, 5, 7, 11, 13, 17, 19].all (passes n)

/-- The first prime at or above an odd number that suits, of the given number of candidates. -/
def prime? (suits : Nat → Bool) : (candidates : Nat) → Nat → Option Nat
  | 0, _ => none
  | candidates + 1, n =>
    if suits n && isProbablePrime n then some n else prime? suits candidates (n + 2)

/-- An odd number of exactly the given number of bits whose two highest bits are set. -/
def largeOdd (bits : Nat) (b : Bytes) : Nat :=
  3 * 2 ^ (bits - 2) + Bytes.toNat b % 2 ^ (bits - 3) * 2 + 1

end Crypto

namespace Key

/-- The public exponent of fresh RSA keys. -/
def publicExponent : Nat := 65537

/-- An RSA key of an even number of bits. -/
def generateRsa? (bits : Nat) (g : Crypto.Drbg) : Option Key := do
  let half := bits / 2
  let suits (p : Nat) : Bool := (p - 1) % publicExponent != 0
  let (first, g) := g.generate (half / 8)
  let (second, _) := g.generate (half / 8)
  let p ← Crypto.prime? suits (16 * half) (Crypto.largeOdd half first)
  let q ← Crypto.prime? (fun q => suits q && q != p) (16 * half) (Crypto.largeOdd half second)
  let totient := (p - 1) * (q - 1)
  let k := publicExponent - Crypto.inverseMod (totient % publicExponent) publicExponent
  return .rsa (p * q) publicExponent (some ((totient * k + 1) / publicExponent))

/-- The length of a fresh RSA modulus in bits. -/
def modulusBits (h : Hash) : Nat :=
  if h.digestSize ≤ 32 then 2048 else if h.digestSize ≤ 48 then 3072 else 4096

/-- **A fresh key for an algorithm**, determined by a seed. -/
def generate (alg : Algorithm) (seed : Bytes) : Except Error Key := do
  let g := Crypto.Drbg.ofSeed .sha256 seed
  match alg.family with
  | .ecdsa =>
    match alg.curve with
    | none => throw (.argument .sizeUnknown)
    | some curve =>
      let order := curve.weierstrass.order
      let (bytes, _) := g.generate (curve.size + 8)
      return ofSecretNumber curve (Bytes.toNat bytes % (order - 1) + 1)
  | .eddsa => return ofSeed .ed25519 (g.generate OctetScheme.ed25519.width).1
  | .rsaPss =>
    match generateRsa? (modulusBits (← alg.newHash)) g with
    | some key => return key
    | none => throw (.fault .value)
  | .hmac => return .data (.bytes (g.generate (← alg.knownSize)).1)

end Key

namespace Credential

/-- **A signer with a fresh key** for an algorithm, determined by a seed. -/
def ephemeral (alg : Value) (seed : Bytes) : Except Error (Credential × List LogLine) := do
  let alg ← Algorithm.lookup alg
  signer (.algorithm alg) (← Key.generate alg seed) (some seed)

end Credential

end Cose
