import Cose.Crypto.Digest
import Cose.Crypto.Modular

/-!
# Deterministic random bits

A generator that hashes a key and a value forward. All that it generates follows from its seed:
secret numbers of signatures, and keys that are made afresh.

## Main definitions

* `Drbg`, `Drbg.ofSeed`, `Drbg.generate`: the generator, its start and its bytes
* `Drbg.secret?`: a number from one to below an order
-/

namespace Cose.Crypto

/-- The leftmost bits of a byte string as a number, at most as many as the order has. -/
def leftmost (order : Nat) (b : Bytes) : Nat :=
  let excess := b.length * 8 - bitLength order
  Bytes.toNat b / 2 ^ excess

/-- The generator: a key and a value that are hashed forward. -/
structure Drbg where
  hash : Hash
  key : Bytes
  value : Bytes

namespace Drbg

/-- The generator after one more step of hashing. -/
def step (g : Drbg) : Drbg :=
  { g with value := g.hash.hmac g.key g.value }

/-- The generator with a new key made from a separator and a seed. -/
def rekey (g : Drbg) (separator : UInt8) (seed : Bytes) : Drbg :=
  Drbg.step { g with key := g.hash.hmac g.key (g.value ++ separator :: seed) }

/-- The generator for a seed. -/
def ofSeed (hash : Hash) (seed : Bytes) : Drbg :=
  let start : Drbg :=
    ⟨hash, List.replicate hash.digestSize 0, List.replicate hash.digestSize 1⟩
  (start.rekey 0 seed).rekey 1 seed

/-- At least the given number of bytes, in the given number of steps. -/
def run : (steps : Nat) → (length : Nat) → Drbg → Bytes × Drbg
  | 0, _, g => ([], g)
  | steps + 1, length, g =>
    if length = 0 then ([], g)
    else
      let g := g.step
      let (rest, last) := run steps (length - g.value.length) g
      (g.value ++ rest, last)

/-- The next bytes, as many as the length. -/
def generate (length : Nat) (g : Drbg) : Bytes × Drbg :=
  let (bytes, g) := run (length + 1) length g
  (bytes.take length, g)

/-- The first number from one to below the order, of the given number of candidates. -/
def secret? (order : Nat) : Nat → Drbg → Option Nat
  | 0, _ => none
  | tries + 1, g =>
    let (bytes, g) := g.generate ((bitLength order + 7) / 8)
    let k := leftmost order bytes
    if 0 < k ∧ k < order then some k else secret? order tries (g.rekey 0 [])

end Drbg

end Cose.Crypto
