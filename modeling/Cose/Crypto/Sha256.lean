import Cose.Crypto.Words

/-!
# SHA-256

The hash function SHA-256: blocks of 64 bytes, 64 rounds on words of 32 bits, a digest of 32
bytes.

## Main definitions

* `compress`: absorbing a block
* `digest`: the digest of a message
-/

namespace Cose.Crypto.Sha256

/-- The eight words of state between blocks. -/
structure State where
  a : UInt32
  b : UInt32
  c : UInt32
  d : UInt32
  e : UInt32
  f : UInt32
  g : UInt32
  h : UInt32

/-- The round constants: the first 32 bits of the fractions of the cube roots of the first
64 primes. -/
def roundConstants : List UInt32 :=
  [0x428a2f98, 0x71374491, 0xb5c0fbcf, 0xe9b5dba5, 0x3956c25b, 0x59f111f1, 0x923f82a4, 0xab1c5ed5,
   0xd807aa98, 0x12835b01, 0x243185be, 0x550c7dc3, 0x72be5d74, 0x80deb1fe, 0x9bdc06a7, 0xc19bf174,
   0xe49b69c1, 0xefbe4786, 0x0fc19dc6, 0x240ca1cc, 0x2de92c6f, 0x4a7484aa, 0x5cb0a9dc, 0x76f988da,
   0x983e5152, 0xa831c66d, 0xb00327c8, 0xbf597fc7, 0xc6e00bf3, 0xd5a79147, 0x06ca6351, 0x14292967,
   0x27b70a85, 0x2e1b2138, 0x4d2c6dfc, 0x53380d13, 0x650a7354, 0x766a0abb, 0x81c2c92e, 0x92722c85,
   0xa2bfe8a1, 0xa81a664b, 0xc24b8b70, 0xc76c51a3, 0xd192e819, 0xd6990624, 0xf40e3585, 0x106aa070,
   0x19a4c116, 0x1e376c08, 0x2748774c, 0x34b0bcb5, 0x391c0cb3, 0x4ed8aa4a, 0x5b9cca4f, 0x682e6ff3,
   0x748f82ee, 0x78a5636f, 0x84c87814, 0x8cc70208, 0x90befffa, 0xa4506ceb, 0xbef9a3f7, 0xc67178f2]

/-- The state before the first block. -/
def start : State :=
  ⟨0x6a09e667, 0xbb67ae85, 0x3c6ef372, 0xa54ff53a,
    0x510e527f, 0x9b05688c, 0x1f83d9ab, 0x5be0cd19⟩


/-- A word rotated to the right. -/
def rotate (x : UInt32) (n : UInt32) : UInt32 :=
  x >>> n ||| x <<< (32 - n)

/-- The message schedule: the sixteen words of a block, extended to one word a round. -/
def schedule (block : Array UInt32) : Array UInt32 :=
  (List.range 48).foldl (fun w i =>
    let x := w.getD (i + 1) 0
    let y := w.getD (i + 14) 0
    let s := rotate x 7 ^^^ rotate x 18 ^^^ x >>> 3
    let t := rotate y 17 ^^^ rotate y 19 ^^^ y >>> 10
    w.push (w.getD i 0 + s + w.getD (i + 9) 0 + t)) block

/-- One round, with the sum of its constant and its word of the schedule. -/
def round (s : State) (k : UInt32) : State :=
  let t := rotate s.e 6 ^^^ rotate s.e 11 ^^^ rotate s.e 25
  let choice := (s.e &&& s.f) ^^^ (~~~s.e &&& s.g)
  let x := s.h + t + choice + k
  let u := rotate s.a 2 ^^^ rotate s.a 13 ^^^ rotate s.a 22
  let majority := (s.a &&& s.b) ^^^ (s.a &&& s.c) ^^^ (s.b &&& s.c)
  ⟨x + u + majority, s.a, s.b, s.c, s.d + x, s.e, s.f, s.g⟩

/-- The state after absorbing a block of sixteen words. -/
def compress (s : State) (block : Array UInt32) : State :=
  let ks := List.zipWith (· + ·) roundConstants (schedule block).toList
  let t := ks.foldl round s
  ⟨s.a + t.a, s.b + t.b, s.c + t.c, s.d + t.d, s.e + t.e, s.f + t.f, s.g + t.g, s.h + t.h⟩

/-- The words of a state, big-endian. -/
def State.toBytes (s : State) : Bytes :=
  [s.a, s.b, s.c, s.d, s.e, s.f, s.g, s.h].flatMap fun x => Bytes.ofNatWidth 4 x.toNat

/-- The state after absorbing a message. -/
def absorb (start : State) (message : Bytes) : State :=
  let words := words32 (pad 64 8 message)
  (blocks 16 words).foldl compress start

/-- **The digest of a message.** -/
def digest (message : Bytes) : Bytes :=
  (absorb start message).toBytes

end Cose.Crypto.Sha256
