import Cose.Crypto.Words

/-!
# SHA-1

The hash function SHA-1: blocks of 64 bytes, 80 rounds on words of 32 bits, a digest of 20 bytes.

## Main definitions

* `compress`: absorbing a block
* `digest`: the digest of a message
-/

namespace Cose.Crypto.Sha1

/-- The five words of state between blocks. -/
structure State where
  a : UInt32
  b : UInt32
  c : UInt32
  d : UInt32
  e : UInt32

/-- The state before the first block. -/
def start : State :=
  ⟨0x67452301, 0xefcdab89, 0x98badcfe, 0x10325476, 0xc3d2e1f0⟩

/-- A word rotated to the left. -/
def rotate (x n : UInt32) : UInt32 :=
  x <<< n ||| x >>> (32 - n)

/-- The message schedule: the sixteen words of a block, extended to one word a round. -/
def schedule (block : Array UInt32) : Array UInt32 :=
  (List.range 64).foldl (fun w i =>
    w.push (rotate (w.getD (i + 13) 0 ^^^ w.getD (i + 8) 0 ^^^ w.getD (i + 2) 0 ^^^ w.getD i 0) 1))
    block

/-- The function and the constant of a round. -/
def step (i : Nat) (b c d : UInt32) : UInt32 × UInt32 :=
  if i < 20 then ((b &&& c) ||| (~~~b &&& d), 0x5a827999)
  else if i < 40 then (b ^^^ c ^^^ d, 0x6ed9eba1)
  else if i < 60 then ((b &&& c) ||| (b &&& d) ||| (c &&& d), 0x8f1bbcdc)
  else (b ^^^ c ^^^ d, 0xca62c1d6)

/-- One round, with its word of the schedule. -/
def round (s : State) (word : Nat × UInt32) : State :=
  let (f, k) := step word.1 s.b s.c s.d
  ⟨rotate s.a 5 + f + s.e + k + word.2, s.a, rotate s.b 30, s.c, s.d⟩

/-- The state after absorbing a block of sixteen words. -/
def compress (s : State) (block : Array UInt32) : State :=
  let t := ((List.range 80).zip (schedule block).toList).foldl round s
  ⟨s.a + t.a, s.b + t.b, s.c + t.c, s.d + t.d, s.e + t.e⟩

/-- **The digest of a message.** -/
def digest (message : Bytes) : Bytes :=
  let s := (blocks 16 (words32 (pad 64 8 message))).foldl compress start
  [s.a, s.b, s.c, s.d, s.e].flatMap fun x => Bytes.ofNatWidth 4 x.toNat

end Cose.Crypto.Sha1
