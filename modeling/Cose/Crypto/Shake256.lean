import Cose.Crypto.Words

/-!
# SHAKE256

The extendable-output function SHAKE256: a sponge on 25 lanes of 64 bits that absorbs and squeezes
136 bytes at a time.

## Main definitions

* `permute`: the permutation of the lanes
* `digest`: any number of bytes of output for a message
-/

namespace Cose.Crypto.Shake256

/-- The constants of the 24 rounds. -/
def roundConstants : List UInt64 :=
  [0x0000000000000001, 0x0000000000008082, 0x800000000000808a, 0x8000000080008000,
   0x000000000000808b, 0x0000000080000001, 0x8000000080008081, 0x8000000000008009,
   0x000000000000008a, 0x0000000000000088, 0x0000000080008009, 0x000000008000000a,
   0x000000008000808b, 0x800000000000008b, 0x8000000000008089, 0x8000000000008003,
   0x8000000000008002, 0x8000000000000080, 0x000000000000800a, 0x800000008000000a,
   0x8000000080008081, 0x8000000000008080, 0x0000000080000001, 0x8000000080008008]

/-- How far each lane is rotated; the lane in column `x` and row `y` has the index `x + 5 y`. -/
def rotations : Array UInt64 :=
  #[0, 1, 62, 28, 27, 36, 44, 6, 55, 20, 3, 10, 43, 25, 39,
    41, 45, 15, 21, 8, 18, 2, 61, 56, 14]

/-- A lane rotated to the left. -/
def rotate (x n : UInt64) : UInt64 :=
  if n = 0 then x else x <<< n ||| x >>> (64 - n)

/-- One round on the lanes. -/
def round (lanes : Array UInt64) (constant : UInt64) : Array UInt64 :=
  let lane (i : Nat) := lanes.getD i 0
  let parities := (Array.range 5).map fun x =>
    lane x ^^^ lane (x + 5) ^^^ lane (x + 10) ^^^ lane (x + 15) ^^^ lane (x + 20)
  let parity (x : Nat) := parities.getD (x % 5) 0
  let mixed := (Array.range 25).map fun i =>
    lane i ^^^ parity (i + 4) ^^^ rotate (parity (i + 1)) 1
  -- The lane at column `x` and row `y` comes from column `x + 3 y` and row `x`.
  let moved := (Array.range 25).map fun i =>
    let x := i % 5
    let y := i / 5
    let source := (x + 3 * y) % 5 + 5 * x
    rotate (mixed.getD source 0) (rotations.getD source 0)
  let place (x y : Nat) := moved.getD (x % 5 + 5 * y) 0
  (Array.range 25).map fun i =>
    let x := i % 5
    let y := i / 5
    let next := place x y ^^^ (~~~place (x + 1) y &&& place (x + 2) y)
    if i = 0 then next ^^^ constant else next

/-- The permutation of the lanes. -/
def permute (lanes : Array UInt64) : Array UInt64 :=
  roundConstants.foldl round lanes

/-- The number of bytes absorbed and squeezed at a time. -/
def rate : Nat := 136

/-- A message followed by its padding, a multiple of the rate. -/
def padded (message : Bytes) : Bytes :=
  let short := rate - 1 - message.length % rate
  if short = 0 then message ++ [0x9f]
  else message ++ 0x1f :: (List.replicate (short - 1) 0 ++ [0x80])

/-- The lanes after absorbing a block of seventeen words. -/
def absorb (lanes : Array UInt64) (block : Array UInt64) : Array UInt64 :=
  permute ((Array.range 25).map fun i => lanes.getD i 0 ^^^ block.getD i 0)

/-- The bytes of the lanes at the rate, little-endian. -/
def squeeze (lanes : Array UInt64) : Bytes :=
  (lanes.toList.take (rate / 8)).flatMap fun x => (Bytes.ofNatWidth 8 x.toNat).reverse

/-- The output for lanes, the given number of blocks. -/
def output : Nat → Array UInt64 → Bytes
  | 0, _ => []
  | n + 1, lanes => squeeze lanes ++ output n (permute lanes)

/-- **The first bytes of the output** for a message. -/
def digest (length : Nat) (message : Bytes) : Bytes :=
  let words := littleWords64 (padded message)
  let lanes := (blocks (rate / 8) words).foldl absorb (Array.replicate 25 0)
  (output (length / rate + 1) lanes).take length

end Cose.Crypto.Shake256
