import Cose.Bytes

/-!
# Words and blocks

How the hash functions cut a message: padded to a multiple of the block, as words of four or eight
bytes, and as blocks of words.

## Main definitions

* `pad`: a message followed by a one bit, zeros and its length
* `words32`, `words64`, `littleWords64`: the words of a byte string
* `blocks`: the blocks of a sequence of words
-/

namespace Cose.Crypto

/-- A message followed by a one bit, zeros and its length in bits, so that the whole is a multiple
of the block. -/
def pad (blockSize lengthSize : Nat) (message : Bytes) : Bytes :=
  let used := (message.length + 1 + lengthSize) % blockSize
  let zeros := if used = 0 then 0 else blockSize - used
  message ++ 0x80 :: (List.replicate zeros 0 ++ Bytes.ofNatWidth lengthSize (message.length * 8))

/-- The words of four bytes of a byte string, big-endian. -/
def words32 : Bytes → List UInt32
  | a :: b :: c :: d :: rest =>
    (a.toUInt32 <<< 24 ||| b.toUInt32 <<< 16 ||| c.toUInt32 <<< 8 ||| d.toUInt32) :: words32 rest
  | _ => []

/-- The words of eight bytes of a byte string, big-endian. -/
def words64 : Bytes → List UInt64
  | a :: b :: c :: d :: e :: f :: g :: h :: rest =>
    (a.toUInt64 <<< 56 ||| b.toUInt64 <<< 48 ||| c.toUInt64 <<< 40 ||| d.toUInt64 <<< 32 |||
      e.toUInt64 <<< 24 ||| f.toUInt64 <<< 16 ||| g.toUInt64 <<< 8 ||| h.toUInt64) ::
      words64 rest
  | _ => []

/-- The words of eight bytes of a byte string, little-endian. -/
def littleWords64 : Bytes → List UInt64
  | a :: b :: c :: d :: e :: f :: g :: h :: rest =>
    (h.toUInt64 <<< 56 ||| g.toUInt64 <<< 48 ||| f.toUInt64 <<< 40 ||| e.toUInt64 <<< 32 |||
      d.toUInt64 <<< 24 ||| c.toUInt64 <<< 16 ||| b.toUInt64 <<< 8 ||| a.toUInt64) ::
      littleWords64 rest
  | _ => []

/-- The blocks of a sequence of words; an incomplete block at the end is left out. -/
def blocks {α : Type} (size : Nat) (words : List α) : List (Array α) :=
  let all := words.toArray
  (List.range (all.size / size)).map fun i => all.extract (size * i) (size * (i + 1))

end Cose.Crypto
