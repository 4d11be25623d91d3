import Cose.Bytes

/-!
# Heads of CBOR items

Every CBOR item begins with a head: a major type and an argument, in the fewest bytes when
written. A reader accepts any width of the argument, and the mark of an unknown length in its
place.

## Main definitions

* `Major`: the major types
* `Cbor.head`: the head of an item
* `Cbor.argument?`: the argument behind the first byte of a head
-/

namespace Cose.Cbor

/-- The major types of CBOR items, by number. -/
inductive Major where
  | unsigned
  | negative
  | bytes
  | text
  | array
  | map
  | tag
  | special
  deriving DecidableEq, Repr

namespace Major

/-- The number of a major type. -/
def toNat : Major → Nat
  | .unsigned => 0
  | .negative => 1
  | .bytes => 2
  | .text => 3
  | .array => 4
  | .map => 5
  | .tag => 6
  | .special => 7

/-- The major type of a first byte. -/
def ofByte (b : UInt8) : Major :=
  match b.toNat / 32 with
  | 0 => .unsigned
  | 1 => .negative
  | 2 => .bytes
  | 3 => .text
  | 4 => .array
  | 5 => .map
  | 6 => .tag
  | _ => .special

end Major

/-- The first byte of a head: the major type and what stands for the argument. -/
def firstByte (major : Major) (info : Nat) : UInt8 :=
  UInt8.ofNat (major.toNat * 32 + info)

/-- **The head of an item**, with an argument below `2 ^ 64` in the fewest bytes. -/
def head (major : Major) (n : Nat) : Bytes :=
  if n < 24 then [firstByte major n]
  else if n < 256 then firstByte major 24 :: Bytes.ofNatWidth 1 n
  else if n < 256 ^ 2 then firstByte major 25 :: Bytes.ofNatWidth 2 n
  else if n < 256 ^ 4 then firstByte major 26 :: Bytes.ofNatWidth 4 n
  else firstByte major 27 :: Bytes.ofNatWidth 8 n

/-- A given number of bytes and what follows them. -/
def take? (n : Nat) (b : Bytes) : Option (Bytes × Bytes) :=
  let taken := b.take n
  if taken.length = n then some (taken, b.drop n) else none

/-- A big-endian number of the given width and what follows it. -/
def takeNat? (width : Nat) (b : Bytes) : Option (Nat × Bytes) :=
  (take? width b).map fun (taken, rest) => (taken.toNat, rest)

/-- What stands for the argument in the first byte of a head. -/
def infoOf (b : UInt8) : Nat :=
  b.toNat % 32

/-- The mark of an unknown length in place of an argument. -/
def unknownLength : Nat := 31

/-- The argument of a head, given what stands for it in the first byte, and what follows. -/
def argument? (info : Nat) (b : Bytes) : Option (Nat × Bytes) :=
  if info < 24 then some (info, b)
  else match info with
    | 24 => takeNat? 1 b
    | 25 => takeNat? 2 b
    | 26 => takeNat? 4 b
    | 27 => takeNat? 8 b
    | _ => none

end Cose.Cbor
