import Cose.Crypto.Digest
import Cose.Crypto.Modular

/-!
# RSASSA-PSS

Signatures with RSA keys over a randomised encoding of the digest. The mask generation function
uses the hash function of the scheme, and the salt is as long as a digest.

## Main definitions

* `Rsa.mask`: the mask generation function
* `Rsa.encodePss`, `Rsa.checkPss`: the encoding of a digest, and whether a block is one
* `Rsa.sign`, `Rsa.verify`: signatures
-/

namespace Cose.Crypto.Rsa

/-- The first bytes of the mask for a seed. -/
def mask (h : Hash) (seed : Bytes) (length : Nat) : Bytes :=
  ((List.range (length / h.digestSize + 1)).flatMap fun i =>
    h.digest (seed ++ Bytes.ofNatWidth 4 i)).take length

/-- The bytes of two strings combined by exclusive or. -/
def xorBytes (a b : Bytes) : Bytes :=
  List.zipWith (· ^^^ ·) a b

/-- A byte string with the given number of leading bits cleared. -/
def clearTop (bits : Nat) : Bytes → Bytes
  | [] => []
  | b :: rest => UInt8.ofNat (b.toNat % 2 ^ (8 - bits)) :: rest

/-- The hash that binds the digest of a message to a salt. -/
def bind (h : Hash) (digest salt : Bytes) : Bytes :=
  h.digest (List.replicate 8 0 ++ digest ++ salt)

/-- The encoding of a digest with a salt in the given number of bits, if it fits. -/
def encodePss (h : Hash) (digest salt : Bytes) (bits : Nat) : Option Bytes :=
  let size := (bits + 7) / 8
  let hashed := bind h digest salt
  if size < h.digestSize + salt.length + 2 then none
  else
    let zeros := size - h.digestSize - salt.length - 2
    let block := List.replicate zeros 0 ++ 1 :: salt
    let masked := xorBytes block (mask h hashed block.length)
    some (clearTop (8 * size - bits) masked ++ hashed ++ [0xbc])

/-- Whether a block of the given number of bits is the encoding of a digest with a salt of the
length of a digest. -/
def checkPss (h : Hash) (digest encoded : Bytes) (bits : Nat) : Bool :=
  let size := (bits + 7) / 8
  let saltSize := h.digestSize
  if encoded.length ≠ size ∨ size < h.digestSize + saltSize + 2 then false
  else
    let masked := encoded.take (size - h.digestSize - 1)
    let hashed := (encoded.drop (size - h.digestSize - 1)).take h.digestSize
    let unused := 8 * size - bits
    let block := clearTop unused (xorBytes masked (mask h hashed masked.length))
    let zeros := size - h.digestSize - saltSize - 2
    encoded.getLast? == some 0xbc && clearTop unused masked == masked &&
      block.take zeros == List.replicate zeros 0 && block[zeros]? == some 1 &&
      bind h digest (block.drop (zeros + 1)) == hashed

/-- The size of a modulus in bytes. -/
def size (n : Nat) : Nat :=
  (bitLength n + 7) / 8

/-- **The signature of a message** with a salt, if the key is long enough. -/
def sign (h : Hash) (n d : Nat) (salt message : Bytes) : Option Bytes := do
  let block ← encodePss h (h.digest message) salt (bitLength n - 1)
  return Bytes.ofNatWidth (size n) (powMod (Bytes.toNat block) d n)

/-- **Whether a byte string is the signature of a message** by a public key. Leading zeros may be left
out of a signature. -/
def verify (h : Hash) (n e : Nat) (message signature : Bytes) : Bool :=
  let s := Bytes.toNat signature
  if signature.length ≤ size n ∧ s < n then
    let bits := bitLength n - 1
    let m := powMod s e n
    let width := (bits + 7) / 8
    m < 256 ^ width && checkPss h (h.digest message) (Bytes.ofNatWidth width m) bits
  else false

end Cose.Crypto.Rsa
