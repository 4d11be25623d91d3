/-!
# Algorithms

An entry of the COSE algorithm registry: a name, an integer identifier, the family that says how
the algorithm signs or tags, and the hash function, curve and key size that go with it.

## Main definitions

* `Family`, `Hash`, `Curve`: the families of algorithms, the hash functions and the curves
* `Algorithm`: an algorithm and its parameters
-/

namespace Cose

/-- The families of algorithms. -/
inductive Family where
  | ecdsa
  | eddsa
  | rsaPss
  | hmac
  deriving DecidableEq, Repr

/-- The hash functions that an algorithm may name. -/
inductive Hash where
  | sha1
  | sha256
  | sha384
  | sha512
  deriving DecidableEq, Repr

/-- The elliptic curves of keys. Curves that have no algorithm here are told by their registered name
and the width of a coordinate in bits. -/
inductive Curve where
  | p256
  | p384
  | p521
  | secp256k1
  | other (name : String) (bits : Nat)
  deriving DecidableEq, Repr

/-- **An algorithm.** For ECDSA the key size is the width of a curve coordinate in bytes, which is
the width of each half of a signature; for HMAC it is the length of the tag. The size of RSA and
EdDSA signatures depends on the key. -/
structure Algorithm where
  name : String
  value : Int
  family : Family
  hash : Option Hash := none
  curve : Option Curve := none
  keySize : Option Nat := none
  deriving DecidableEq, Repr

namespace Family

/-- The registered name of a family. -/
def name : Family → String
  | .ecdsa => "ECDSA"
  | .eddsa => "EdDSA"
  | .rsaPss => "RSASSA-PSS"
  | .hmac => "HMAC"

/-- Whether the algorithms of a family authenticate with a shared key. -/
def isMac : Family → Bool
  | .hmac => true
  | _ => false

/-- Whether the algorithms of a family sign with a private key. -/
def isSignature (f : Family) : Bool :=
  !f.isMac

end Family

namespace Hash

/-- The name of a hash function. -/
def name : Hash → String
  | .sha1 => "sha1"
  | .sha256 => "sha256"
  | .sha384 => "sha384"
  | .sha512 => "sha512"

/-- The length of a digest in bytes. -/
def digestSize : Hash → Nat
  | .sha1 => 20
  | .sha256 => 32
  | .sha384 => 48
  | .sha512 => 64

/-- The length in bytes of the blocks that a hash function absorbs. -/
def blockSize : Hash → Nat
  | .sha1 => 64
  | .sha256 => 64
  | .sha384 => 128
  | .sha512 => 128

end Hash

namespace Curve

/-- The registered name of a curve. -/
def name : Curve → String
  | .p256 => "secp256r1"
  | .p384 => "secp384r1"
  | .p521 => "secp521r1"
  | .secp256k1 => "secp256k1"
  | .other name _ => name

/-- The width of a coordinate in bits. -/
def bits : Curve → Nat
  | .p256 => 256
  | .p384 => 384
  | .p521 => 521
  | .secp256k1 => 256
  | .other _ bits => bits

/-- The width of a coordinate in bytes. -/
def size (c : Curve) : Nat :=
  (c.bits + 7) / 8

end Curve

namespace Algorithm

def es256 : Algorithm := ⟨"ES256", -7, .ecdsa, some .sha256, some .p256, some 32⟩
def es384 : Algorithm := ⟨"ES384", -35, .ecdsa, some .sha384, some .p384, some 48⟩
def es512 : Algorithm := ⟨"ES512", -36, .ecdsa, some .sha512, some .p521, some 66⟩

/-- Only the pure form of EdDSA is used, so there is no hash function to apply first. -/
def edDSA : Algorithm := ⟨"EdDSA", -8, .eddsa, none, none, none⟩

def ps256 : Algorithm := ⟨"PS256", -37, .rsaPss, some .sha256, none, none⟩
def ps384 : Algorithm := ⟨"PS384", -38, .rsaPss, some .sha384, none, none⟩
def ps512 : Algorithm := ⟨"PS512", -39, .rsaPss, some .sha512, none, none⟩
def hmac256 : Algorithm := ⟨"HMAC 256/256", 5, .hmac, some .sha256, none, some 32⟩
def hmac384 : Algorithm := ⟨"HMAC 384/384", 6, .hmac, some .sha384, none, some 48⟩
def hmac512 : Algorithm := ⟨"HMAC 512/512", 7, .hmac, some .sha512, none, some 64⟩

end Algorithm

end Cose
