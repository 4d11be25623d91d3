import Cose.Bytes

/-!
# Distinguished encoding

The elements that encoded keys and certificates are made of: a tag, a length in the fewest bytes,
and the content.

## Main definitions

* `Der.element?`: the first element and what follows it
* `Der.take?`, `Der.only?`: the content of an element of a given type, and of one that stands
  alone
* `Der.natural?`, `Der.bits?`: the content as a number and as a string of whole bytes
-/

namespace Cose.Der

def integerTag : UInt8 := 0x02
def bitsTag : UInt8 := 0x03
def octetsTag : UInt8 := 0x04
def identifierTag : UInt8 := 0x06
def sequenceTag : UInt8 := 0x30

/-- The tag of an optional field with the given number. -/
def fieldTag (n : Nat) : UInt8 := UInt8.ofNat (0xa0 + n)

/-- A length and what follows it; a length is written in the fewest bytes. -/
def length? : Bytes → Option (Nat × Bytes)
  | [] => none
  | b :: rest =>
    if b < 0x80 then some (b.toNat, rest)
    else
      let count := b.toNat - 0x80
      let digits := rest.take count
      let n := Bytes.toNat digits
      if count = 0 ∨ digits.length ≠ count ∨ n < 0x80 ∨ Bytes.digitCount n ≠ count then none
      else some (n, rest.drop count)

/-- The tag and the content of the first element, and what follows it. -/
def element? : Bytes → Option (UInt8 × Bytes × Bytes)
  | [] => none
  | tag :: rest => do
    let (n, rest) ← length? rest
    let content := rest.take n
    guard (content.length = n)
    return (tag, content, rest.drop n)

/-- The content of the first element, which has the given tag, and what follows it. -/
def take? (tag : UInt8) (b : Bytes) : Option (Bytes × Bytes) := do
  let (found, content, rest) ← element? b
  guard (found = tag)
  return (content, rest)

/-- The first element, with its tag and length. -/
def whole? (tag : UInt8) (b : Bytes) : Option Bytes :=
  (take? tag b).map fun (_, rest) => b.take (b.length - rest.length)

/-- The content of an element that stands alone. -/
def only? (tag : UInt8) (b : Bytes) : Option Bytes := do
  let (content, rest) ← take? tag b
  guard rest.isEmpty
  return content

/-- What follows an optional element. -/
def skipOptional (tag : UInt8) (b : Bytes) : Bytes :=
  match take? tag b with
  | some (_, rest) => rest
  | none => b

/-- The content of an integer as a natural number, written in the fewest bytes. -/
def naturalOf? : Bytes → Option Nat
  | [] => none
  | [b] => if b < 0x80 then some b.toNat else none
  | a :: b :: rest =>
    if 0x80 ≤ a ∨ (a = 0 ∧ b < 0x80) then none else some (Bytes.toNat (a :: b :: rest))

/-- A natural number and what follows it. -/
def natural? (b : Bytes) : Option (Nat × Bytes) := do
  let (content, rest) ← take? integerTag b
  return (← naturalOf? content, rest)

/-- A string of whole bytes from the content of a string of bits. -/
def bits? : Bytes → Option Bytes
  | 0 :: rest => some rest
  | _ => none

end Cose.Der
