import Cose.Bytes
import Cose.Text.Character

/-!
# Integers as text

An integer is read from blanks, an optional sign, decimal digits of any script with single
underscores between them, and blanks. Neither reading nor writing goes beyond a fixed number of
digits.

## Main definitions

* `maxDigits`: the longest decimal numeral that is read or written
* `isWritable`: whether an integer has a numeral of at most that length
* `readInt?`: the integer that a text spells
-/

namespace Cose.Text

/-- The longest decimal numeral that is read or written. -/
def maxDigits : Nat := 4300

/-- Whether the decimal numeral of an integer is short enough to be written. -/
def isWritable (n : Int) : Bool :=
  decide (n.natAbs < 10 ^ maxDigits)

/-- The blanks around a numeral: white space, without the information separators. -/
def isNumeralBlank (c : Char) : Bool :=
  isBlank c && !(28 ≤ c.toNat && c.toNat ≤ 31)

/-- The values of the digits of a numeral, most significant first. An underscore is allowed
between two digits. -/
def digits? : List Char → Option (List Nat)
  | [] => none
  | [c] => (digitValue? c).map ([·])
  | c :: '_' :: rest => do
    let d ← digitValue? c
    let ds ← digits? rest
    return d :: ds
  | c :: d :: rest => do
    let x ← digitValue? c
    let xs ← digits? (d :: rest)
    return x :: xs

/-- A sign and the numeral behind it; no sign counts as plus. -/
def splitSign : List Char → Bool × List Char
  | '-' :: rest => (true, rest)
  | '+' :: rest => (false, rest)
  | cs => (false, cs)

/-- The integer that a text spells, unless it has more digits than are read. -/
def readInt? (s : String) : Option Int := do
  let cs := ((s.toList.dropWhile isNumeralBlank).reverse.dropWhile isNumeralBlank).reverse
  let (negative, numeral) := splitSign cs
  let ds ← digits? numeral
  if ds.length ≤ maxDigits then
    let n : Nat := ds.foldl (fun n d => n * 10 + d) 0
    return if negative then -(n : Int) else n
  else none

end Cose.Text
