/-!
# Characters of texts

Blanks are the white space of Unicode together with the four information separators; a text is
trimmed when it neither begins nor ends with one. Decimal digits come from every script, each of
which has ten consecutive code points for zero to nine. Lines end in one of three ways, and all
become one where a text is read.

## Main definitions

* `isBlank`, `trim`: blank characters, and a text without those at both ends
* `digitValue?`: the value of a decimal digit
* `unifyLines`: a text with one kind of line end
-/

namespace Cose.Text

/-! ## Blanks -/

/-- Whether a character is white space or an information separator. -/
def isBlank (c : Char) : Bool :=
  let n := c.toNat
  (9 ≤ n && n ≤ 13) || (28 ≤ n && n ≤ 32) || n == 0x85 || n == 0xa0 || n == 0x1680 ||
    (0x2000 ≤ n && n ≤ 0x200a) || n == 0x2028 || n == 0x2029 || n == 0x202f || n == 0x205f ||
    n == 0x3000

/-- A sequence of characters without the blanks at both ends. -/
def trimChars (cs : List Char) : List Char :=
  ((cs.dropWhile isBlank).reverse.dropWhile isBlank).reverse

/-- A text without the blanks at both ends. -/
def trim (s : String) : String :=
  String.ofList (trimChars s.toList)

/-! ## Digits -/

/-- The code points of the digits zero of Unicode 14, in ascending order. -/
def zeroDigits : List Nat :=
   [0x30, 0x660, 0x6f0, 0x7c0, 0x966, 0x9e6, 0xa66, 0xae6, 0xb66, 0xbe6, 0xc66, 0xce6, 0xd66,
    0xde6, 0xe50, 0xed0, 0xf20, 0x1040, 0x1090, 0x17e0, 0x1810, 0x1946, 0x19d0, 0x1a80, 0x1a90,
    0x1b50, 0x1bb0, 0x1c40, 0x1c50, 0xa620, 0xa8d0, 0xa900, 0xa9d0, 0xa9f0, 0xaa50, 0xabf0,
    0xff10, 0x104a0, 0x10d30, 0x11066, 0x110f0, 0x11136, 0x111d0, 0x112f0, 0x11450, 0x114d0,
    0x11650, 0x116c0, 0x11730, 0x118e0, 0x11950, 0x11c50, 0x11d50, 0x11da0, 0x16a60, 0x16ac0,
    0x16b50, 0x1d7ce, 0x1d7d8, 0x1d7e2, 0x1d7ec, 0x1d7f6, 0x1e140, 0x1e2f0, 0x1e950, 0x1fbf0]

/-- The value of a decimal digit of any script. -/
def digitValue? (c : Char) : Option Nat :=
  (zeroDigits.find? fun z => z ≤ c.toNat && c.toNat < z + 10).map (c.toNat - ·)

/-! ## Line ends -/

/-- The characters of a text with a line feed for every line end. -/
def unifyLineChars : List Char → List Char
  | '\r' :: '\n' :: rest => '\n' :: unifyLineChars rest
  | '\r' :: rest => '\n' :: unifyLineChars rest
  | c :: rest => c :: unifyLineChars rest
  | [] => []

/-- **A text with a line feed for every line end.** -/
def unifyLines (s : String) : String :=
  String.ofList (unifyLineChars s.toList)

end Cose.Text
