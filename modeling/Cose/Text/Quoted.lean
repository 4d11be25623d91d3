import Cose.Bytes
import Cose.Text.Printable

/-!
# Quoted text

Texts and byte strings as they appear in messages: between quotes, with a backslash before what
cannot stand for itself. The quote is the apostrophe, or the quotation mark for a text that has
an apostrophe and no quotation mark.

## Main definitions

* `quoteText`: a text in quotes
* `quoteBytes`: a byte string in quotes, behind the letter b
-/

namespace Cose.Text

/-- A number in hexadecimal digits, lower case, at least `width` of them. -/
def hexNumeral (width n : Nat) : List Char :=
  let digits := Nat.toDigits 16 n
  List.replicate (width - digits.length) '0' ++ digits

/-- The quote for a sequence of characters: the apostrophe, unless it occurs and the quotation
mark does not. -/
def quoteMark (cs : List Char) : Char :=
  if cs.contains '\'' && !cs.contains '"' then '"' else '\''

/-- The escapes that text and bytes share: the quote in use, the backslash, tab and line ends. -/
def escapeCommon? (mark c : Char) : Option (List Char) :=
  if c == mark || c == '\\' then some ['\\', c]
  else if c == '\t' then some ['\\', 't']
  else if c == '\n' then some ['\\', 'n']
  else if c == '\r' then some ['\\', 'r']
  else none

/-- A character inside a quoted text. -/
def escapeChar (mark c : Char) : List Char :=
  match escapeCommon? mark c with
  | some escape => escape
  | none =>
    if isPrintable c then [c]
    else if c.toNat < 0x100 then '\\' :: 'x' :: hexNumeral 2 c.toNat
    else if c.toNat < 0x10000 then '\\' :: 'u' :: hexNumeral 4 c.toNat
    else '\\' :: 'U' :: hexNumeral 8 c.toNat

/-- A text in quotes. -/
def quoteText (s : String) : String :=
  let mark := quoteMark s.toList
  String.ofList (mark :: s.toList.flatMap (escapeChar mark) ++ [mark])

/-- A byte inside a quoted byte string. -/
def escapeByte (mark : Char) (b : UInt8) : List Char :=
  let c := Char.ofNat b.toNat
  match escapeCommon? mark c with
  | some escape => escape
  | none => if 32 ≤ b && b < 127 then [c] else '\\' :: 'x' :: Bytes.hexByte b

/-- A byte string in quotes, behind the letter b. -/
def quoteBytes (b : Bytes) : String :=
  let mark := quoteMark (b.map fun x => Char.ofNat x.toNat)
  String.ofList ('b' :: mark :: b.flatMap (escapeByte mark) ++ [mark])

end Cose.Text
