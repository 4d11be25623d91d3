import Cose.Bytes

/-!
# Base64

The encoding of bytes by four characters for three bytes, padded at the end. The strict reader
accepts exactly what the writer produces. The lenient reader skips characters outside the alphabet
and stops at complete padding; it also takes the URL-safe characters for the two last digits.

## Main definitions

* `encode64`: the padded encoding
* `decode64?`: the strict reader
* `lenient64?`: the lenient reader
-/

namespace Cose.Text

/-- The digits in order. -/
def alphabet64 : List Char :=
  "ABCDEFGHIJKLMNOPQRSTUVWXYZabcdefghijklmnopqrstuvwxyz0123456789+/".toList

/-- The character of a digit. -/
def char64 (n : Nat) : Char :=
  alphabet64.getD (n % 64) 'A'

/-- The value of a digit. -/
def value64? (c : Char) : Option Nat :=
  let n := c.toNat
  if 65 ≤ n && n ≤ 90 then some (n - 65)
  else if 97 ≤ n && n ≤ 122 then some (n - 71)
  else if 48 ≤ n && n ≤ 57 then some (n + 4)
  else if c == '+' then some 62
  else if c == '/' then some 63
  else none

/-- The padded encoding, as characters. -/
def encodeChars64 : Bytes → List Char
  | a :: b :: c :: rest =>
    let n := a.toNat * 65536 + b.toNat * 256 + c.toNat
    char64 (n / 262144) :: char64 (n / 4096) :: char64 (n / 64) :: char64 n :: encodeChars64 rest
  | [a, b] =>
    let n := a.toNat * 1024 + b.toNat * 4
    [char64 (n / 4096), char64 (n / 64), char64 n, '=']
  | [a] =>
    let n := a.toNat * 16
    [char64 (n / 64), char64 n, '=', '=']
  | [] => []

/-- **The padded encoding.** -/
def encode64 (b : Bytes) : String :=
  String.ofList (encodeChars64 b)

/-- **The strict reader.** -/
def decode64? : List Char → Option Bytes
  | [] => some []
  | [a, b, '=', '='] => do
    let n := (← value64? a) * 64 + (← value64? b)
    guard (n % 16 = 0)
    return [UInt8.ofNat (n / 16)]
  | [a, b, c, '='] => do
    let n := (← value64? a) * 4096 + (← value64? b) * 64 + (← value64? c)
    guard (n % 4 = 0)
    return [UInt8.ofNat (n / 1024), UInt8.ofNat (n / 4)]
  | a :: b :: c :: d :: rest => do
    let n := (← value64? a) * 262144 + (← value64? b) * 4096 + (← value64? c) * 64 + (← value64? d)
    let bytes ← decode64? rest
    return UInt8.ofNat (n / 65536) :: UInt8.ofNat (n / 256) :: UInt8.ofNat n :: bytes
  | _ => none

/-- Reads on with the given digits of a group, their number, and the number of padding characters
seen since the last digit. An incomplete group at the end is refused. -/
def lenientChars64? (group digits pads : Nat) : List Char → Option Bytes
  | [] => if digits = 0 then some [] else none
  | '=' :: rest =>
    if 2 ≤ digits then
      if 4 ≤ digits + (pads + 1) then some [] else lenientChars64? group digits (pads + 1) rest
    else lenientChars64? group digits pads rest
  | c :: rest =>
    match value64? c with
    | none => lenientChars64? group digits pads rest
    | some v =>
      match digits with
      | 0 => lenientChars64? v 1 0 rest
      | 1 => (lenientChars64? (v % 16) 2 0 rest).map (UInt8.ofNat (group * 4 + v / 16) :: ·)
      | 2 => (lenientChars64? (v % 4) 3 0 rest).map (UInt8.ofNat (group * 16 + v / 4) :: ·)
      | _ => (lenientChars64? 0 0 0 rest).map (UInt8.ofNat (group * 64 + v) :: ·)

/-- The standard character for a URL-safe one. -/
def standard64 (c : Char) : Char :=
  if c == '-' then '+' else if c == '_' then '/' else c

/-- **The lenient reader**, for both alphabets. -/
def lenient64? (cs : List Char) : Option Bytes :=
  lenientChars64? 0 0 0 (cs.map standard64)

end Cose.Text
