import Cose.Error
import Cose.Text.Integer

/-!
# JSON

A reader for JSON texts. It is strict about strings, whose control characters have to be escaped,
and takes the words for infinities and for what is not a number as numbers. Numbers are kept as
they are written; an integer of too many digits is refused for its value and not for its form.

## Main definitions

* `Json`: a JSON value
* `Json.read`: the reader
* `Json.member?`: the value of a member of an object
-/

namespace Cose.Text

/-- **A JSON value.** The members of an object are in the order in which they are written. -/
inductive Json where
  | null
  | bool (b : Bool)
  | number (numeral : String)
  | text (s : String)
  | array (items : List Json)
  | object (members : List (String × Json))

namespace Json

/-- Whether a character is skipped between the parts of a text. -/
def isSpace (c : Char) : Bool :=
  c == ' ' || c == '\t' || c == '\n' || c == '\r'

/-- What follows the blanks at the start. -/
def skip (cs : List Char) : List Char :=
  cs.dropWhile isSpace

/-! ## Strings -/

/-- The value of a hexadecimal digit. -/
def hexValue? (c : Char) : Option Nat :=
  let n := c.toNat
  if 48 ≤ n && n ≤ 57 then some (n - 48)
  else if 65 ≤ n && n ≤ 70 then some (n - 55)
  else if 97 ≤ n && n ≤ 102 then some (n - 87)
  else none

/-- The code unit of four hexadecimal digits. -/
def unit? (a b c d : Char) : Option Nat := do
  return (((← hexValue? a) * 16 + (← hexValue? b)) * 16 + (← hexValue? c)) * 16 + (← hexValue? d)

/-- The character for half of a pair that stands alone. -/
def replacement : Char := Char.ofNat 0xfffd

/-- The characters for a first half that was not completed. -/
def flush (pending : Option Nat) : List Char :=
  if pending.isSome then [replacement] else []

/-- The characters that a code unit completes, and the first half of a pair that it leaves open. -/
def join (pending : Option Nat) (n : Nat) : List Char × Option Nat :=
  if 0xdc00 ≤ n ∧ n < 0xe000 then
    match pending with
    | some high => ([Char.ofNat (0x10000 + (high - 0xd800) * 0x400 + (n - 0xdc00))], none)
    | none => ([replacement], none)
  else if 0xd800 ≤ n ∧ n < 0xdc00 then (flush pending, some n)
  else (flush pending ++ [Char.ofNat n], none)

/-- The character that a letter behind a backslash stands for. -/
def escaped? (c : Char) : Option Char :=
  [('"', '"'), ('\\', '\\'), ('/', '/'), ('b', '\x08'), ('f', '\x0c'), ('n', '\n'), ('r', '\r'),
    ('t', '\t')].lookup c

/-- The characters up to the closing quote, and what follows it. -/
def chars? (pending : Option Nat) : List Char → Option (List Char × List Char)
  | [] => none
  | '"' :: rest => some (flush pending, rest)
  | '\\' :: 'u' :: a :: b :: c :: d :: rest => do
    let (out, pending) := join pending (← unit? a b c d)
    let (cs, rest) ← chars? pending rest
    return (out ++ cs, rest)
  | '\\' :: c :: rest => do
    let out ← escaped? c
    let (cs, rest) ← chars? none rest
    return (flush pending ++ out :: cs, rest)
  | c :: rest => do
    guard (32 ≤ c.toNat && c != '\\')
    let (cs, rest) ← chars? none rest
    return (flush pending ++ c :: cs, rest)

/-- A string behind its opening quote. -/
def string (cs : List Char) : Except Fault (String × List Char) :=
  match chars? none cs with
  | some (s, rest) => .ok (String.ofList s, rest)
  | none => .error .json

/-! ## Numbers -/

/-- Whether a character is a digit of a numeral. -/
def isDigit (c : Char) : Bool := '0' ≤ c && c ≤ '9'

/-- The digits at the start, and what follows them. -/
def digits (cs : List Char) : List Char × List Char :=
  (cs.takeWhile isDigit, cs.dropWhile isDigit)

/-- The integer part of a numeral, without leading zeros, and what follows it. -/
def integerPart? : List Char → Option (List Char × List Char)
  | '0' :: rest => some (['0'], rest)
  | c :: rest => if isDigit c then some (digits (c :: rest)) else none
  | [] => none

/-- The fraction of a numeral, if there is one, and what follows it. -/
def fraction : List Char → List Char × List Char
  | '.' :: rest =>
    match digits rest with
    | ([], _) => ([], '.' :: rest)
    | (ds, rest) => ('.' :: ds, rest)
  | cs => ([], cs)

/-- The sign of an exponent, and what follows it. -/
def exponentSign : List Char → List Char × List Char
  | '+' :: rest => (['+'], rest)
  | '-' :: rest => (['-'], rest)
  | cs => ([], cs)

/-- The exponent of a numeral, if there is one, and what follows it. -/
def exponent : List Char → List Char × List Char
  | c :: rest =>
    if c == 'e' || c == 'E' then
      let (sign, tail) := exponentSign rest
      match digits tail with
      | ([], _) => ([], c :: rest)
      | (ds, tail) => (c :: sign ++ ds, tail)
    else ([], c :: rest)
  | [] => ([], [])

/-- The part of a number behind its sign. -/
def unsigned (sign : List Char) (cs : List Char) : Except Fault (Json × List Char) :=
  match integerPart? cs with
  | none => .error .json
  | some (whole, rest) =>
    let (frac, rest) := fraction rest
    let (exp, rest) := exponent rest
    if frac.isEmpty && exp.isEmpty && maxDigits < whole.length then .error .value
    else .ok (.number (String.ofList (sign ++ whole ++ frac ++ exp)), rest)

/-! ## Values -/

/-- The words that are values. -/
def words : List (List Char × Json) :=
  [("null".toList, .null), ("true".toList, .bool true), ("false".toList, .bool false),
    ("NaN".toList, .number "NaN"), ("Infinity".toList, .number "Infinity"),
    ("-Infinity".toList, .number "-Infinity")]

/-- A value that is a word or a number. -/
def atom (cs : List Char) : Except Fault (Json × List Char) :=
  match words.find? fun w => w.1.isPrefixOf cs with
  | some (word, v) => .ok (v, cs.drop word.length)
  | none =>
    match cs with
    | '-' :: rest => unsigned ['-'] rest
    | cs => unsigned [] cs

mutual

/-- A value at the start of a text, and what follows it. -/
def value : Nat → List Char → Except Fault (Json × List Char)
  | 0, _ => .error .json
  | fuel + 1, cs =>
    match cs with
    | '"' :: rest => (string rest).map fun (s, rest) => (.text s, rest)
    | '[' :: rest =>
      match skip rest with
      | ']' :: rest => .ok (.array [], rest)
      | rest => (items fuel rest).map fun (xs, rest) => (.array xs, rest)
    | '\x7b' :: rest =>
      match skip rest with
      | '\x7d' :: rest => .ok (.object [], rest)
      | rest => (members fuel rest).map fun (ms, rest) => (.object ms, rest)
    | cs => atom cs

/-- The items of an array up to its closing bracket. -/
def items : Nat → List Char → Except Fault (List Json × List Char)
  | 0, _ => .error .json
  | fuel + 1, cs => do
    let (v, rest) ← value fuel cs
    match skip rest with
    | ']' :: rest => return ([v], rest)
    | ',' :: rest =>
      let (vs, rest) ← items fuel (skip rest)
      return (v :: vs, rest)
    | _ => throw .json

/-- The members of an object up to its closing brace. -/
def members : Nat → List Char → Except Fault (List (String × Json) × List Char)
  | 0, _ => .error .json
  | fuel + 1, cs => do
    match cs with
    | '"' :: rest =>
      let (name, rest) ← string rest
      match skip rest with
      | ':' :: rest =>
        let (v, rest) ← value fuel (skip rest)
        match skip rest with
        | '\x7d' :: rest => return ([(name, v)], rest)
        | ',' :: rest =>
          let (ms, rest) ← members fuel (skip rest)
          return ((name, v) :: ms, rest)
        | _ => throw .json
      | _ => throw .json
    | _ => throw .json

end

/-- **Reads a JSON text**, which is one value between blanks. -/
def read (s : String) : Except Fault Json := do
  let cs := skip s.toList
  let (v, rest) ← value (2 * s.length + 2) cs
  if (skip rest).isEmpty then return v else throw .json

/-- The value of a member of an object; the last of several members of one name counts. -/
def member? (name : String) (members : List (String × Json)) : Option Json :=
  members.reverse.lookup name

end Json

end Cose.Text
