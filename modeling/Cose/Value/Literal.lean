import Cose.Float.Shortest
import Cose.Text.Integer
import Cose.Text.Quoted
import Cose.Value.Basic

/-!
# Values in messages

The text of a value as it appears in messages and logs: texts and byte strings in quotes, the
others by a literal that shows their type. A value with an integer of too many digits inside has
no such text.

## Main definitions

* `Value.literal`: the text of a value
* `Value.isWritable`: whether all integers inside a value can be written
-/

namespace Cose

/-- The text of an algorithm with all its parameters. -/
def Algorithm.literal (a : Algorithm) : String :=
  let family := match a.family with
    | .ecdsa => "ECDSA"
    | .eddsa => "EDDSA"
    | .rsaPss => "RSA_PSS"
    | .hmac => "HMAC"
  let hash := match a.hash with
    | none => "None"
    | some h =>
      s!"<class 'cryptography.hazmat.primitives.hashes.{h.name.toUpper}'>"
  let curve := match a.curve with
    | none => "None"
    | some c =>
      s!"<class 'cryptography.hazmat.primitives.asymmetric.ec.{c.name.toUpper}'>"
  let size := match a.keySize with
    | none => "None"
    | some n => toString n
  s!"Algorithm(name={Text.quoteText a.name}, value={a.value}, " ++
    s!"family=<AlgorithmFamily.{family}: {Text.quoteText a.family.name}>, " ++
    s!"hash_algorithm={hash}, curve={curve}, key_size={size})"

namespace Value

/-- A text between two others. -/
def enclose (before after inside : String) : String :=
  before ++ inside ++ after

/-- Texts between braces. -/
def braced (inside : List String) : String :=
  enclose "\x7b" "\x7d" (", ".intercalate inside)

mutual

/-- The text of a value. -/
def literal : Value → String
  | .null => "None"
  | .bool b => if b then "True" else "False"
  | .int n => toString n
  | .text s => Text.quoteText s
  | .bytes b => Text.quoteBytes b
  | .buffer b => enclose "bytearray(" ")" (Text.quoteBytes b)
  | .float bits => Float.text bits
  | .list xs => enclose "[" "]" (", ".intercalate (literals xs))
  | .tuple xs =>
    match literals xs with
    | [x] => enclose "(" ",)" x
    | ys => enclose "(" ")" (", ".intercalate ys)
  | .map es => braced (entryLiterals es)
  | .frozenMap es => enclose "FrozenDict(" ")" (braced (entryLiterals es))
  | .set xs => if xs.isEmpty then "set()" else braced (literals xs)
  | .frozenSet xs =>
    if xs.isEmpty then "frozenset()" else enclose "frozenset(" ")" (braced (literals xs))
  | .tag n v => enclose "CBORTag(" ")" (toString n ++ ", " ++ literal v)
  | .simple n => enclose "CBORSimpleValue(value=" ")" (toString n)
  | .undefined => "undefined"
  | .stop => "break_marker"
  | .algorithm a => a.literal

/-- The texts of values. -/
def literals : List Value → List String
  | [] => []
  | x :: xs => literal x :: literals xs

/-- The texts of entries, key and value. -/
def entryLiterals : List (Value × Value) → List String
  | [] => []
  | (k, v) :: es => (literal k ++ ": " ++ literal v) :: entryLiterals es

end

mutual

/-- Whether all integers inside a value can be written. -/
def isWritable : Value → Bool
  | .int n => Text.isWritable n
  | .list xs | .tuple xs | .set xs | .frozenSet xs => areWritable xs
  | .map es | .frozenMap es => entriesAreWritable es
  | .tag _ v => isWritable v
  | .algorithm a => Text.isWritable a.value
  | _ => true

/-- Whether all integers inside values can be written. -/
def areWritable : List Value → Bool
  | [] => true
  | x :: xs => isWritable x && areWritable xs

/-- Whether all integers inside entries can be written. -/
def entriesAreWritable : List (Value × Value) → Bool
  | [] => true
  | (k, v) :: es => isWritable k && isWritable v && entriesAreWritable es

end

end Value

end Cose
