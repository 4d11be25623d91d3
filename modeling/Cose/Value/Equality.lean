import Cose.Value.Basic

/-!
# Equality of values

Values are compared by what they stand for: integers, floats and truth values by their number, so
that `1`, `1.0` and `true` are one key; byte strings and byte buffers by their bytes; maps by
their entries whatever the order; a frozen container like the same container unfrozen. Lists and
tuples differ. A value that is not a number differs from every value.

## Main definitions

* `Value.same`: equality of values
* `Value.isHashable`: whether a value may be a key
* `Value.insert`, `Value.find?`: the entries of a map
* `Value.ofEntries`: a map from pairs, the last value of a key standing at its first place
-/

namespace Cose.Value

/-- Equality of the values that are not containers. -/
def sameAtom : Value → Value → Bool
  | .null, .null => true
  | .undefined, .undefined | .stop, .stop => true
  | .bool a, .bool b => a == b
  | .bool a, .int n => n == (if a then 1 else 0)
  | .bool a, .float x => (Float.Format.double.decode x.toNat).isInt (if a then 1 else 0)
  | .int n, .bool a => n == (if a then 1 else 0)
  | .int n, .int m => n == m
  | .int n, .float x => (Float.Format.double.decode x.toNat).isInt n
  | .float x, .bool a => (Float.Format.double.decode x.toNat).isInt (if a then 1 else 0)
  | .float x, .int n => (Float.Format.double.decode x.toNat).isInt n
  | .float x, .float y =>
    (Float.Format.double.decode x.toNat).same (Float.Format.double.decode y.toNat)
  | .text s, .text t => s == t
  | .bytes a, .bytes b | .bytes a, .buffer b | .buffer a, .bytes b | .buffer a, .buffer b => a == b
  | .simple n, .simple m => n == m
  | .algorithm a, .algorithm b => a == b
  | _, _ => false

mutual

/-- Equality of values. -/
def same : Value → Value → Bool
  | .list xs, .list ys => sameItems xs ys
  | .tuple xs, .tuple ys => sameItems xs ys
  | .map xs, .map ys | .map xs, .frozenMap ys | .frozenMap xs, .map ys
  | .frozenMap xs, .frozenMap ys => xs.length == ys.length && hasEntries ys xs
  | .set xs, .set ys | .set xs, .frozenSet ys | .frozenSet xs, .set ys
  | .frozenSet xs, .frozenSet ys => xs.length == ys.length && hasItems ys xs
  | .tag n x, .tag m y => n == m && same x y
  | x, y => sameAtom x y

/-- Equality of sequences. -/
def sameItems : List Value → List Value → Bool
  | [], [] => true
  | x :: xs, y :: ys => same x y && sameItems xs ys
  | _, _ => false

/-- Whether every element of the second sequence is equal to one of the first. -/
def hasItems (ys : List Value) : List Value → Bool
  | [] => true
  | x :: xs => ys.any (same x) && hasItems ys xs

/-- Whether every entry of the second sequence has an equal key with an equal value in the
first. -/
def hasEntries (ys : List (Value × Value)) : List (Value × Value) → Bool
  | [] => true
  | (k, v) :: xs => ys.any (fun e => same k e.1 && same v e.2) && hasEntries ys xs

end

mutual

/-- Whether a value may be a key: it is no mutable container and has none inside. -/
def isHashable : Value → Bool
  | .buffer _ | .list _ | .map _ | .set _ => false
  | .tuple xs | .frozenSet xs => areHashable xs
  | .frozenMap es => entriesAreHashable es
  | .tag _ v => isHashable v
  | _ => true

/-- Whether all elements may be keys. -/
def areHashable : List Value → Bool
  | [] => true
  | x :: xs => isHashable x && areHashable xs

/-- Whether all keys and values may be keys. -/
def entriesAreHashable : List (Value × Value) → Bool
  | [] => true
  | (k, v) :: es => isHashable k && isHashable v && entriesAreHashable es

end

/-- The value that entries hold for a key. -/
def find? (key : Value) : List (Value × Value) → Option Value
  | [] => none
  | (k, v) :: es => if same key k then some v else find? key es

/-- Entries with a value stored for a key: in the place of an equal key, else at the end. -/
def insert (key value : Value) : List (Value × Value) → List (Value × Value)
  | [] => [(key, value)]
  | (k, v) :: es => if same key k then (k, value) :: es else (k, v) :: insert key value es

/-- The entries of a map built from pairs in order. -/
def ofEntries (pairs : List (Value × Value)) : List (Value × Value) :=
  pairs.foldl (fun es e => insert e.1 e.2 es) []

/-- The elements of a set built from elements in order: the first of equal elements. -/
def ofItems (items : List Value) : List Value :=
  items.foldl (fun xs x => if xs.any (same x) then xs else xs ++ [x]) []

end Cose.Value
