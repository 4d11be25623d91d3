import Cose.Cbor.Encoder
import Cose.Value.Equality

/-!
# Reading CBOR

A reader takes the first item of a byte string and leaves the rest. It accepts heads of any width
and containers and strings of unknown length; it refuses reserved heads, text that is not UTF-8,
input that ends early, and items nested too deep. Of equal keys of a map the last value stands at
the first place. Keys are read immutable. Magnitudes of big integers, sets and the tag that only
says that CBOR follows are read as what they mean; other tags are kept. The pattern of a regular
expression has to be a string.

## Main definitions

* `maxDepth`: the number of levels of items within items
* `decodeItem`: the first item of a byte string and what follows it
* `decode?`: the first item of a byte string
-/

namespace Cose.Cbor

/-- The number of levels of items within items, the outermost included. -/
def maxDepth : Nat := 400

/-- The chunks of a string of unknown length: strings of the same type with known lengths, up to
the end mark. A text is checked chunk by chunk. The count bounds the number of chunks. -/
def chunks? (major : Major) (check : Bytes → Bool) : Nat → Bytes → Option (Bytes × Bytes)
  | 0, _ => none
  | _ + 1, [] => none
  | count + 1, first :: rest =>
    if first = firstByte .special unknownLength then some ([], rest)
    else if Major.ofByte first = major then do
      let (length, rest) ← argument? (infoOf first) rest
      let (chunk, rest) ← take? length rest
      guard (check chunk)
      let (chunks, rest) ← chunks? major check count rest
      return (chunk ++ chunks, rest)
    else none

/-- The content of a string, given what stands for its length. -/
def string? (major : Major) (check : Bytes → Bool) (info : Nat) (b : Bytes) :
    Option (Bytes × Bytes) :=
  if info = unknownLength then chunks? major check b.length b
  else do
    let (length, rest) ← argument? info b
    let (content, rest) ← take? length rest
    guard (check content)
    return (content, rest)

/-- A given number of elements in a row. -/
def repeat? {α : Type} (read : Bytes → Option (α × Bytes)) : Nat → Bytes → Option (List α × Bytes)
  | 0, b => some ([], b)
  | n + 1, b => do
    let (x, rest) ← read b
    let (xs, rest) ← repeat? read n rest
    return (x :: xs, rest)

/-- Elements in a row up to the end mark. The count bounds their number. -/
def untilStop? (read : Bytes → Option (Value × Bytes)) :
    Nat → Bytes → Option (List Value × Bytes)
  | 0, _ => none
  | count + 1, b => do
    match ← read b with
    | (.stop, rest) => return ([], rest)
    | (x, rest) =>
      let (xs, rest) ← untilStop? read count rest
      return (x :: xs, rest)

/-- Entries in a row up to the end mark in place of a key. The count bounds their number. -/
def entriesUntilStop? (readKey read : Bytes → Option (Value × Bytes)) :
    Nat → Bytes → Option (List (Value × Value) × Bytes)
  | 0, _ => none
  | count + 1, b => do
    match ← readKey b with
    | (.stop, rest) => return ([], rest)
    | (k, rest) =>
      let (v, rest) ← read rest
      let (es, rest) ← entriesUntilStop? readKey read count rest
      return ((k, v) :: es, rest)

/-- An entry: a key and its value. -/
def keyAndValue? (readKey read : Bytes → Option (Value × Bytes)) (b : Bytes) :
    Option ((Value × Value) × Bytes) := do
  let (k, rest) ← readKey b
  let (v, rest) ← read rest
  return ((k, v), rest)

/-- The elements of an array, given what stands for their number. -/
def items? (read : Bytes → Option (Value × Bytes)) (info : Nat) (b : Bytes) :
    Option (List Value × Bytes) :=
  if info = unknownLength then untilStop? read b.length b
  else do
    let (count, rest) ← argument? info b
    repeat? read count rest

/-- The entries of a map, given what stands for their number. -/
def entries? (readKey read : Bytes → Option (Value × Bytes)) (info : Nat) (b : Bytes) :
    Option (List (Value × Value) × Bytes) :=
  if info = unknownLength then entriesUntilStop? readKey read b.length b
  else do
    let (count, rest) ← argument? info b
    repeat? (keyAndValue? readKey read) count rest

/-- The tag around the pattern of a regular expression. -/
def patternTag : Nat := 35

/-- Whether a regular expression can be made of the content of its tag: a string, or what has become
one already. -/
def isPattern : Value → Bool
  | .text _ | .bytes _ => true
  | .tag number _ => number == patternTag
  | _ => false

/-- What a tag with its content means. A mutable set is read unless it stands in a key. -/
def interpretTag? (frozen : Bool) (number : Nat) (content : Value) : Option Value :=
  if number = positiveTag then
    match content with
    | .bytes b => some (.int b.toNat)
    | _ => none
  else if number = negativeTag then
    match content with
    | .bytes b => some (.int (-1 - b.toNat))
    | _ => none
  else if number = setTag then
    match content with
    | .tuple xs | .list xs =>
      let items := Value.ofItems xs
      some (if frozen then .frozenSet items else .set items)
    | _ => none
  else if number = selfTag then some content
  else if number = patternTag ∧ isPattern content = false then none
  else some (.tag number content)

/-- A float of the given format and width. -/
def float? (f : Float.Format) (width : Nat) (b : Bytes) : Option (Value × Bytes) := do
  let (bits, rest) ← takeNat? width b
  let wide ← Float.Format.double.encode? (f.decode bits)
  return (.float (UInt64.ofNat wide), rest)

/-- The items without content: truth values, null, floats and the like. -/
def special? (info : Nat) (b : Bytes) : Option (Value × Bytes) :=
  match info with
  | 20 => some (.bool false, b)
  | 21 => some (.bool true, b)
  | 22 => some (.null, b)
  | 23 => some (.undefined, b)
  | 24 => (takeNat? 1 b).map fun (n, rest) => (.simple n, rest)
  | 25 => float? .half 2 b
  | 26 => float? .single 4 b
  | 27 => float? .double 8 b
  | 31 => some (.stop, b)
  | info => if info < 20 then some (.simple info, b) else none

/-- Whether bytes are the UTF-8 form of a text. -/
def isUtf8 (b : Bytes) : Bool :=
  (Bytes.toText? b).isSome

/-- **The first item** of a byte string and what follows it, with items nested to at most the
given depth. A frozen item is immutable all through. -/
def decodeItem : (depth : Nat) → (frozen : Bool) → Bytes → Option (Value × Bytes)
  | 0, _, _ => none
  | _ + 1, _, [] => none
  | depth + 1, frozen, first :: rest =>
    let info := infoOf first
    match Major.ofByte first with
    | .unsigned => (argument? info rest).map fun (n, rest) => (.int n, rest)
    | .negative => (argument? info rest).map fun (n, rest) => (.int (-1 - n), rest)
    | .bytes => (string? .bytes (fun _ => true) info rest).map fun (b, rest) => (.bytes b, rest)
    | .text => do
      let (b, rest) ← string? .text isUtf8 info rest
      let s ← Bytes.toText? b
      return (.text s, rest)
    | .array =>
      (items? (decodeItem depth frozen) info rest).map fun (xs, rest) =>
        (if frozen then .tuple xs else .list xs, rest)
    | .map =>
      (entries? (decodeItem depth true) (decodeItem depth frozen) info rest).map
        fun (es, rest) =>
          let entries := Value.ofEntries es
          (if frozen then .frozenMap entries else .map entries, rest)
    | .tag => do
      let (number, rest) ← argument? info rest
      let (content, rest) ← decodeItem depth (frozen || number == setTag) rest
      let v ← interpretTag? frozen number content
      return (v, rest)
    | .special => special? info rest

/-- **The first item of a byte string.** What follows it is ignored. -/
def decode? (b : Bytes) : Option Value :=
  (decodeItem maxDepth false b).map Prod.fst

end Cose.Cbor
