import Cose.Cbor.Head
import Cose.Value.Basic

/-!
# Writing CBOR

Values are written with definite lengths and the shortest heads. The plain form keeps the order of
map entries and writes floats in eight bytes, except infinities and what is not a number, which
take two. The canonical form sorts the entries of a map by the length of the encoded key and then
by its bytes, and writes a float in the shortest format that holds it.

## Main definitions

* `Form`: plain or canonical
* `encodeInt`, `encodeBytes`, `encodeText`, `encodeFloat`: the encodings of atoms
* `encode`: the encoding of a value, if it has one
-/

namespace Cose.Cbor

/-- **The two forms of encoding.** -/
inductive Form where
  | plain
  | canonical
  deriving DecidableEq, Repr

/-- The tag of the non-negative integers that no head holds. -/
def positiveTag : Nat := 2

/-- The tag of the negative integers that no head holds. -/
def negativeTag : Nat := 3

/-- The tag of sets. -/
def setTag : Nat := 258

/-- The tag that only says that CBOR follows. -/
def selfTag : Nat := 55799

/-- A byte string. -/
def encodeBytes (b : Bytes) : Bytes :=
  head .bytes b.length ++ b

/-- A text, as its UTF-8 form. -/
def encodeText (s : String) : Bytes :=
  head .text (Bytes.ofText s).length ++ Bytes.ofText s

/-- A magnitude: in a head of the given type, or as a tagged byte string. -/
def encodeMagnitude (major : Major) (tag n : Nat) : Bytes :=
  if n < 256 ^ 8 then head major n else head .tag tag ++ encodeBytes (Bytes.ofNat n)

/-- An integer. -/
def encodeInt : Int → Bytes
  | .ofNat n => encodeMagnitude .unsigned positiveTag n
  | .negSucc n => encodeMagnitude .negative negativeTag n

/-- A number in a format of the given width, if the format holds it. -/
def encodeFormat? (f : Float.Format) (info width : Nat) (x : Float.Number) : Option Bytes :=
  (f.encode? x).map fun bits => firstByte .special info :: Bytes.ofNatWidth width bits

/-- The exponent from which on finite numbers are not written in two bytes, even where these would
hold them. -/
def halfExponentBound : Int := 15

/-- Whether a number is finite and at least two to a power. -/
def reaches (bound : Int) : Float.Number → Bool
  | .finite _ 0 _ => false
  | .finite _ significand exponent => bound ≤ exponent + Nat.log2 significand
  | _ => false

/-- A number in two bytes, if they hold it and it is small enough. -/
def encodeHalf? (x : Float.Number) : Option Bytes :=
  if reaches halfExponentBound x then none else encodeFormat? .half 25 2 x

/-- A number in four bytes, if they hold it. -/
def encodeSingle? : Float.Number → Option Bytes := encodeFormat? .single 26 4

/-- A float, given by the bit pattern of a double. -/
def encodeFloat (form : Form) (bits : UInt64) : Bytes :=
  let x := Float.Format.double.decode bits.toNat
  let wide := firstByte .special 27 :: Bytes.ofNatWidth 8 bits.toNat
  match form, x with
  | .plain, .finite .. => wide
  | _, x => ((encodeHalf? x).or (encodeSingle? x)).getD wide

/-- The order of encodings: shorter ones first, equally long ones by their bytes. -/
def inOrder (a b : Bytes) : Bool :=
  a.length < b.length || (a.length == b.length && a.toNat ≤ b.toNat)

/-- The encoded entries of a map in the order of a form. -/
def arrange {α : Type} (form : Form) (entries : List (Bytes × α)) : List (Bytes × α) :=
  match form with
  | .plain => entries
  | .canonical => entries.mergeSort fun a b => inOrder a.1 b.1

/-- The encoded elements of a set in the order of a form. -/
def arrangeItems (form : Form) (items : List Bytes) : List Bytes :=
  match form with
  | .plain => items
  | .canonical => items.mergeSort inOrder

/-- An array of encoded elements. -/
def joinItems (items : List Bytes) : Bytes :=
  head .array items.length ++ items.flatten

/-- A map of encoded entries. -/
def joinEntries (entries : List (Bytes × Bytes)) : Bytes :=
  head .map entries.length ++ entries.flatMap fun e => e.1 ++ e.2

mutual

/-- **The encoding of a value.** Algorithms and stray end marks have none. -/
def encode (form : Form) : Value → Option Bytes
  | .null => some [firstByte .special 22]
  | .bool b => some [firstByte .special (if b then 21 else 20)]
  | .undefined => some [firstByte .special 23]
  | .simple n => some (head .special n)
  | .int n => some (encodeInt n)
  | .text s => some (encodeText s)
  | .bytes b | .buffer b => some (encodeBytes b)
  | .float bits => some (encodeFloat form bits)
  | .list xs | .tuple xs => (encodeItems form xs).map joinItems
  | .map es | .frozenMap es =>
    (encodeEntries form es).map fun entries => joinEntries (arrange form entries)
  | .set xs | .frozenSet xs =>
    (encodeItems form xs).map fun items => head .tag setTag ++ joinItems (arrangeItems form items)
  | .tag n v => (encode form v).map (head .tag n ++ ·)
  | .stop | .algorithm _ => none

/-- The encodings of values in order. -/
def encodeItems (form : Form) : List Value → Option (List Bytes)
  | [] => some []
  | x :: xs => do
    let item ← encode form x
    let items ← encodeItems form xs
    return item :: items

/-- The encodings of entries in order, key and value. -/
def encodeEntries (form : Form) : List (Value × Value) → Option (List (Bytes × Bytes))
  | [] => some []
  | (k, v) :: es => do
    let key ← encode form k
    let value ← encode form v
    let entries ← encodeEntries form es
    return (key, value) :: entries

end

end Cose.Cbor
