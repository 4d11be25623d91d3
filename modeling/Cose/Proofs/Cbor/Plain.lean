import Cose.Cbor.Decoder
import Cose.Proofs.Cbor.Head
import Cose.Proofs.Float.Exact

/-!
# Plain data

Plain data is what CBOR has items of its own for: null, truth values, integers, texts, byte strings,
floats, arrays and maps. Each array or map is one more level of items within items, and so is the
byte string of an integer that no head holds. What is read back from the encoding of plain data is
the data itself up to the distinctions that CBOR does not make.

## Main definitions

* `Value.Plain`: plain data within a number of levels
* `received`: what is read back from the encoding of a value
* `ordered`: the entries of a map in the order in which they are written

## Main results

* `encode_list`, `encode_map`: encodings of arrays and maps by their parts
* `received_list`, `received_map`: the same for what is read back
-/

namespace Cose

/-- **Plain data** within a number of levels, with a condition on the keys of each map. -/
inductive Value.Plain (keys : List Value → Prop) : Nat → Value → Prop
  | null (n : Nat) : Plain keys (n + 1) .null
  | bool (n : Nat) (b : Bool) : Plain keys (n + 1) (.bool b)
  | int {n : Nat} {i : Int} (head : -2 ^ 64 ≤ i ∧ i < 2 ^ 64) : Plain keys (n + 1) (.int i)
  | bigInt (n : Nat) (i : Int) : Plain keys (n + 2) (.int i)
  | text (n : Nat) (s : String) : Plain keys (n + 1) (.text s)
  | bytes (n : Nat) (b : Bytes) : Plain keys (n + 1) (.bytes b)
  | buffer (n : Nat) (b : Bytes) : Plain keys (n + 1) (.buffer b)
  | float (n : Nat) (bits : UInt64) : Plain keys (n + 1) (.float bits)
  | list {n : Nat} {xs : List Value} (items : ∀ x ∈ xs, Plain keys n x) :
      Plain keys (n + 1) (.list xs)
  | tuple {n : Nat} {xs : List Value} (items : ∀ x ∈ xs, Plain keys n x) :
      Plain keys (n + 1) (.tuple xs)
  | map {n : Nat} {es : List (Value × Value)} (admitted : keys (es.map Prod.fst))
      (labels : ∀ e ∈ es, Plain keys n e.1) (values : ∀ e ∈ es, Plain keys n e.2) :
      Plain keys (n + 1) (.map es)
  | frozenMap {n : Nat} {es : List (Value × Value)} (admitted : keys (es.map Prod.fst))
      (labels : ∀ e ∈ es, Plain keys n e.1) (values : ∀ e ∈ es, Plain keys n e.2) :
      Plain keys (n + 1) (.frozenMap es)

/-- More levels do no harm. -/
theorem Value.Plain.mono {keys : List Value → Prop} {n m : Nat} {v : Value} (h : v.Plain keys n)
    (le : n ≤ m) : v.Plain keys m := by
  induction h generalizing m with
  | null | bool | text | bytes | buffer | float =>
    obtain ⟨m, rfl⟩ : ∃ k, m = k + 1 := ⟨m - 1, by omega⟩
    constructor
  | int head =>
    obtain ⟨m, rfl⟩ : ∃ k, m = k + 1 := ⟨m - 1, by omega⟩
    exact .int head
  | bigInt =>
    obtain ⟨m, rfl⟩ : ∃ k, m = k + 2 := ⟨m - 2, by omega⟩
    exact .bigInt m _
  | list _ ih =>
    obtain ⟨m, rfl⟩ : ∃ k, m = k + 1 := ⟨m - 1, by omega⟩
    exact .list fun x hx => ih x hx (by omega)
  | tuple _ ih =>
    obtain ⟨m, rfl⟩ : ∃ k, m = k + 1 := ⟨m - 1, by omega⟩
    exact .tuple fun x hx => ih x hx (by omega)
  | map admitted _ _ ihk ihv =>
    obtain ⟨m, rfl⟩ : ∃ k, m = k + 1 := ⟨m - 1, by omega⟩
    exact .map admitted (fun e he => ihk e he (by omega)) fun e he => ihv e he (by omega)
  | frozenMap admitted _ _ ihk ihv =>
    obtain ⟨m, rfl⟩ : ∃ k, m = k + 1 := ⟨m - 1, by omega⟩
    exact .frozenMap admitted (fun e he => ihk e he (by omega)) fun e he => ihv e he (by omega)

namespace Cbor

variable {form : Form}

/-- The pattern that is read back from a float: all that is not a number has one. -/
def receivedFloat (bits : UInt64) : UInt64 :=
  match Float.Format.double.decode bits.toNat with
  | .notANumber => 0x7ff8000000000000
  | _ => bits

/-- The bytes of a value that has an encoding. -/
def bytesOf (form : Form) (v : Value) : Bytes :=
  (encode form v).getD []

mutual

/-- What is read back from the encoding of a value, mutable or frozen. -/
def received (form : Form) : Value → Bool → Value
  | .buffer b, _ => .bytes b
  | .float bits, _ => .float (receivedFloat bits)
  | .list xs, frozen | .tuple xs, frozen =>
    let items := receivedItems form xs frozen
    if frozen then .tuple items else .list items
  | .map es, frozen | .frozenMap es, frozen =>
    let entries := Value.ofEntries ((arrange form (receivedEntries form es frozen)).map Prod.snd)
    if frozen then .frozenMap entries else .map entries
  | v, _ => v

/-- What is read back from the elements of an array. -/
def receivedItems (form : Form) : List Value → Bool → List Value
  | [], _ => []
  | x :: xs, frozen => received form x frozen :: receivedItems form xs frozen

/-- What is read back from the entries of a map, together with the bytes of their keys. -/
def receivedEntries (form : Form) :
    List (Value × Value) → Bool → List (Bytes × (Value × Value))
  | [], _ => []
  | (k, v) :: es, frozen =>
    (bytesOf form k, (received form k true, received form v frozen)) ::
      receivedEntries form es frozen

end

/-- The entries of a map in the order in which they are written. -/
def ordered (form : Form) (es : List (Value × Value)) : List (Value × Value) :=
  match form with
  | .plain => es
  | .canonical => es.mergeSort fun a b => inOrder (bytesOf .canonical a.1) (bytesOf .canonical b.1)

/-- What is read back from an entry of a map. -/
def receivedEntry (form : Form) (frozen : Bool) (e : Value × Value) : Value × Value :=
  (received form e.1 true, received form e.2 frozen)

theorem ordered_perm (form : Form) (es : List (Value × Value)) : (ordered form es).Perm es := by
  cases form with
  | plain => exact .refl es
  | canonical => exact List.mergeSort_perm es _

theorem arrange_map {α : Type} (f : Value × Value → α) (es : List (Value × Value)) :
    arrange form (es.map fun e => (bytesOf form e.1, f e)) =
      (ordered form es).map fun e => (bytesOf form e.1, f e) := by
  cases form with
  | plain => rfl
  | canonical =>
    have sorted := List.map_mergeSort (r := fun a b : Value × Value =>
        inOrder (bytesOf .canonical a.1) (bytesOf .canonical b.1))
      (s := fun a b : Bytes × α => inOrder a.1 b.1)
      (f := fun e => (bytesOf .canonical e.1, f e)) (l := es) fun _ _ _ _ => rfl
    exact sorted.symm

/-! ## Encodings by their parts -/

theorem bytesOf_eq {v : Value} {b : Bytes} (h : encode form v = some b) : bytesOf form v = b := by
  rw [bytesOf, h, Option.getD_some]

theorem encodeItems_eq_some {xs : List Value} {bs : List Bytes} :
    encodeItems form xs = some bs ↔
      (∀ x ∈ xs, encode form x = some (bytesOf form x)) ∧ bs = xs.map (bytesOf form) := by
  induction xs generalizing bs with
  | nil => simp [encodeItems, eq_comm]
  | cons x xs ih =>
    simp only [encodeItems, Option.bind_eq_bind, Option.bind_eq_some_iff, Option.pure_def,
      Option.some.injEq, List.forall_mem_cons, List.map_cons]
    constructor
    · rintro ⟨b, hb, cs, hcs, rfl⟩
      obtain ⟨each, rfl⟩ := ih.mp hcs
      rw [bytesOf_eq hb]
      exact ⟨⟨hb, each⟩, rfl⟩
    · rintro ⟨⟨hb, each⟩, rfl⟩
      exact ⟨_, hb, _, ih.mpr ⟨each, rfl⟩, rfl⟩

theorem encodeEntries_eq_some {es : List (Value × Value)} {bs : List (Bytes × Bytes)} :
    encodeEntries form es = some bs ↔
      (∀ e ∈ es, encode form e.1 = some (bytesOf form e.1) ∧
        encode form e.2 = some (bytesOf form e.2)) ∧
      bs = es.map fun e => (bytesOf form e.1, bytesOf form e.2) := by
  induction es generalizing bs with
  | nil => simp [encodeEntries, eq_comm]
  | cons e es ih =>
    obtain ⟨k, v⟩ := e
    simp only [encodeEntries, Option.bind_eq_bind, Option.bind_eq_some_iff, Option.pure_def,
      Option.some.injEq, List.forall_mem_cons, List.map_cons]
    constructor
    · rintro ⟨kb, hk, vb, hv, cs, hcs, rfl⟩
      obtain ⟨each, rfl⟩ := ih.mp hcs
      rw [bytesOf_eq hk, bytesOf_eq hv]
      exact ⟨⟨⟨hk, hv⟩, each⟩, rfl⟩
    · rintro ⟨⟨⟨hk, hv⟩, each⟩, rfl⟩
      exact ⟨_, hk, _, hv, _, ih.mpr ⟨each, rfl⟩, rfl⟩

/-- An array is encoded if its elements are. -/
theorem encode_list {xs : List Value} {b : Bytes} :
    encode form (.list xs) = some b ↔
      (∀ x ∈ xs, encode form x = some (bytesOf form x)) ∧
        b = joinItems (xs.map (bytesOf form)) := by
  rw [encode, Option.map_eq_some_iff]
  constructor
  · rintro ⟨bs, hbs, rfl⟩
    obtain ⟨each, rfl⟩ := encodeItems_eq_some.mp hbs
    exact ⟨each, rfl⟩
  · rintro ⟨each, rfl⟩
    exact ⟨_, encodeItems_eq_some.mpr ⟨each, rfl⟩, rfl⟩

/-- A map is encoded if its keys and values are. -/
theorem encode_map {es : List (Value × Value)} {b : Bytes} :
    encode form (.map es) = some b ↔
      (∀ e ∈ es, encode form e.1 = some (bytesOf form e.1) ∧
        encode form e.2 = some (bytesOf form e.2)) ∧
      b = joinEntries ((ordered form es).map fun e => (bytesOf form e.1, bytesOf form e.2)) := by
  rw [encode, Option.map_eq_some_iff]
  constructor
  · rintro ⟨bs, hbs, rfl⟩
    obtain ⟨each, rfl⟩ := encodeEntries_eq_some.mp hbs
    exact ⟨each, by rw [arrange_map]⟩
  · rintro ⟨each, rfl⟩
    exact ⟨_, encodeEntries_eq_some.mpr ⟨each, rfl⟩, by rw [arrange_map]⟩

theorem encode_tuple (xs : List Value) : encode form (.tuple xs) = encode form (.list xs) :=
  rfl

theorem encode_frozenMap (es : List (Value × Value)) :
    encode form (.frozenMap es) = encode form (.map es) :=
  rfl

theorem encode_tag (number : Nat) (v : Value) :
    encode form (.tag number v) = (encode form v).map (head .tag number ++ ·) :=
  rfl

/-- Plain data has an encoding. -/
theorem exists_encode {keys : List Value → Prop} {n : Nat} {v : Value} (h : v.Plain keys n)
    (form : Form) : ∃ b, encode form v = some b := by
  have list : ∀ {xs : List Value}, (∀ x ∈ xs, ∃ b, encode form x = some b) →
      ∃ b, encode form (.list xs) = some b := by
    intro xs ih
    refine ⟨_, encode_list.mpr ⟨fun x hx => ?_, rfl⟩⟩
    obtain ⟨b, hb⟩ := ih x hx
    rw [bytesOf_eq hb, hb]
  have map : ∀ {es : List (Value × Value)}, (∀ e ∈ es, ∃ b, encode form e.1 = some b) →
      (∀ e ∈ es, ∃ b, encode form e.2 = some b) → ∃ b, encode form (.map es) = some b := by
    intro es ihk ihv
    refine ⟨_, encode_map.mpr ⟨fun e he => ?_, rfl⟩⟩
    obtain ⟨k, hk⟩ := ihk e he
    obtain ⟨v, hv⟩ := ihv e he
    rw [bytesOf_eq hk, bytesOf_eq hv]
    exact ⟨hk, hv⟩
  induction h with
  | null | bool | int | bigInt | text | bytes | buffer | float => exact ⟨_, rfl⟩
  | list _ ih => exact list ih
  | tuple _ ih =>
    rw [encode_tuple]
    exact list ih
  | map _ _ _ ihk ihv => exact map ihk ihv
  | frozenMap _ _ _ ihk ihv =>
    rw [encode_frozenMap]
    exact map ihk ihv

/-! ## What is read back, by its parts -/

theorem receivedItems_eq (xs : List Value) (frozen : Bool) :
    receivedItems form xs frozen = xs.map fun x => received form x frozen := by
  induction xs with
  | nil => rfl
  | cons x xs ih => rw [receivedItems, ih, List.map_cons]

theorem receivedEntries_eq (es : List (Value × Value)) (frozen : Bool) :
    receivedEntries form es frozen =
      es.map fun e => (bytesOf form e.1, receivedEntry form frozen e) := by
  induction es with
  | nil => rfl
  | cons e es ih => rw [receivedEntries, ih, List.map_cons, receivedEntry]

theorem received_list (xs : List Value) (frozen : Bool) :
    received form (.list xs) frozen =
      if frozen then .tuple (xs.map fun x => received form x frozen)
      else .list (xs.map fun x => received form x frozen) := by
  rw [received, receivedItems_eq]

theorem received_map (es : List (Value × Value)) (frozen : Bool) :
    received form (.map es) frozen =
      if frozen then
        .frozenMap (Value.ofEntries ((ordered form es).map (receivedEntry form frozen)))
      else .map (Value.ofEntries ((ordered form es).map (receivedEntry form frozen))) := by
  rw [received, receivedEntries_eq, arrange_map, List.map_map]
  rfl

theorem received_tuple (xs : List Value) (frozen : Bool) :
    received form (.tuple xs) frozen = received form (.list xs) frozen :=
  rfl

theorem received_frozenMap (es : List (Value × Value)) (frozen : Bool) :
    received form (.frozenMap es) frozen = received form (.map es) frozen :=
  rfl

end Cbor

end Cose
