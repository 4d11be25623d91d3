import Cose.Proofs.Cbor.Reading
import Cose.Proofs.Value.Keys

/-!
# What a reader gives

Whatever stands at the front of some bytes, in the shortest form or not and with a known length or
not, a reader gives an atom, an array or a map of items that a reader of one level less gives, or
what a tag makes of such an item. All that is to be known about the values that are received follows
from these cases.

## Main definitions

* `Gives`: what a reader may give
* `Meaning`: what a tag makes of its content
* `Given`: an item by the reader of its parts

## Main results

* `Gives.given`: a reader gives an item by the reader of its parts
-/

namespace Cose.Cbor

variable {frozen : Bool} {n : Nat}

/-! ## Items in a row -/

/-- **What a reader may give**: the item at the front of some bytes. -/
def Gives {α : Type} (read : Bytes → Option (α × Bytes)) (a : α) : Prop :=
  ∃ b rest, read b = some (a, rest)

theorem repeat?_gives {α : Type} {read : Bytes → Option (α × Bytes)} {k : Nat} {b rest : Bytes}
    {xs : List α} (h : repeat? read k b = some (xs, rest)) : ∀ x ∈ xs, Gives read x := by
  induction k generalizing b rest xs with
  | zero =>
    cases h
    exact fun x hx => absurd hx List.not_mem_nil
  | succ k ih =>
    simp only [repeat?, Option.bind_eq_bind, Option.bind_eq_some_iff, Option.pure_def,
      Option.some.injEq, Prod.mk.injEq] at h
    obtain ⟨⟨x, behind⟩, first, ⟨ys, _⟩, others, rfl, -⟩ := h
    rw [List.forall_mem_cons]
    exact ⟨⟨b, behind, first⟩, ih others⟩

theorem untilStop?_gives {read : Bytes → Option (Value × Bytes)} {k : Nat} {b rest : Bytes}
    {xs : List Value} (h : untilStop? read k b = some (xs, rest)) : ∀ x ∈ xs, Gives read x := by
  induction k generalizing b rest xs with
  | zero => cases h
  | succ k ih =>
    simp only [untilStop?, Option.bind_eq_bind, Option.bind_eq_some_iff] at h
    obtain ⟨⟨x, behind⟩, first, h⟩ := h
    split at h
    · cases h
      exact fun x hx => absurd hx List.not_mem_nil
    · next item =>
      cases item
      simp only [Option.bind_eq_some_iff, Option.pure_def, Option.some.injEq, Prod.mk.injEq] at h
      obtain ⟨⟨ys, _⟩, others, rfl, -⟩ := h
      rw [List.forall_mem_cons]
      exact ⟨⟨b, behind, first⟩, ih others⟩

theorem items?_gives {read : Bytes → Option (Value × Bytes)} {info : Nat} {b rest : Bytes}
    {xs : List Value} (h : items? read info b = some (xs, rest)) : ∀ x ∈ xs, Gives read x := by
  rw [items?] at h
  split at h
  · exact untilStop?_gives h
  · simp only [Option.bind_eq_bind, Option.bind_eq_some_iff] at h
    obtain ⟨⟨count, _⟩, -, h⟩ := h
    exact repeat?_gives h

theorem keyAndValue?_gives {readKey read : Bytes → Option (Value × Bytes)} {e : Value × Value}
    (h : Gives (keyAndValue? readKey read) e) : Gives readKey e.1 ∧ Gives read e.2 := by
  obtain ⟨b, rest, h⟩ := h
  simp only [keyAndValue?, Option.bind_eq_bind, Option.bind_eq_some_iff, Option.pure_def,
    Option.some.injEq, Prod.mk.injEq] at h
  obtain ⟨⟨k, behind⟩, key, ⟨v, after⟩, value, rfl, -⟩ := h
  exact ⟨⟨b, behind, key⟩, ⟨behind, after, value⟩⟩

theorem entriesUntilStop?_gives {readKey read : Bytes → Option (Value × Bytes)} {k : Nat}
    {b rest : Bytes} {es : List (Value × Value)}
    (h : entriesUntilStop? readKey read k b = some (es, rest)) :
    ∀ e ∈ es, Gives readKey e.1 ∧ Gives read e.2 := by
  induction k generalizing b rest es with
  | zero => cases h
  | succ k ih =>
    simp only [entriesUntilStop?, Option.bind_eq_bind, Option.bind_eq_some_iff] at h
    obtain ⟨⟨key, behind⟩, first, h⟩ := h
    split at h
    · cases h
      exact fun e he => absurd he List.not_mem_nil
    · next item =>
      cases item
      simp only [Option.bind_eq_some_iff, Option.pure_def, Option.some.injEq, Prod.mk.injEq] at h
      obtain ⟨⟨v, after⟩, value, ⟨fs, _⟩, others, rfl, -⟩ := h
      rw [List.forall_mem_cons]
      exact ⟨⟨⟨b, behind, first⟩, ⟨behind, after, value⟩⟩, ih others⟩

theorem entries?_gives {readKey read : Bytes → Option (Value × Bytes)} {info : Nat}
    {b rest : Bytes} {es : List (Value × Value)}
    (h : entries? readKey read info b = some (es, rest)) :
    ∀ e ∈ es, Gives readKey e.1 ∧ Gives read e.2 := by
  rw [entries?] at h
  split at h
  · exact entriesUntilStop?_gives h
  · simp only [Option.bind_eq_bind, Option.bind_eq_some_iff] at h
    obtain ⟨⟨count, _⟩, -, h⟩ := h
    exact fun e he => keyAndValue?_gives (repeat?_gives h e he)

/-! ## Numbers and floats -/

theorem takeNat?_lt {width i : Nat} {b rest : Bytes} (h : takeNat? width b = some (i, rest)) :
    i < 256 ^ width := by
  obtain ⟨⟨taken, behind⟩, taken_eq, h⟩ := Option.map_eq_some_iff.mp h
  have length : taken.length = width := by
    simp only [take?] at taken_eq
    split at taken_eq
    · next length =>
      cases taken_eq
      exact length
    · cases taken_eq
  cases h
  rw [← length]
  exact Bytes.toNat_lt taken

theorem argument?_lt {info i : Nat} {b rest : Bytes} (h : argument? info b = some (i, rest)) :
    i < 2 ^ 64 := by
  unfold argument? at h
  split at h
  · cases h
    omega
  split at h
  · exact (takeNat?_lt h).trans (by decide)
  · exact (takeNat?_lt h).trans (by decide)
  · exact (takeNat?_lt h).trans (by decide)
  · exact takeNat?_lt h
  · cases h

/-- Whatever a format writes as a float is read back as it is. -/
theorem receivedFloat_of_encode? {x : Float.Number} {wide : Nat}
    (h : Float.Format.double.encode? x = some wide) :
    receivedFloat (UInt64.ofNat wide) = UInt64.ofNat wide := by
  obtain ⟨lt, detour⟩ := Float.Format.encode?_decode_of_encode? (by decide) (by decide) h
  have wide_eq : (UInt64.ofNat wide).toNat = wide := UInt64.toNat_ofNat_of_lt' lt
  have again := encode?_receivedFloat (UInt64.ofNat wide)
  rw [wide_eq, detour, h, Option.some.injEq] at again
  rw [← UInt64.toNat_inj, ← again, wide_eq]

/-! ## Items -/

theorem Gives.depth_pos {v : Value} (h : Gives (decodeItem n frozen) v) : ∃ k, n = k + 1 := by
  obtain ⟨b, rest, h⟩ := h
  cases n with
  | zero => cases h
  | succ k => exact ⟨k, rfl⟩

/-- What a tag makes of its content: an integer, a set, the content itself, or an item with the
tag. -/
inductive Meaning (frozen : Bool) (number : Nat) (content : Value) : Value → Prop
  | int (i : Int) : Meaning frozen number content (.int i)
  | set (xs : List Value) :
      Meaning frozen number content (if frozen then .frozenSet xs else .set xs)
  | same (other : number ≠ setTag) : Meaning frozen number content content
  | tag (other : number ≠ setTag) : Meaning frozen number content (.tag number content)

theorem meaning_of_interpretTag? {number : Nat} {content v : Value}
    (h : interpretTag? frozen number content = some v) : Meaning frozen number content v := by
  unfold interpretTag? at h
  split at h
  · split at h <;> cases h
    exact .int _
  split at h
  · split at h <;> cases h
    exact .int _
  split at h
  · split at h <;> cases h
    · exact .set _
    · exact .set _
  next other =>
  split at h
  · cases h
    exact .same other
  · split at h <;> cases h
    exact .tag other

/-- An item by the reader of its parts, which goes one level less deep. -/
inductive Given (n : Nat) (frozen : Bool) : Value → Prop
  | null : Given n frozen .null
  | undefined : Given n frozen .undefined
  | stop : Given n frozen .stop
  | bool (b : Bool) : Given n frozen (.bool b)
  | simple (k : Nat) : Given n frozen (.simple k)
  | int {i : Int} (head : -2 ^ 64 ≤ i ∧ i < 2 ^ 64) : Given n frozen (.int i)
  | bytes (b : Bytes) : Given n frozen (.bytes b)
  | text (s : String) : Given n frozen (.text s)
  | float {bits : UInt64} (same : receivedFloat bits = bits) : Given n frozen (.float bits)
  | array {xs : List Value} (gives : ∀ x ∈ xs, Gives (decodeItem n frozen) x) :
      Given n frozen (if frozen then .tuple xs else .list xs)
  | map {es : List (Value × Value)}
      (gives : ∀ e ∈ es, Gives (decodeItem n true) e.1 ∧ Gives (decodeItem n frozen) e.2) :
      Given n frozen (if frozen then .frozenMap es else .map es)
  | tag {number : Nat} {content v : Value}
      (gives : Gives (decodeItem n (frozen || number == setTag)) content)
      (meaning : Meaning frozen number content v) : Given n frozen v

theorem given_of_float? {f : Float.Format} {width : Nat} {b rest : Bytes} {v : Value}
    (h : float? f width b = some (v, rest)) : Given n frozen v := by
  simp only [float?, Option.bind_eq_bind, Option.bind_eq_some_iff, Option.pure_def,
    Option.some.injEq, Prod.mk.injEq] at h
  obtain ⟨⟨bits, _⟩, -, wide, hw, rfl, -⟩ := h
  exact .float (receivedFloat_of_encode? hw)

theorem given_of_special? {info : Nat} {b rest : Bytes} {v : Value}
    (h : special? info b = some (v, rest)) : Given n frozen v := by
  unfold special? at h
  split at h
  · cases h
    exact .bool false
  · cases h
    exact .bool true
  · cases h
    exact .null
  · cases h
    exact .undefined
  · obtain ⟨⟨k, _⟩, -, h⟩ := Option.map_eq_some_iff.mp h
    cases h
    exact .simple k
  · exact given_of_float? h
  · exact given_of_float? h
  · exact given_of_float? h
  · cases h
    exact .stop
  · split at h <;> cases h
    exact .simple _

/-- **A reader gives an item** by the reader of its parts. -/
theorem Gives.given {v : Value} (h : Gives (decodeItem (n + 1) frozen) v) : Given n frozen v := by
  obtain ⟨b, rest, h⟩ := h
  cases b with
  | nil => cases h
  | cons first b =>
  rw [decodeItem] at h
  simp only at h
  split at h
  · obtain ⟨⟨i, _⟩, argument, h⟩ := Option.map_eq_some_iff.mp h
    cases h
    have lt := argument?_lt argument
    exact .int ⟨by omega, by omega⟩
  · obtain ⟨⟨i, _⟩, argument, h⟩ := Option.map_eq_some_iff.mp h
    cases h
    have lt := argument?_lt argument
    exact .int ⟨by omega, by omega⟩
  · obtain ⟨⟨s, _⟩, -, h⟩ := Option.map_eq_some_iff.mp h
    cases h
    exact .bytes s
  · simp only [Option.bind_eq_bind, Option.bind_eq_some_iff, Option.pure_def, Option.some.injEq,
      Prod.mk.injEq] at h
    obtain ⟨⟨_, _⟩, -, s, -, rfl, -⟩ := h
    exact .text s
  · obtain ⟨⟨xs, _⟩, items, h⟩ := Option.map_eq_some_iff.mp h
    cases h
    exact .array (items?_gives items)
  · obtain ⟨⟨pairs, _⟩, entries, h⟩ := Option.map_eq_some_iff.mp h
    cases h
    have gives := entries?_gives entries
    exact .map (Value.forall_ofEntries (fun e he => (gives e he).1) fun e he => (gives e he).2)
  · simp only [Option.bind_eq_bind, Option.bind_eq_some_iff, Option.pure_def, Option.some.injEq,
      Prod.mk.injEq] at h
    obtain ⟨⟨number, _⟩, -, ⟨content, _⟩, inner, _, meaning, rfl, -⟩ := h
    exact .tag ⟨_, _, inner⟩ (meaning_of_interpretTag? meaning)
  · exact given_of_special? h

end Cose.Cbor
