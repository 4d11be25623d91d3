import Cose.Cbor.Encoder
import Mathlib.Data.List.Basic

/-!
# Heads read back

A head is read back from whatever follows it: the first byte gives the major type and what stands
for the argument, and the bytes behind it give the argument. So no head is the beginning of
another one, and a string with its head in front is never the beginning of another string.

## Main results

* `head_spec`: the parts of a head, and reading its argument back
* `head_append_inj`: heads with whatever follows agree only if the heads do
* `encodeBytes_append_inj`, `encodeText_append_inj`: the same for strings
-/

namespace Cose

namespace Bytes

theorem toNat_ofNatWidth_of_lt {width n : Nat} (h : n < 256 ^ width) :
    toNat (ofNatWidth width n) = n := by
  rw [toNat_ofNatWidth, Nat.mod_eq_of_lt h]

theorem toNat_lt (b : Bytes) : b.toNat < 256 ^ b.length := by
  induction b with
  | nil => exact Nat.one_pos
  | cons x b ih =>
    have digit : x.toNat < 256 := x.toNat_lt
    have upper : (x.toNat + 1) * 256 ^ b.length ≤ 256 * 256 ^ b.length :=
      Nat.mul_le_mul_right _ digit
    rw [toNat_cons, List.length_cons, Nat.pow_succ, Nat.mul_comm _ 256]
    rw [Nat.succ_mul] at upper
    omega

theorem lt_digitCount (n : Nat) : n < 256 ^ digitCount n := by
  rw [digitCount]
  split
  · next h => simp [h]
  · next h =>
    have digits : n.log2 + 1 ≤ 8 * (n.log2 / 8 + 1) := by omega
    calc n < 2 ^ (n.log2 + 1) := Nat.lt_log2_self
      _ ≤ 2 ^ (8 * (n.log2 / 8 + 1)) := Nat.pow_le_pow_right (by omega) digits
      _ = 256 ^ (n.log2 / 8 + 1) := by rw [Nat.pow_mul]

@[simp] theorem toNat_ofNat (n : Nat) : toNat (ofNat n) = n :=
  toNat_ofNatWidth_of_lt (lt_digitCount n)

theorem ofText_injective {s t : String} (h : ofText s = ofText t) : s = t :=
  String.toByteArray_inj.mp (ByteArray.ext (Array.toList_inj.mp h))

@[simp] theorem toText?_ofText (s : String) : toText? (ofText s) = some s := by
  have array : (⟨(ofText s).toArray⟩ : ByteArray) = s.toByteArray := ByteArray.ext rfl
  rw [toText?, array, String.fromUTF8?, dif_pos s.isValidUTF8]
  rfl

end Bytes

namespace Cbor

/-! ## Taking bytes off the front -/

theorem take?_append (b rest : Bytes) : take? b.length (b ++ rest) = some (b, rest) := by
  simp [take?]

theorem take?_append_of_length {n : Nat} {b : Bytes} (h : b.length = n) (rest : Bytes) :
    take? n (b ++ rest) = some (b, rest) := by
  subst h
  exact take?_append b rest

theorem takeNat?_ofNatWidth {width n : Nat} (h : n < 256 ^ width) (rest : Bytes) :
    takeNat? width (Bytes.ofNatWidth width n ++ rest) = some (n, rest) := by
  rw [takeNat?, take?_append_of_length (Bytes.length_ofNatWidth width n), Option.map_some]
  simp only [Bytes.toNat_ofNatWidth_of_lt h]

/-! ## The first byte -/

theorem toNat_firstByte (major : Major) {info : Nat} (h : info < 32) :
    (firstByte major info).toNat = major.toNat * 32 + info := by
  rw [firstByte, UInt8.toNat_ofNat', Nat.mod_eq_of_lt]
  cases major <;> simp only [Major.toNat] <;> omega

@[simp] theorem infoOf_firstByte (major : Major) {info : Nat} (h : info < 32) :
    infoOf (firstByte major info) = info := by
  rw [infoOf, toNat_firstByte major h]
  omega

@[simp] theorem ofByte_firstByte (major : Major) {info : Nat} (h : info < 32) :
    Major.ofByte (firstByte major info) = major := by
  have major_eq : (firstByte major info).toNat / 32 = major.toNat := by
    rw [toNat_firstByte major h]
    omega
  rw [Major.ofByte, major_eq]
  cases major <;> rfl

/-! ## Heads -/

/-- **The parts of a head**: its first byte, and behind it bytes from which its argument is read
back whatever follows. -/
theorem head_spec (major : Major) {n : Nat} (h : n < 2 ^ 64) :
    ∃ info tail, head major n = firstByte major info :: tail ∧ info < 28 ∧
      ∀ rest, argument? info (tail ++ rest) = some (n, rest) := by
  rw [head]
  -- The argument stands in the first byte, or behind it in one, two, four or eight bytes.
  split
  · next h => exact ⟨n, [], rfl, by omega, fun rest => by simp [argument?, h]⟩
  split
  · exact ⟨24, _, rfl, by omega, takeNat?_ofNatWidth (show n < 256 ^ 1 by omega)⟩
  split
  · next h => exact ⟨25, _, rfl, by omega, takeNat?_ofNatWidth h⟩
  split
  · next h => exact ⟨26, _, rfl, by omega, takeNat?_ofNatWidth h⟩
  · exact ⟨27, _, rfl, by omega, takeNat?_ofNatWidth (show n < 256 ^ 8 by omega)⟩

theorem head_ne_nil (major : Major) (n : Nat) : head major n ≠ [] := by
  rw [head]
  repeat' split
  all_goals exact List.cons_ne_nil _ _

/-- No head is the beginning of another one. -/
theorem head_append_inj {major major' : Major} {n n' : Nat} {b b' : Bytes} (h : n < 2 ^ 64)
    (h' : n' < 2 ^ 64) (e : head major n ++ b = head major' n' ++ b') :
    major = major' ∧ n = n' ∧ b = b' := by
  obtain ⟨info, tail, hd, hi, ha⟩ := head_spec major h
  obtain ⟨info', tail', hd', hi', ha'⟩ := head_spec major' h'
  rw [hd, hd', List.cons_append, List.cons_append, List.cons.injEq] at e
  obtain ⟨first, rest⟩ := e
  have same_major : major = major' := by
    rw [← ofByte_firstByte major (show info < 32 by omega), first,
      ofByte_firstByte major' (by omega)]
  have same_info : info = info' := by
    rw [← infoOf_firstByte major (show info < 32 by omega), first,
      infoOf_firstByte major' (by omega)]
  have argument := ha b
  rw [rest, same_info, ha' b', Option.some.injEq, Prod.mk.injEq] at argument
  exact ⟨same_major, argument.1.symm, argument.2.symm⟩

/-- No byte string is the beginning of another one. -/
theorem encodeBytes_append_inj {s s' b b' : Bytes} (h : s.length < 2 ^ 64)
    (h' : s'.length < 2 ^ 64) (e : encodeBytes s ++ b = encodeBytes s' ++ b') :
    s = s' ∧ b = b' := by
  rw [encodeBytes, encodeBytes, List.append_assoc, List.append_assoc] at e
  obtain ⟨-, length, rest⟩ := head_append_inj h h' e
  exact List.append_inj rest length

/-- No text is the beginning of another one. -/
theorem encodeText_append_inj {s s' : String} {b b' : Bytes}
    (h : (Bytes.ofText s).length < 2 ^ 64) (h' : (Bytes.ofText s').length < 2 ^ 64)
    (e : encodeText s ++ b = encodeText s' ++ b') : s = s' ∧ b = b' := by
  rw [encodeText, encodeText, List.append_assoc, List.append_assoc] at e
  obtain ⟨-, length, rest⟩ := head_append_inj h h' e
  obtain ⟨text, rest⟩ := List.append_inj rest length
  exact ⟨Bytes.ofText_injective text, rest⟩

end Cbor

end Cose
