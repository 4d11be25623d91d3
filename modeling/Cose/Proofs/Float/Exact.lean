import Cose.Float.Format
import Mathlib.Tactic.IntervalCases
import Mathlib.Tactic.Ring

/-!
# Formats hold numbers exactly

A format writes a finite number as a significand and a number of steps above its lowest exponent,
in one way only. A pattern stands for the number that it was written for, and a number that one
format holds is written by any other as it was before.

## Main definitions

* `Format.IsNormal`: significands and steps that a format writes

## Main results

* `Format.magnitude?_shift`: what is written depends on the value only
* `Format.encode?_decode`: writing what a pattern stands for gives the pattern
* `Format.encode?_decode_of_encode?`: a detour through another format changes nothing
-/

namespace Cose.Float

theorem log2_mul_two_pow (h : s ≠ 0) (k : Nat) : (s * 2 ^ k).log2 = s.log2 + k := by
  have ne : s * 2 ^ k ≠ 0 := Nat.mul_ne_zero h (Nat.two_pow_pos k).ne'
  rw [Nat.log2_eq_iff ne, Nat.pow_add, Nat.add_right_comm, Nat.pow_add]
  exact ⟨Nat.mul_le_mul_right _ (Nat.log2_self_le h),
    Nat.mul_lt_mul_of_pos_right Nat.lt_log2_self (Nat.two_pow_pos k)⟩

namespace Format

variable {f : Format} {s steps : Nat} {e : Int} {negative : Bool}

/-- **A significand and steps above the lowest exponent** as a format writes them: the significand
fills the fraction and its leading bit unless the exponent is the lowest one. -/
structure IsNormal (f : Format) (s steps : Nat) : Prop where
  lt : s < 2 ^ (f.fractionBits + 1)
  full : 0 < steps → 2 ^ f.fractionBits ≤ s
  bounded : steps * 2 ^ f.fractionBits + s < f.topField * 2 ^ f.fractionBits

/-! ## Magnitudes -/

/-- The exponent of the last place in which a format writes a magnitude. -/
def lastPlace (f : Format) (s : Nat) (e : Int) : Int :=
  max f.lowestExponent (e + s.log2 - f.fractionBits)

/-- The significand with another exponent of its last place, if it has one. -/
def shifted? (s : Nat) (e last : Int) : Option Nat :=
  if last ≤ e then some (s * 2 ^ (e - last).toNat)
  else if s % 2 ^ (last - e).toNat = 0 then some (s / 2 ^ (last - e).toNat) else none

theorem magnitude?_of_ne_zero (h : s ≠ 0) : f.magnitude? s e =
    (shifted? s e (f.lastPlace s e)).bind fun shifted =>
      let pattern := (f.lastPlace s e - f.lowestExponent).toNat * 2 ^ f.fractionBits + shifted
      if pattern < f.topField * 2 ^ f.fractionBits then some pattern else none := by
  rw [magnitude?, if_neg h]
  rfl

theorem shifted?_shift (s k : Nat) (e last : Int) :
    shifted? (s * 2 ^ k) e last = shifted? s (e + k) last := by
  rw [shifted?, shifted?]
  -- The last place may lie below both exponents, between them, or above both.
  by_cases low : last ≤ e
  · rw [if_pos low, if_pos (by omega), Nat.mul_assoc, ← Nat.pow_add]
    congr 4
    omega
  rw [if_neg low]
  by_cases between : last ≤ e + k
  · obtain ⟨j, hj⟩ : ∃ j : Nat, k = (last - e).toNat + j := ⟨k - (last - e).toNat, by omega⟩
    have split : s * 2 ^ k = s * 2 ^ j * 2 ^ (last - e).toNat := by
      rw [hj, Nat.pow_add]
      ring
    have exponent : (e + k - last).toNat = j := by omega
    rw [if_pos between, split, Nat.mul_mod_left, if_pos rfl,
      Nat.mul_div_cancel _ (Nat.two_pow_pos _), exponent]
  · have exponent : (last - e).toNat = (last - (e + k)).toNat + k := by omega
    rw [if_neg between, exponent, Nat.pow_add, Nat.mul_mod_mul_right,
      Nat.mul_div_mul_right _ _ (Nat.two_pow_pos k)]
    have zero_iff : s % 2 ^ (last - (e + k)).toNat * 2 ^ k = 0 ↔
        s % 2 ^ (last - (e + k)).toNat = 0 := by
      rw [Nat.mul_eq_zero, or_iff_left (Nat.two_pow_pos k).ne']
    simp only [zero_iff]

/-- A significand with zeros appended is written like the one without them and a larger exponent. -/
theorem magnitude?_shift (f : Format) (s k : Nat) (e : Int) :
    f.magnitude? (s * 2 ^ k) e = f.magnitude? s (e + k) := by
  by_cases zero : s = 0
  · simp [zero, magnitude?]
  have ne : s * 2 ^ k ≠ 0 := Nat.mul_ne_zero zero (Nat.two_pow_pos k).ne'
  have last : f.lastPlace (s * 2 ^ k) e = f.lastPlace s (e + k) := by
    rw [lastPlace, lastPlace, log2_mul_two_pow zero]
    congr 1
    push_cast
    ring
  rw [magnitude?_of_ne_zero ne, magnitude?_of_ne_zero zero, last, shifted?_shift]

/-- What a significand with another last place has in common with the one that it comes from. -/
theorem shifted?_eq_some {last : Int} {s' : Nat} (ne : s ≠ 0) (h : shifted? s e last = some s') :
    s' ≠ 0 ∧ last + s'.log2 = e + s.log2 ∧
      ∀ g : Format, g.magnitude? s' last = g.magnitude? s e := by
  rw [shifted?] at h
  split at h
  · next low =>
    cases h
    have exponent : ((e - last).toNat : Int) = e - last := Int.toNat_of_nonneg (by omega)
    refine ⟨Nat.mul_ne_zero ne (Nat.two_pow_pos _).ne', ?_, fun g => ?_⟩
    · rw [log2_mul_two_pow ne]
      omega
    · rw [magnitude?_shift, exponent, add_sub_cancel]
  · next high =>
    split at h
    · next divides =>
      cases h
      have exponent : ((last - e).toNat : Int) = last - e := Int.toNat_of_nonneg (by omega)
      have product : s / 2 ^ (last - e).toNat * 2 ^ (last - e).toNat = s :=
        Nat.div_mul_cancel (Nat.dvd_of_mod_eq_zero divides)
      have quotient_ne : s / 2 ^ (last - e).toNat ≠ 0 := by
        intro zero
        rw [zero, Nat.zero_mul] at product
        exact ne product.symm
      have digits := log2_mul_two_pow quotient_ne (last - e).toNat
      rw [product] at digits
      refine ⟨quotient_ne, by omega, fun g => ?_⟩
      have moved := magnitude?_shift g (s / 2 ^ (last - e).toNat) (last - e).toNat e
      rw [product, exponent, add_sub_cancel] at moved
      exact moved.symm
    · cases h

/-- A magnitude that a format holds has a normal significand with the same value. -/
theorem isNormal_of_magnitude? {p : Nat} (top : 0 < f.topField) (h : f.magnitude? s e = some p) :
    ∃ s' steps, f.IsNormal s' steps ∧ p = steps * 2 ^ f.fractionBits + s' ∧
      ∀ g : Format, g.magnitude? s' (f.lowestExponent + steps) = g.magnitude? s e := by
  by_cases zero : s = 0
  · rw [zero, magnitude?, if_pos rfl] at h
    cases h
    have room : 0 < f.topField * 2 ^ f.fractionBits := Nat.mul_pos top (Nat.two_pow_pos _)
    refine ⟨0, 0, ⟨Nat.two_pow_pos _, fun h => absurd h (Nat.lt_irrefl 0), by simpa using room⟩,
      by simp, fun g => by simp [zero, magnitude?]⟩
  rw [magnitude?_of_ne_zero zero, Option.bind_eq_some_iff] at h
  obtain ⟨s', hs, h⟩ := h
  simp only at h
  split at h
  · next room =>
    cases h
    obtain ⟨ne, place, same⟩ := shifted?_eq_some zero hs
    have steps_eq : f.lowestExponent + ((f.lastPlace s e - f.lowestExponent).toNat : Int) =
        f.lastPlace s e := by
      have above : f.lowestExponent ≤ f.lastPlace s e := le_max_left ..
      omega
    refine ⟨s', (f.lastPlace s e - f.lowestExponent).toNat, ⟨?_, fun positive => ?_, room⟩, rfl,
      fun g => by rw [steps_eq, same g]⟩
    · have reach : e + s.log2 - f.fractionBits ≤ f.lastPlace s e := le_max_right ..
      exact (Nat.log2_lt ne).mp (by omega)
    · have filled : f.lastPlace s e = e + s.log2 - f.fractionBits := by
        rw [lastPlace] at positive ⊢
        omega
      exact (Nat.le_log2 ne).mp (by omega)
  · cases h

/-- A normal significand is written as it is. -/
theorem IsNormal.magnitude?_eq (h : f.IsNormal s steps) :
    f.magnitude? s (f.lowestExponent + steps) = some (steps * 2 ^ f.fractionBits + s) := by
  by_cases zero : s = 0
  · have lowest : steps = 0 := by
      by_contra positive
      have full := h.full (Nat.pos_of_ne_zero positive)
      have := Nat.two_pow_pos f.fractionBits
      omega
    simp [zero, lowest, magnitude?]
  have last : f.lastPlace s (f.lowestExponent + steps) = f.lowestExponent + steps := by
    have within : s.log2 < f.fractionBits + 1 := (Nat.log2_lt zero).mpr h.lt
    rw [lastPlace]
    by_cases lowest : steps = 0
    · omega
    · have full : f.fractionBits ≤ s.log2 :=
        (Nat.le_log2 zero).mpr (h.full (Nat.pos_of_ne_zero lowest))
      omega
  rw [magnitude?_of_ne_zero zero, last, shifted?, if_pos (le_refl _), sub_self, Int.toNat_zero,
    Nat.pow_zero, Nat.mul_one, Option.bind_some, add_sub_cancel_left, Int.toNat_natCast]
  simp only
  rw [if_pos h.bounded]

/-! ## Patterns -/

theorem signBit_eq (f : Format) (negative : Bool) :
    encode?.signBit f negative = 2 ^ f.fractionBits * (2 ^ f.exponentBits * negative.toNat) := by
  cases negative <;> simp [encode?.signBit, Nat.pow_add]

/-- The number that a pattern with the given fields stands for. -/
theorem decode_fields {field fraction : Nat} (negative : Bool)
    (hfield : field < 2 ^ f.exponentBits) (hfraction : fraction < 2 ^ f.fractionBits) :
    f.decode (field * 2 ^ f.fractionBits + fraction + encode?.signBit f negative) =
      if field = f.topField then if fraction = 0 then .infinite negative else .notANumber
      else if field = 0 then .finite negative fraction f.lowestExponent
      else .finite negative (2 ^ f.fractionBits + fraction)
        (f.lowestExponent + (field - 1 : Nat)) := by
  have pattern : field * 2 ^ f.fractionBits + fraction + encode?.signBit f negative =
      2 ^ f.fractionBits * (field + 2 ^ f.exponentBits * negative.toNat) + fraction := by
    rw [signBit_eq]
    ring
  have upper : (2 ^ f.fractionBits * (field + 2 ^ f.exponentBits * negative.toNat) + fraction) /
      2 ^ f.fractionBits = field + 2 ^ f.exponentBits * negative.toNat := by
    rw [Nat.mul_add_div (Nat.two_pow_pos _), Nat.div_eq_of_lt hfraction, Nat.add_zero]
  have sign : (field + 2 ^ f.exponentBits * negative.toNat) / 2 ^ f.exponentBits % 2 =
      negative.toNat := by
    rw [Nat.add_mul_div_left _ _ (Nat.two_pow_pos _), Nat.div_eq_of_lt hfield, Nat.zero_add]
    cases negative <;> rfl
  have sign_bit : (negative.toNat == 1) = negative := by cases negative <;> rfl
  rw [decode, pattern, Nat.pow_add, ← Nat.div_div_eq_div_mul, upper, sign, Nat.mul_add_mod,
    Nat.mod_eq_of_lt hfraction, Nat.add_mul_mod_self_left, Nat.mod_eq_of_lt hfield, sign_bit]
  simp only [beq_iff_eq]

theorem exists_fields {bits : Nat} (lt : bits < 2 ^ (f.fractionBits + f.exponentBits + 1)) :
    ∃ field fraction negative, field < 2 ^ f.exponentBits ∧ fraction < 2 ^ f.fractionBits ∧
      bits = field * 2 ^ f.fractionBits + fraction + encode?.signBit f negative := by
  have sign_lt : bits / 2 ^ (f.fractionBits + f.exponentBits) < 2 :=
    Nat.div_lt_of_lt_mul (by rwa [← Nat.pow_succ])
  have sign : (bits / 2 ^ (f.fractionBits + f.exponentBits) == 1).toNat =
      bits / 2 ^ (f.fractionBits + f.exponentBits) := by
    generalize bits / 2 ^ (f.fractionBits + f.exponentBits) = q at sign_lt
    interval_cases q <;> rfl
  refine ⟨bits / 2 ^ f.fractionBits % 2 ^ f.exponentBits, bits % 2 ^ f.fractionBits,
    bits / 2 ^ (f.fractionBits + f.exponentBits) == 1, Nat.mod_lt _ (Nat.two_pow_pos _),
    Nat.mod_lt _ (Nat.two_pow_pos _), ?_⟩
  rw [signBit_eq, sign, Nat.pow_add, ← Nat.div_div_eq_div_mul]
  have upper := Nat.mod_add_div (bits / 2 ^ f.fractionBits) (2 ^ f.exponentBits)
  have whole := Nat.mod_add_div bits (2 ^ f.fractionBits)
  rw [← upper] at whole
  rw [Nat.mul_comm _ (2 ^ f.fractionBits), Nat.add_right_comm, ← Nat.mul_add, Nat.add_comm]
  exact whole.symm

/-- The pattern of a normal significand stands for it. -/
theorem IsNormal.decode_eq (h : f.IsNormal s steps) (negative : Bool) :
    f.decode (steps * 2 ^ f.fractionBits + s + encode?.signBit f negative) =
      .finite negative s (f.lowestExponent + steps) := by
  have bounded := h.bounded
  have top_lt : f.topField < 2 ^ f.exponentBits := Nat.sub_lt (Nat.two_pow_pos _) Nat.one_pos
  by_cases small : s < 2 ^ f.fractionBits
  · have lowest : steps = 0 := by
      by_contra positive
      have full := h.full (Nat.pos_of_ne_zero positive)
      omega
    have top : 0 ≠ f.topField := by
      intro zero
      rw [← zero, Nat.zero_mul] at bounded
      omega
    rw [lowest, decode_fields _ (Nat.two_pow_pos _) small, if_neg top, if_pos rfl]
    simp
  · have carried : steps * 2 ^ f.fractionBits + s =
        (steps + 1) * 2 ^ f.fractionBits + (s - 2 ^ f.fractionBits) := by
      rw [Nat.succ_mul]
      omega
    have field_lt : steps + 1 < f.topField := by
      rw [carried] at bounded
      exact Nat.lt_of_mul_lt_mul_right (Nat.lt_of_le_of_lt (Nat.le_add_right ..) bounded)
    have fraction_lt : s - 2 ^ f.fractionBits < 2 ^ f.fractionBits := by
      have lt := h.lt
      rw [Nat.pow_succ] at lt
      omega
    rw [carried, decode_fields _ (Nat.lt_trans field_lt top_lt) fraction_lt,
      if_neg (Nat.ne_of_lt field_lt), if_neg (Nat.succ_ne_zero steps)]
    congr 1
    omega

/-- A pattern that stands for a finite number is the one of a normal significand. -/
theorem isNormal_of_fields {field fraction : Nat} (finite : field < f.topField)
    (hfraction : fraction < 2 ^ f.fractionBits) :
    ∃ s steps, f.IsNormal s steps ∧
      field * 2 ^ f.fractionBits + fraction = steps * 2 ^ f.fractionBits + s := by
  have bounded : field * 2 ^ f.fractionBits + fraction < f.topField * 2 ^ f.fractionBits :=
    calc field * 2 ^ f.fractionBits + fraction
      _ < field * 2 ^ f.fractionBits + 2 ^ f.fractionBits := Nat.add_lt_add_left hfraction _
      _ = (field + 1) * 2 ^ f.fractionBits := (Nat.succ_mul ..).symm
      _ ≤ f.topField * 2 ^ f.fractionBits := Nat.mul_le_mul_right _ finite
  cases field with
  | zero =>
    refine ⟨fraction, 0, ⟨?_, fun h => absurd h (Nat.lt_irrefl 0), bounded⟩, rfl⟩
    rw [Nat.pow_succ]
    omega
  | succ steps =>
    have carried : (steps + 1) * 2 ^ f.fractionBits + fraction =
        steps * 2 ^ f.fractionBits + (2 ^ f.fractionBits + fraction) := by
      rw [Nat.succ_mul, Nat.add_assoc]
    refine ⟨2 ^ f.fractionBits + fraction, steps, ⟨?_, fun _ => Nat.le_add_right .., ?_⟩, carried⟩
    · rw [Nat.pow_succ]
      omega
    · rwa [← carried]

/-- **Writing the number that a pattern stands for** gives the pattern. -/
theorem encode?_decode {bits : Nat} (lt : bits < 2 ^ (f.fractionBits + f.exponentBits + 1))
    (number : f.decode bits ≠ .notANumber) : f.encode? (f.decode bits) = some bits := by
  obtain ⟨field, fraction, negative, hfield, hfraction, rfl⟩ := exists_fields lt
  -- With the top field the pattern is an infinity; else it has a normal significand, and there is
  -- one pattern only for that.
  by_cases top : field = f.topField
  · rw [decode_fields _ hfield hfraction, if_pos top] at number ⊢
    split at number
    · next zero => rw [if_pos zero, encode?, top, zero, Nat.add_zero]
    · exact absurd rfl number
  · have finite : field < f.topField := by
      have top_eq : f.topField = 2 ^ f.exponentBits - 1 := rfl
      omega
    obtain ⟨s, steps, normal, pattern⟩ := isNormal_of_fields finite hfraction
    rw [pattern, normal.decode_eq, encode?, normal.magnitude?_eq, Option.map_some]

/-- **A detour through another format**: what a format holds can be written in any format as if it
had been read from that pattern. -/
theorem encode?_decode_of_encode? {x : Number} {p : Nat} (top : 0 < f.topField)
    (fraction : 0 < f.fractionBits) (h : f.encode? x = some p) :
    p < 2 ^ (f.fractionBits + f.exponentBits + 1) ∧
      ∀ g : Format, g.encode? (f.decode p) = g.encode? x := by
  have top_lt : f.topField < 2 ^ f.exponentBits := Nat.sub_lt (Nat.two_pow_pos _) Nat.one_pos
  have bound : ∀ (q : Nat) (negative : Bool), q < (f.topField + 1) * 2 ^ f.fractionBits →
      q + encode?.signBit f negative < 2 ^ (f.fractionBits + f.exponentBits + 1) := by
    intro q negative hq
    have half : (f.topField + 1) * 2 ^ f.fractionBits ≤ 2 ^ (f.fractionBits + f.exponentBits) := by
      rw [Nat.add_comm f.fractionBits, Nat.pow_add]
      exact Nat.mul_le_mul_right _ top_lt
    rw [Nat.pow_succ]
    rw [encode?.signBit]
    split <;> omega
  cases x with
  | finite negative s e =>
    obtain ⟨q, hq, rfl⟩ := Option.map_eq_some_iff.mp h
    obtain ⟨s', steps, normal, rfl, same⟩ := isNormal_of_magnitude? top hq
    refine ⟨bound _ _ (Nat.lt_of_lt_of_le normal.bounded ?_), fun g => ?_⟩
    · exact Nat.mul_le_mul_right _ (Nat.le_succ _)
    · rw [normal.decode_eq, encode?, same g, encode?]
  | infinite negative =>
    cases h
    have zero_lt := Nat.two_pow_pos f.fractionBits
    refine ⟨bound _ _ (Nat.mul_lt_mul_of_pos_right (Nat.lt_succ_self _) zero_lt), fun g => ?_⟩
    rw [← Nat.add_zero (f.topField * _), decode_fields _ top_lt zero_lt, if_pos rfl, if_pos rfl]
  | notANumber =>
    cases h
    have quiet_lt : 2 ^ (f.fractionBits - 1) < 2 ^ f.fractionBits :=
      Nat.pow_lt_pow_right Nat.one_lt_two (by omega)
    have quiet_ne : 2 ^ (f.fractionBits - 1) ≠ 0 := (Nat.two_pow_pos _).ne'
    have unsigned := decode_fields false top_lt quiet_lt
    rw [if_pos rfl, if_neg quiet_ne, encode?.signBit] at unsigned
    refine ⟨?_, fun g => by rw [← unsigned]; rfl⟩
    have fits := bound (f.topField * 2 ^ f.fractionBits + 2 ^ (f.fractionBits - 1)) false (by
      rw [Nat.succ_mul]
      omega)
    exact fits

end Format

end Cose.Float
