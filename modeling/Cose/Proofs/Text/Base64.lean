import Cose.Text.Base64

/-!
# Base64 is read back

What is written in base64 is read back by the lenient reader, which takes the characters of the
standard alphabet for what they are. The same holds with the URL-safe characters for the two last
digits.

## Main definitions

* `Text.Spells64`: characters that are an encoding, in one of the two alphabets

## Main results

* `Text.encode64_inj`: different bytes are written differently
* `Text.Spells64.lenient64?_eq`: the bytes that were written are read back
* `Text.Spells64.isAscii`: what is written is ASCII text
-/

namespace Cose.Text

/-! ## Digits -/

/-- The character of a digit, as the readers see it: no padding, the same in both alphabets, ASCII,
and with the value of the digit. -/
theorem char64_of_lt : ∀ n < 64, char64 n ≠ '=' ∧ standard64 (char64 n) = char64 n ∧
    (char64 n).toNat < 128 ∧ value64? (char64 n) = some n := by
  decide +kernel

theorem char64_mod (n : Nat) : char64 (n % 64) = char64 n := by
  rw [char64, char64, Nat.mod_mod]

theorem value64?_char64 (n : Nat) : value64? (char64 n) = some (n % 64) := by
  rw [← char64_mod]
  exact (char64_of_lt _ (Nat.mod_lt n (by decide))).2.2.2

theorem char64_ne_pad (n : Nat) : char64 n ≠ '=' := by
  rw [← char64_mod]
  exact (char64_of_lt _ (Nat.mod_lt n (by decide))).1

theorem standard64_char64 (n : Nat) : standard64 (char64 n) = char64 n := by
  rw [← char64_mod]
  exact (char64_of_lt _ (Nat.mod_lt n (by decide))).2.1

theorem char64_toNat_lt (n : Nat) : (char64 n).toNat < 128 := by
  rw [← char64_mod]
  exact (char64_of_lt _ (Nat.mod_lt n (by decide))).2.2.1

/-! ## Reading it back -/

/-- What the digit of a group gives depends on its place in the group. -/
theorem lenientChars64?_digit (group digits pads n : Nat) (rest : List Char) :
    lenientChars64? group digits pads (char64 n :: rest) =
      match digits with
      | 0 => lenientChars64? (n % 64) 1 0 rest
      | 1 => (lenientChars64? (n % 64 % 16) 2 0 rest).map
          (UInt8.ofNat (group * 4 + n % 64 / 16) :: ·)
      | 2 => (lenientChars64? (n % 64 % 4) 3 0 rest).map
          (UInt8.ofNat (group * 16 + n % 64 / 4) :: ·)
      | _ => (lenientChars64? 0 0 0 rest).map (UInt8.ofNat (group * 64 + n % 64) :: ·) := by
  have step := lenientChars64?.eq_3 group digits pads (char64 n) rest (char64_ne_pad n)
  rw [value64?_char64] at step
  exact step

/-- A byte is found again by its value. -/
theorem ofNat_eq_of_toNat {a : UInt8} {k : Nat} (same : k = a.toNat) : UInt8.ofNat k = a := by
  rw [same, UInt8.ofNat_toNat]

/-- What is written in base64 is read back. -/
theorem lenientChars64?_encodeChars64 (b : Bytes) :
    lenientChars64? 0 0 0 (encodeChars64 b) = some b := by
  induction b using encodeChars64.induct with
  | case1 a b c rest ih =>
    have := a.toNat_lt
    have := b.toNat_lt
    have := c.toNat_lt
    simp only [encodeChars64, lenientChars64?_digit, ih, Option.map_some]
    rw [ofNat_eq_of_toNat (a := a) (by omega), ofNat_eq_of_toNat (a := b) (by omega),
      ofNat_eq_of_toNat (a := c) (by omega)]
  | case2 a b =>
    have := a.toNat_lt
    have := b.toNat_lt
    simp only [encodeChars64, lenientChars64?_digit]
    rw [ofNat_eq_of_toNat (a := a) (by omega), ofNat_eq_of_toNat (a := b) (by omega)]
    rfl
  | case3 a =>
    have := a.toNat_lt
    simp only [encodeChars64, lenientChars64?_digit]
    rw [ofNat_eq_of_toNat (a := a) (by omega)]
    rfl
  | case4 => rfl

/-- **Different bytes are written differently.** -/
theorem encode64_inj {a b : Bytes} (same : encode64 a = encode64 b) : a = b := by
  have chars : encodeChars64 a = encodeChars64 b := by
    simpa only [encode64, String.toList_ofList] using congrArg String.toList same
  have read := lenientChars64?_encodeChars64 a
  rw [chars, lenientChars64?_encodeChars64] at read
  exact (Option.some.inj read).symm

/-! ## Both alphabets -/

/-- **The characters are an encoding of bytes**: what is written, with the standard or the URL-safe
characters. -/
def Spells64 (cs : List Char) (b : Bytes) : Prop :=
  cs.map standard64 = encodeChars64 b

/-- What is written is an encoding. -/
theorem spells64_encode64 (b : Bytes) : Spells64 (encode64 b).toList b := by
  have pad : standard64 '=' = '=' := by decide
  rw [Spells64, encode64, String.toList_ofList]
  induction b using encodeChars64.induct <;> simp_all [encodeChars64, standard64_char64]

theorem toNat_lt_of_mem_encodeChars64 {b : Bytes} {c : Char} (mem : c ∈ encodeChars64 b) :
    c.toNat < 128 := by
  induction b using encodeChars64.induct with
  | case1 _ _ _ _ ih =>
    simp only [encodeChars64, List.mem_cons] at mem
    rcases mem with rfl | rfl | rfl | rfl | mem
    · exact char64_toNat_lt _
    · exact char64_toNat_lt _
    · exact char64_toNat_lt _
    · exact char64_toNat_lt _
    · exact ih mem
  | case2 | case3 =>
    simp only [encodeChars64, List.mem_cons, List.not_mem_nil, or_false] at mem
    rcases mem with rfl | rfl | rfl | rfl <;> first | exact char64_toNat_lt _ | decide
  | case4 => cases mem

theorem toNat_lt_of_standard64 {c : Char} (h : (standard64 c).toNat < 128) : c.toNat < 128 := by
  rw [standard64] at h
  split at h
  next minus =>
    rw [eq_of_beq minus]
    decide
  split at h
  next underscore =>
    rw [eq_of_beq underscore]
    decide
  · exact h

namespace Spells64

variable {cs : List Char} {b : Bytes} (h : Spells64 cs b)

include h

/-- **What is written in base64 is ASCII text.** -/
theorem isAscii : cs.all (fun c => c.toNat < 128) = true := by
  rw [List.all_eq_true]
  intro c mem
  have written : standard64 c ∈ encodeChars64 b := h ▸ List.mem_map_of_mem mem
  simpa using toNat_lt_of_standard64 (toNat_lt_of_mem_encodeChars64 written)

/-- **The lenient reader reads it back.** -/
theorem lenient64?_eq : lenient64? cs = some b := by
  rw [lenient64?, h, lenientChars64?_encodeChars64]

end Spells64

end Cose.Text
