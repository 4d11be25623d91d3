import Cose.Proofs.Cbor.Plain

/-!
# Encodings read back

Bytes are the form of an item for a reader if the reader takes exactly the item off them, whatever
follows. Forms in a row are read one after the other, so the form of an array or a map comes from
the forms of its parts. By induction over plain data every encoding is the form of what is read
back.

## Main definitions

* `Reads`: bytes as the form of an item

## Main results

* `repeat?_reads`: forms in a row
* `reads_bytes`, `reads_text`, `reads_int`, `reads_float`: the forms of atoms
* `reads_list`, `reads_map`: the forms of arrays and maps
* `reads_encode`: an encoding is read back
-/

namespace Cose.Cbor

/-- **Bytes are the form of an item** if a reader takes the item off them, whatever follows. -/
def Reads {α : Type} (read : Bytes → Option (α × Bytes)) (b : Bytes) (a : α) : Prop :=
  ∀ rest, read (b ++ rest) = some (a, rest)

variable {form : Form} {frozen : Bool} {n : Nat}

/-! ## Forms in a row -/

theorem repeat?_reads {α β : Type} {read : Bytes → Option (α × Bytes)} {bytes : β → Bytes}
    {item : β → α} {xs : List β} (h : ∀ x ∈ xs, Reads read (bytes x) (item x)) :
    Reads (repeat? read xs.length) (xs.flatMap bytes) (xs.map item) := by
  induction xs with
  | nil => exact fun rest => rfl
  | cons x xs ih =>
    intro rest
    rw [List.forall_mem_cons] at h
    rw [List.flatMap_cons, List.append_assoc, List.length_cons, repeat?, h.1]
    simp only [Option.bind_eq_bind, Option.bind_some, ih h.2 rest, Option.pure_def, List.map_cons]

theorem keyAndValue?_reads {readKey read : Bytes → Option (Value × Bytes)} {kb vb : Bytes}
    {k v : Value} (hk : Reads readKey kb k) (hv : Reads read vb v) :
    Reads (keyAndValue? readKey read) (kb ++ vb) (k, v) := by
  intro rest
  simp only [keyAndValue?, List.append_assoc, hk (vb ++ rest), hv rest, Option.bind_eq_bind,
    Option.bind_some, Option.pure_def]

/-! ## Atoms -/

theorem reads_unsigned {i : Nat} (h : i < 2 ^ 64) :
    Reads (decodeItem (n + 1) frozen) (head .unsigned i) (.int i) := by
  intro rest
  obtain ⟨info, tail, hd, small, argument⟩ := head_spec .unsigned h
  rw [hd, List.cons_append, decodeItem]
  simp only [ofByte_firstByte _ (show info < 32 by omega),
    infoOf_firstByte _ (show info < 32 by omega), argument, Option.map_some]

theorem reads_negative {i : Nat} (h : i < 2 ^ 64) :
    Reads (decodeItem (n + 1) frozen) (head .negative i) (.int (-1 - i)) := by
  intro rest
  obtain ⟨info, tail, hd, small, argument⟩ := head_spec .negative h
  rw [hd, List.cons_append, decodeItem]
  simp only [ofByte_firstByte _ (show info < 32 by omega),
    infoOf_firstByte _ (show info < 32 by omega), argument, Option.map_some]

/-- The content of a string behind its head. -/
theorem string?_reads {major : Major} {check : Bytes → Bool} {info : Nat} {tail b : Bytes}
    (small : info < 28) (argument : ∀ rest, argument? info (tail ++ rest) = some (b.length, rest))
    (checked : check b = true) : Reads (string? major check info) (tail ++ b) b := by
  intro rest
  rw [string?, if_neg (show info ≠ unknownLength by rw [unknownLength]; omega), List.append_assoc]
  simp only [argument, Option.bind_eq_bind, Option.bind_some, take?_append, checked, guard_true,
    Option.pure_def]

theorem reads_bytes {b : Bytes} (h : b.length < 2 ^ 64) :
    Reads (decodeItem (n + 1) frozen) (encodeBytes b) (.bytes b) := by
  intro rest
  obtain ⟨info, tail, hd, small, argument⟩ := head_spec .bytes h
  have content : Reads (string? .bytes (fun _ => true) info) (tail ++ b) b :=
    string?_reads small argument rfl
  rw [encodeBytes, hd, List.cons_append, List.cons_append, decodeItem]
  simp only [ofByte_firstByte _ (show info < 32 by omega),
    infoOf_firstByte _ (show info < 32 by omega), content rest, Option.map_some]

theorem reads_text {s : String} (h : (Bytes.ofText s).length < 2 ^ 64) :
    Reads (decodeItem (n + 1) frozen) (encodeText s) (.text s) := by
  intro rest
  obtain ⟨info, tail, hd, small, argument⟩ := head_spec .text h
  have content : Reads (string? .text isUtf8 info) (tail ++ Bytes.ofText s) (Bytes.ofText s) :=
    string?_reads small argument (by simp [isUtf8])
  rw [encodeText, hd, List.cons_append, List.cons_append, decodeItem]
  simp only [ofByte_firstByte _ (show info < 32 by omega),
    infoOf_firstByte _ (show info < 32 by omega), content rest, Option.bind_eq_bind,
    Option.bind_some, Bytes.toText?_ofText, Option.pure_def]

/-- An item without content is read by what stands for its argument. -/
theorem reads_special {info : Nat} {tail : Bytes} {v : Value} (small : info < 32)
    (h : Reads (special? info) tail v) :
    Reads (decodeItem (n + 1) frozen) (firstByte .special info :: tail) v := by
  intro rest
  rw [List.cons_append, decodeItem]
  simp only [ofByte_firstByte _ small, infoOf_firstByte _ small, h rest]

/-! ## Floats -/

theorem encode?_receivedFloat (bits : UInt64) :
    Float.Format.double.encode? (Float.Format.double.decode bits.toNat) =
      some (receivedFloat bits).toNat := by
  rw [receivedFloat]
  split
  · next nan =>
    rw [nan]
    rfl
  · next number =>
    have lt : bits.toNat < 2 ^ (Float.Format.double.fractionBits +
        Float.Format.double.exponentBits + 1) := bits.toNat_lt
    exact Float.Format.encode?_decode lt fun nan => number nan

theorem float?_reads {f : Float.Format} {width p : Nat} {bits : UInt64} (h : p < 256 ^ width)
    (wide : Float.Format.double.encode? (f.decode p) = some bits.toNat) :
    Reads (float? f width) (Bytes.ofNatWidth width p) (.float bits) := by
  intro rest
  simp only [float?, takeNat?_ofNatWidth h rest, Option.bind_eq_bind, Option.bind_some, wide,
    Option.pure_def, UInt64.ofNat_toNat]

/-- A narrow format gives back what it was written for. -/
theorem reads_encodeFormat? {f : Float.Format} {info width : Nat} {bits : UInt64} {b : Bytes}
    (top : 0 < f.topField) (fraction : 0 < f.fractionBits)
    (fits : 2 ^ (f.fractionBits + f.exponentBits + 1) = 256 ^ width) (small : info < 32)
    (reader : special? info = float? f width)
    (h : encodeFormat? f info width (Float.Format.double.decode bits.toNat) = some b) :
    Reads (decodeItem (n + 1) frozen) b (.float (receivedFloat bits)) := by
  obtain ⟨p, hp, rfl⟩ := Option.map_eq_some_iff.mp h
  obtain ⟨lt, detour⟩ := Float.Format.encode?_decode_of_encode? top fraction hp
  refine reads_special small ?_
  rw [reader]
  exact float?_reads (fits ▸ lt) ((detour _).trans (encode?_receivedFloat bits))

theorem reads_encodeHalf? {bits : UInt64} {b : Bytes}
    (h : encodeHalf? (Float.Format.double.decode bits.toNat) = some b) :
    Reads (decodeItem (n + 1) frozen) b (.float (receivedFloat bits)) := by
  rw [encodeHalf?] at h
  split at h
  · cases h
  · exact reads_encodeFormat? (by decide) (by decide) (by decide) (by decide) rfl h

theorem reads_wide (bits : UInt64) :
    Reads (decodeItem (n + 1) frozen) (firstByte .special 27 :: Bytes.ofNatWidth 8 bits.toNat)
      (.float (receivedFloat bits)) :=
  reads_special (by decide) (float?_reads bits.toNat_lt (encode?_receivedFloat bits))

theorem reads_float (form : Form) (bits : UInt64) :
    Reads (decodeItem (n + 1) frozen) (encodeFloat form bits) (.float (receivedFloat bits)) := by
  unfold encodeFloat
  simp only
  split
  · exact reads_wide bits
  -- The shortest format that holds the number is taken; whichever it is, the number is widened
  -- again when it is read.
  · cases half : encodeHalf? (Float.Format.double.decode bits.toNat) with
    | some b => exact reads_encodeHalf? half
    | none =>
      cases single : encodeSingle? (Float.Format.double.decode bits.toNat) with
      | some b =>
        exact reads_encodeFormat? (by decide) (by decide) (by decide) (by decide) rfl single
      | none => exact reads_wide bits

/-! ## Tags and containers -/

/-- A tag in front of a form. -/
theorem reads_tag {number : Nat} {b : Bytes} {content v : Value} (h : number < 2 ^ 64)
    (inner : Reads (decodeItem n (frozen || number == setTag)) b content)
    (meaning : interpretTag? frozen number content = some v) :
    Reads (decodeItem (n + 1) frozen) (head .tag number ++ b) v := by
  intro rest
  obtain ⟨info, tail, hd, small, argument⟩ := head_spec .tag h
  rw [hd, List.append_assoc, List.cons_append, decodeItem]
  simp only [ofByte_firstByte _ (show info < 32 by omega),
    infoOf_firstByte _ (show info < 32 by omega), argument, Option.bind_eq_bind, Option.bind_some,
    inner rest, meaning, Option.pure_def]

/-- An array of forms. -/
theorem reads_list {β : Type} {bytes : β → Bytes} {item : β → Value} {xs : List β}
    (count : xs.length < 2 ^ 64) (h : ∀ x ∈ xs, Reads (decodeItem n frozen) (bytes x) (item x)) :
    Reads (decodeItem (n + 1) frozen) (joinItems (xs.map bytes))
      (if frozen then .tuple (xs.map item) else .list (xs.map item)) := by
  intro rest
  obtain ⟨info, tail, hd, small, argument⟩ := head_spec .array count
  have content := repeat?_reads h rest
  have counted : info ≠ unknownLength := by rw [unknownLength]; omega
  rw [joinItems, List.length_map, hd, ← List.flatMap_def, List.append_assoc, List.cons_append,
    decodeItem]
  simp only [ofByte_firstByte _ (show info < 32 by omega),
    infoOf_firstByte _ (show info < 32 by omega), items?, if_neg counted, argument,
    Option.bind_eq_bind, Option.bind_some, content, Option.map_some]

/-- A map of forms. -/
theorem reads_map {β : Type} {kb vb : β → Bytes} {k v : β → Value} {es : List β}
    (count : es.length < 2 ^ 64) (hk : ∀ e ∈ es, Reads (decodeItem n true) (kb e) (k e))
    (hv : ∀ e ∈ es, Reads (decodeItem n frozen) (vb e) (v e)) :
    Reads (decodeItem (n + 1) frozen) (joinEntries (es.map fun e => (kb e, vb e)))
      (if frozen then .frozenMap (Value.ofEntries (es.map fun e => (k e, v e)))
        else .map (Value.ofEntries (es.map fun e => (k e, v e)))) := by
  intro rest
  obtain ⟨info, tail, hd, small, argument⟩ := head_spec .map count
  have content := repeat?_reads (fun e he => keyAndValue?_reads (hk e he) (hv e he)) rest
  have counted : info ≠ unknownLength := by rw [unknownLength]; omega
  rw [joinEntries, List.length_map, List.flatMap_map, hd, List.append_assoc, List.cons_append,
    decodeItem]
  simp only [ofByte_firstByte _ (show info < 32 by omega),
    infoOf_firstByte _ (show info < 32 by omega), entries?, if_neg counted, argument,
    Option.bind_eq_bind, Option.bind_some, content, Option.map_some]

/-! ## Integers -/

/-- An integer that a head holds takes one level. -/
theorem reads_int_of_head {i : Int} (h : -2 ^ 64 ≤ i ∧ i < 2 ^ 64) :
    Reads (decodeItem (n + 1) frozen) (encodeInt i) (.int i) := by
  cases i with
  | ofNat i =>
    have small : i < 256 ^ 8 := by
      have upper := h.2
      rw [Int.ofNat_eq_natCast] at upper
      omega
    rw [encodeInt, encodeMagnitude, if_pos small]
    exact reads_unsigned small
  | negSucc i =>
    have lower := h.1
    have small : i < 256 ^ 8 := by omega
    have value : Int.negSucc i = -1 - i := by omega
    rw [encodeInt, encodeMagnitude, if_pos small, value]
    exact reads_negative small

/-- Any integer takes two levels at most. -/
theorem reads_int {i : Int} (fits : (encodeInt i).length < 2 ^ 64) :
    Reads (decodeItem (n + 2) frozen) (encodeInt i) (.int i) := by
  by_cases h : -2 ^ 64 ≤ i ∧ i < 2 ^ 64
  · exact reads_int_of_head h
  have magnitude : ∀ (number i : Nat), number < 2 ^ 64 →
      (head .tag number ++ encodeBytes (Bytes.ofNat i)).length < 2 ^ 64 →
      ∀ v, interpretTag? frozen number (.bytes (Bytes.ofNat i)) = some v →
      Reads (decodeItem (n + 2) frozen) (head .tag number ++ encodeBytes (Bytes.ofNat i)) v := by
    intro number i small fits v meaning
    have short : (Bytes.ofNat i).length < 2 ^ 64 := by
      rw [encodeBytes, List.length_append, List.length_append] at fits
      omega
    exact reads_tag small (reads_bytes short) meaning
  cases i with
  | ofNat i =>
    have large : ¬ i < 256 ^ 8 := by
      intro small
      exact h ⟨by rw [Int.ofNat_eq_natCast]; omega, by rw [Int.ofNat_eq_natCast]; omega⟩
    rw [encodeInt, encodeMagnitude, if_neg large] at fits ⊢
    refine magnitude _ _ (by decide) fits _ ?_
    simp [interpretTag?]
  | negSucc i =>
    have large : ¬ i < 256 ^ 8 := by
      intro small
      exact h ⟨by omega, by omega⟩
    have value : Int.negSucc i = -1 - i := by omega
    rw [encodeInt, encodeMagnitude, if_neg large] at fits ⊢
    refine magnitude _ _ (by decide) fits _ ?_
    simp [interpretTag?, negativeTag, positiveTag, value]

/-! ## Plain data -/

theorem head_append_ne_nil (major : Major) (k : Nat) (rest : Bytes) :
    head major k ++ rest ≠ [] :=
  List.append_ne_nil_of_left_ne_nil (head_ne_nil major k) rest

theorem encodeMagnitude_ne_nil (major : Major) (tag k : Nat) :
    encodeMagnitude major tag k ≠ [] := by
  rw [encodeMagnitude]
  split
  · exact head_ne_nil major k
  · exact head_append_ne_nil _ _ _

/-- No encoding is empty. -/
theorem encode_ne_nil {v : Value} {b : Bytes} (h : encode form v = some b) : b ≠ [] := by
  cases v with
  | null | bool | undefined =>
    cases h
    exact List.cons_ne_nil _ _
  | simple k =>
    cases h
    exact head_ne_nil _ k
  | int i =>
    cases h
    cases i <;> exact encodeMagnitude_ne_nil _ _ _
  | text | bytes | buffer =>
    cases h
    exact head_append_ne_nil _ _ _
  | float bits =>
    cases h
    intro empty
    -- No reader takes an item off nothing, and the encoding is read back.
    have read : decodeItem 1 false (encodeFloat form bits ++ []) = _ := reads_float form bits []
    rw [empty] at read
    cases read
  | list | tuple | map | frozenMap | tag =>
    rw [encode, Option.map_eq_some_iff] at h
    obtain ⟨content, -, rfl⟩ := h
    exact head_append_ne_nil _ _ _
  | set | frozenSet =>
    rw [encode, Option.map_eq_some_iff] at h
    obtain ⟨content, -, rfl⟩ := h
    exact head_append_ne_nil _ _ _
  | stop | algorithm => cases h

theorem bytesOf_ne_nil {v : Value} (h : encode form v = some (bytesOf form v)) :
    bytesOf form v ≠ [] :=
  encode_ne_nil h

theorem length_le_length_flatMap {α : Type} {f : α → Bytes} {xs : List α}
    (h : ∀ x ∈ xs, f x ≠ []) : xs.length ≤ (xs.flatMap f).length := by
  induction xs with
  | nil => exact Nat.le_refl 0
  | cons x xs ih =>
    rw [List.forall_mem_cons] at h
    have first := List.length_pos_of_ne_nil h.1
    have others := ih h.2
    rw [List.flatMap_cons, List.length_append, List.length_cons]
    omega

theorem length_le_length_flatMap_of_mem {α : Type} {f : α → Bytes} {xs : List α} {x : α}
    (h : x ∈ xs) : (f x).length ≤ (xs.flatMap f).length := by
  obtain ⟨before, after, rfl⟩ := List.append_of_mem h
  simp only [List.flatMap_append, List.flatMap_cons, List.length_append]
  omega

/-- An element of an array is no longer than the array. -/
theorem length_bytesOf_le {xs : List Value} {x : Value} {b : Bytes}
    (h : encode form (.list xs) = some b) (hx : x ∈ xs) :
    encode form x = some (bytesOf form x) ∧ (bytesOf form x).length ≤ b.length := by
  obtain ⟨each, rfl⟩ := encode_list.mp h
  refine ⟨each x hx, ?_⟩
  have part := length_le_length_flatMap_of_mem (f := bytesOf form) hx
  rw [joinItems, ← List.flatMap_def, List.length_append]
  exact part.trans (Nat.le_add_left ..)

/-- A key and its value are no longer than the map. -/
theorem length_bytesOf_le_of_map {es : List (Value × Value)} {e : Value × Value} {b : Bytes}
    (h : encode form (.map es) = some b) (he : e ∈ es) :
    (bytesOf form e.1).length ≤ b.length ∧ (bytesOf form e.2).length ≤ b.length := by
  obtain ⟨-, rfl⟩ := encode_map.mp h
  have part := length_le_length_flatMap_of_mem
    (f := fun e : Value × Value => bytesOf form e.1 ++ bytesOf form e.2)
    ((ordered_perm form es).symm.subset he)
  rw [List.length_append] at part
  rw [joinEntries, List.flatMap_map, List.length_append]
  simp only
  omega

/-- The step for arrays: the elements are read back. -/
theorem reads_encode_list {xs : List Value} {b : Bytes} (fits : b.length < 2 ^ 64)
    (h : encode form (.list xs) = some b)
    (ih : ∀ x ∈ xs, encode form x = some (bytesOf form x) → (bytesOf form x).length < 2 ^ 64 →
      Reads (decodeItem n frozen) (bytesOf form x) (received form x frozen)) :
    Reads (decodeItem (n + 1) frozen) b (received form (.list xs) frozen) := by
  have parts := fun x hx => length_bytesOf_le h (x := x) hx
  obtain ⟨each, rfl⟩ := encode_list.mp h
  have count : xs.length ≤ (xs.flatMap (bytesOf form)).length :=
    length_le_length_flatMap fun x hx => bytesOf_ne_nil (each x hx)
  have items : (xs.flatMap (bytesOf form)).length < 2 ^ 64 := by
    rw [joinItems, ← List.flatMap_def, List.length_append] at fits
    omega
  rw [joinItems, ← List.flatMap_def, received_list]
  exact reads_list (by omega) fun x hx => ih x hx (each x hx) ((parts x hx).2.trans_lt fits)

/-- The step for maps: the keys are read back frozen, in the order in which they are written. -/
theorem reads_encode_map {es : List (Value × Value)} {b : Bytes} (fits : b.length < 2 ^ 64)
    (h : encode form (.map es) = some b)
    (ihk : ∀ e ∈ es, encode form e.1 = some (bytesOf form e.1) →
      (bytesOf form e.1).length < 2 ^ 64 →
      Reads (decodeItem n true) (bytesOf form e.1) (received form e.1 true))
    (ihv : ∀ e ∈ es, encode form e.2 = some (bytesOf form e.2) →
      (bytesOf form e.2).length < 2 ^ 64 →
      Reads (decodeItem n frozen) (bytesOf form e.2) (received form e.2 frozen)) :
    Reads (decodeItem (n + 1) frozen) b (received form (.map es) frozen) := by
  have parts := fun e he => length_bytesOf_le_of_map h (e := e) he
  obtain ⟨each, rfl⟩ := encode_map.mp h
  have perm := ordered_perm form es
  have count : (ordered form es).length ≤
      ((ordered form es).flatMap fun e => bytesOf form e.1 ++ bytesOf form e.2).length :=
    length_le_length_flatMap fun e he => List.append_ne_nil_of_left_ne_nil
      (bytesOf_ne_nil (each e (perm.subset he)).1) _
  have entries : ((ordered form es).flatMap fun e => bytesOf form e.1 ++ bytesOf form e.2).length <
      2 ^ 64 := by
    rw [joinEntries, List.flatMap_map, List.length_append] at fits
    simp only at fits
    omega
  rw [received_map]
  refine reads_map (by omega) (fun e he => ?_) fun e he => ?_
  · have mem := perm.subset he
    exact ihk e mem (each e mem).1 ((parts e mem).1.trans_lt fits)
  · have mem := perm.subset he
    exact ihv e mem (each e mem).2 ((parts e mem).2.trans_lt fits)

/-- **An encoding is read back**: the encoding of plain data is the form of what is read back from
it, for a reader that goes as deep as the data. -/
theorem reads_encode {keys : List Value → Prop} {v : Value} {b : Bytes} (plain : v.Plain keys n)
    (h : encode form v = some b) (fits : b.length < 2 ^ 64) (frozen : Bool) :
    Reads (decodeItem n frozen) b (received form v frozen) := by
  -- The depth and the bytes vary: the parts are shorter, and the keys of a map are read frozen.
  induction plain generalizing b frozen with
  | null | bool _ truth =>
    cases h
    first
    | exact reads_special (by decide) fun rest => rfl
    | cases truth <;> exact reads_special (by decide) fun rest => rfl
  | int head =>
    cases h
    exact reads_int_of_head head
  | bigInt n i =>
    cases h
    exact reads_int fits
  | text n s =>
    cases h
    rw [encodeText, List.length_append] at fits
    exact reads_text (by omega)
  | bytes n b | buffer n b =>
    cases h
    rw [encodeBytes, List.length_append] at fits
    exact reads_bytes (by omega)
  | float n bits =>
    cases h
    exact reads_float form bits
  | list _ ih => exact reads_encode_list fits h fun x hx hb fits => ih x hx hb fits frozen
  | tuple _ ih =>
    rw [encode_tuple] at h
    rw [received_tuple]
    exact reads_encode_list fits h fun x hx hb fits => ih x hx hb fits frozen
  | map _ _ _ ihk ihv =>
    exact reads_encode_map fits h (fun e he hb fits => ihk e he hb fits true)
      fun e he hb fits => ihv e he hb fits frozen
  | frozenMap _ _ _ ihk ihv =>
    rw [encode_frozenMap] at h
    rw [received_frozenMap]
    exact reads_encode_map fits h (fun e he hb fits => ihk e he hb fits true)
      fun e he hb fits => ihv e he hb fits frozen

end Cose.Cbor
