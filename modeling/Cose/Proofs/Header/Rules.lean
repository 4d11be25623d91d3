import Cose.Proofs.Header.Legible
import Mathlib.Data.List.DropRight

/-!
# The rules for headers, label by label

A layer is checked by a run through its entries that ends at the first fault, and by comparisons of
the two buckets. What passes is what obeys the rules of the common parameters, each of which speaks
of the values and labels that the layer has and of nothing else. So the order of the entries does
not matter to the verdict, nor do the spellings of labels.

## Main definitions

* `Text.IsTrimmed`, `Value.IsContentType`: the values of the content type
* `Bucket.ListsOwn`: the values of the list of critical labels
* `Layer.Sided`, `Layer.Obeys`: the two kinds of bucket, and the rules for a layer
* `Bucket.Respells`: the same entries in another order, with critical labels in other spellings

## Main results

* `Text.trim_eq_self_iff`, `isMediaType_iff`: media types
* `Bucket.criticalFault?_eq_none`: lists of critical labels
* `Layer.check_eq_ok_iff_obeys`: what passes the check obeys the rules
* `Layer.Legible.check_eq_error`: what does not pass is refused with an error about headers
* `Layer.Obeys.of_respells`, `Bucket.update_congr`: order and spelling do not matter
-/

namespace Cose

/-! ## Media types -/

namespace Text

/-- **A text is trimmed**: it neither begins nor ends with a blank. -/
structure IsTrimmed (s : String) : Prop where
  start : ∀ c ∈ s.toList.head?, isBlank c = false
  stop : ∀ c ∈ s.toList.getLast?, isBlank c = false

theorem trimChars_eq (cs : List Char) :
    trimChars cs = (cs.dropWhile isBlank).rdropWhile isBlank := rfl

/-- Trimming changes nothing exactly if there is no blank at either end. -/
theorem trimChars_eq_self_iff {cs : List Char} :
    trimChars cs = cs ↔ cs.dropWhile isBlank = cs ∧ cs.rdropWhile isBlank = cs := by
  rw [trimChars_eq]
  constructor
  · intro same
    have shorter := (List.rdropWhile_prefix isBlank (l := cs.dropWhile isBlank)).length_le
    rw [same] at shorter
    have start : cs.dropWhile isBlank = cs :=
      (List.dropWhile_suffix isBlank).eq_of_length_le shorter
    rw [start] at same
    exact ⟨start, same⟩
  · rintro ⟨start, stop⟩
    rw [start, stop]

theorem trim_eq_self_iff {s : String} : trim s = s ↔ IsTrimmed s := by
  have chars : trim s = s ↔ trimChars s.toList = s.toList := by
    rw [trim, ← String.toList_inj, String.toList_ofList]
  rw [chars, trimChars_eq_self_iff, List.dropWhile_eq_self_iff, List.rdropWhile_eq_self_iff]
  constructor
  · rintro ⟨start, stop⟩
    constructor
    · intro c first
      obtain ⟨cs, same⟩ := List.head?_eq_some_iff.mp first
      simpa [same] using start (by simp [same])
    · intro c last
      obtain ⟨cs, same⟩ := List.getLast?_eq_some_iff.mp last
      simpa [same] using stop (by simp [same])
  · rintro ⟨start, stop⟩
    constructor
    · intro nonempty
      rw [Bool.not_eq_true]
      exact start _ (by simp [List.head?_eq_getElem?])
    · intro nonempty
      rw [Bool.not_eq_true]
      exact stop _ (List.getLast?_eq_some_getLast nonempty)

end Text

/-- The values of the content type: integers that are not negative, and media types, which are
trimmed texts with exactly one slash. -/
inductive Value.IsContentType : Value → Prop
  | number {n : Int} (nonneg : 0 ≤ n) : IsContentType (.int n)
  | mediaType {s : String} (nonempty : s ≠ "") (trimmed : Text.IsTrimmed s)
      (slash : s.toList.count '/' = 1) : IsContentType (.text s)

theorem isMediaType_iff {v : Value} : isMediaType v = true ↔ v.IsContentType := by
  cases v with
  | int n =>
    rw [isMediaType, decide_eq_true_iff]
    exact ⟨.number, fun (.number nonneg) => nonneg⟩
  | text s =>
    have rule : isMediaType (.text s) = true ↔
        s ≠ "" ∧ Text.IsTrimmed s ∧ s.toList.count '/' = 1 := by
      rw [isMediaType, Bool.and_eq_true, Bool.and_eq_true, beq_iff_eq, beq_iff_eq,
        Text.trim_eq_self_iff, and_assoc]
      simp
    rw [rule]
    exact ⟨fun ⟨nonempty, trimmed, slash⟩ => .mediaType nonempty trimmed slash,
      fun (.mediaType nonempty trimmed slash) => ⟨nonempty, trimmed, slash⟩⟩
  | _ => exact ⟨nofun, nofun⟩

theorem isAlgorithmId_iff {v : Value} : isAlgorithmId v = true ↔ v.IsLabel := by
  cases v with
  | int n => exact ⟨fun _ => .int n, fun _ => rfl⟩
  | text s => exact ⟨fun _ => .text s, fun _ => rfl⟩
  | _ => exact ⟨nofun, nofun⟩

theorem Value.isBytes_iff {v : Value} : v.isBytes = true ↔ ∃ b, v = .bytes b := by
  cases v with
  | bytes b => exact ⟨fun _ => ⟨b, rfl⟩, fun _ => rfl⟩
  | _ => exact ⟨nofun, nofun⟩

/-! ## The list of critical labels -/

namespace Bucket

variable {b : Bucket} {v : Value}

theorem criticalLabelFault?_eq_none :
    b.criticalLabelFault? v = none ↔ ∃ l, Label.ofValue v = .ok l ∧ b.has l = true := by
  rw [criticalLabelFault?]
  rcases Label.ofValue v with e | l
  · simp
  · by_cases present : b.has l = true <;> simp [present]

theorem criticalFault?_eq_none :
    b.criticalFault? v = none ↔ b.isProtected = true ∧ ∃ x xs, v = .list (x :: xs) ∧
      ∀ y ∈ x :: xs, ∃ l, Label.ofValue y = .ok l ∧ b.has l = true := by
  unfold criticalFault?
  by_cases isProtected : b.isProtected = true
  · rw [if_neg (by simpa using isProtected)]
    split
    · simp
    · next xs nonempty =>
      cases xs with
      | nil => exact absurd rfl nonempty
      | cons x xs =>
        simp only [List.findSome?_eq_none_iff, criticalLabelFault?_eq_none, isProtected, true_and]
        constructor
        · exact fun all => ⟨x, xs, rfl, all⟩
        · rintro ⟨_, _, ⟨⟩, all⟩
          exact all
    · next other =>
      refine ⟨nofun, ?_⟩
      rintro ⟨-, x, xs, rfl, -⟩
      exact absurd rfl (other _)
  · rw [if_pos (by simpa using isProtected)]
    simp [isProtected]

/-- A list of critical labels is not empty, and the bucket has all labels that it spells. -/
def ListsOwn (b : Bucket) (v : Value) : Prop :=
  ∃ xs, v = .list xs ∧ xs ≠ [] ∧ ∀ x ∈ xs, ∃ l ∈ b.labels, Label.ofValue x = .ok l

theorem criticalFault?_eq_none_iff_listsOwn :
    b.criticalFault? v = none ↔ b.isProtected = true ∧ b.ListsOwn v := by
  rw [criticalFault?_eq_none, ListsOwn]
  refine and_congr_right fun _ => ?_
  simp only [has_iff, and_comm (b := _ ∈ b.labels)]
  constructor
  · rintro ⟨x, xs, rfl, all⟩
    exact ⟨x :: xs, rfl, List.cons_ne_nil x xs, all⟩
  · rintro ⟨xs, rfl, nonempty, all⟩
    obtain ⟨x, xs, rfl⟩ := List.exists_cons_of_ne_nil nonempty
    exact ⟨x, xs, rfl, all⟩

end Bucket

/-! ## Layers -/

namespace Layer

/-- A layer has a bucket of each kind. -/
structure Sided (h : Layer) : Prop where
  isProtected : h.prot.isProtected = true
  isUnprotected : h.unprot.isProtected = false

theorem WellFormed.sided {h : Layer} (wf : h.WellFormed) : h.Sided :=
  ⟨wf.isProtected, wf.isUnprotected⟩

/-- A layer holds a value for a label, in one of its buckets. -/
def Holds (h : Layer) (l : Label) (v : Value) : Prop :=
  (l, v) ∈ h.prot.entries ∨ (l, v) ∈ h.unprot.entries

/-- A layer has a label, in one of its buckets. -/
def Names (h : Layer) (l : Label) : Prop :=
  l ∈ h.prot.labels ∨ l ∈ h.unprot.labels

/-- The rules for a layer, label by label. -/
structure Obeys (h : Layer) : Prop where
  /-- An algorithm is an integer or a text. -/
  algorithm : ∀ v, h.Holds .alg v → v.IsLabel
  /-- The list of critical labels is protected. -/
  criticalPlace : Label.crit ∉ h.unprot.labels
  /-- It lists labels of the protected bucket, and is not empty. -/
  critical : ∀ v, (.crit, v) ∈ h.prot.entries → h.prot.ListsOwn v
  /-- A content type is a number or a media type. -/
  contentType : ∀ v, h.Holds .contentType v → v.IsContentType
  /-- Key identifiers and vectors are byte strings. -/
  bytes : ∀ l ∈ [Label.kid, .iv, .partialIv], ∀ v, h.Holds l v → ∃ b, v = .bytes b
  /-- No label is in both buckets. -/
  disjoint : ∀ l ∈ h.prot.labels, l ∉ h.unprot.labels
  /-- A vector and a partial one exclude each other. -/
  vectors : ¬ (h.Names .iv ∧ h.Names .partialIv)

variable {h h' : Layer}

/-- The rules as they are checked, bucket by bucket. -/
theorem check_eq_ok_iff_admits :
    h.check = .ok () ↔ (∀ e ∈ h.prot.entries, h.prot.Admits e.1 e.2) ∧
      (∀ e ∈ h.unprot.entries, h.unprot.Admits e.1 e.2) ∧
      (∀ l ∈ h.prot.labels, l ∉ h.unprot.labels) ∧ ¬ (h.Names .iv ∧ h.Names .partialIv) := by
  simp only [check_eq_ok, checkBuckets_eq_ok, Bucket.validate_eq_ok, Names, Bucket.has_iff,
    Bucket.has_eq_false_iff]
  constructor
  · rintro ⟨⟨prot, -⟩, ⟨unprot, -⟩, disjoint, vectors⟩
    exact ⟨prot, unprot, disjoint, vectors⟩
  · rintro ⟨prot, unprot, disjoint, vectors⟩
    exact ⟨⟨prot, fun ⟨iv, partialIv⟩ => vectors ⟨.inl iv, .inl partialIv⟩⟩,
      ⟨unprot, fun ⟨iv, partialIv⟩ => vectors ⟨.inr iv, .inr partialIv⟩⟩, disjoint, vectors⟩

/-- **What passes the check obeys the rules**, and the other way round. -/
theorem check_eq_ok_iff_obeys (sided : h.Sided) : h.check = .ok () ↔ h.Obeys := by
  rw [check_eq_ok_iff_admits]
  constructor
  · rintro ⟨prot, unprot, disjoint, vectors⟩
    refine ⟨?_, ?_, ?_, ?_, ?_, disjoint, vectors⟩
    · rintro v (mem | mem)
      · exact isAlgorithmId_iff.mp ((prot _ mem).algorithm rfl)
      · exact isAlgorithmId_iff.mp ((unprot _ mem).algorithm rfl)
    · intro there
      obtain ⟨⟨l, v⟩, mem, rfl⟩ := List.mem_map.mp there
      have protects := (Bucket.criticalFault?_eq_none.mp ((unprot _ mem).critical rfl)).1
      exact absurd (sided.isUnprotected.symm.trans protects) (by decide)
    · intro v mem
      exact (Bucket.criticalFault?_eq_none_iff_listsOwn.mp ((prot _ mem).critical rfl)).2
    · rintro v (mem | mem)
      · exact isMediaType_iff.mp ((prot _ mem).contentType rfl)
      · exact isMediaType_iff.mp ((unprot _ mem).contentType rfl)
    · have bytes {b : Bucket} {l : Label} {v : Value} (ok : b.Admits l v)
          (hl : l ∈ [Label.kid, .iv, .partialIv]) : ∃ b, v = .bytes b := by
        rw [List.mem_cons, List.mem_pair] at hl
        rcases hl with hl | hl
        · exact Value.isBytes_iff.mp (ok.keyId hl)
        · exact Value.isBytes_iff.mp (ok.vector hl)
      rintro l hl v (mem | mem)
      · exact bytes (prot _ mem) hl
      · exact bytes (unprot _ mem) hl
  · rintro ⟨algorithm, criticalPlace, critical, contentType, bytes, disjoint, vectors⟩
    have admits {b : Bucket} {l : Label} {v : Value} (holds : h.Holds l v)
        (listed : l = .crit → b.criticalFault? v = none) : b.Admits l v :=
      { algorithm := fun hl => isAlgorithmId_iff.mpr (algorithm v (hl ▸ holds))
        critical := listed
        contentType := fun hl => isMediaType_iff.mpr (contentType v (hl ▸ holds))
        keyId := fun hl => Value.isBytes_iff.mpr (bytes l (by simp [hl]) v holds)
        vector := fun hl => Value.isBytes_iff.mpr
          (bytes l (List.mem_cons_of_mem _ (List.mem_pair.mpr hl)) v holds) }
    refine ⟨fun e mem => admits (.inl mem) fun hl => ?_,
      fun e mem => admits (.inr mem) fun hl => ?_, disjoint, vectors⟩
    · exact Bucket.criticalFault?_eq_none_iff_listsOwn.mpr
        ⟨sided.isProtected, critical e.2 (hl ▸ mem)⟩
    · exact absurd (List.mem_map.mpr ⟨e, mem, hl⟩) criticalPlace

/-- **What breaks the rules is refused with an error about headers**, if its integers can be
written. -/
theorem Legible.check_eq_error {e : Error} (legible : h.Legible) (failed : h.check = .error e) :
    ∃ fault, e = .header fault := by
  have header := h.isHeader_check e failed
  have cose := legible.isCose_check e failed
  cases e with
  | header fault => exact ⟨fault, rfl⟩
  | fault f =>
    cases f with
    | value => exact absurd cose (by decide)
    | _ => cases header
  | _ => cases header

end Layer

/-! ## Order and spelling -/

/-- Two spellings: values that spell the same label, or one value. -/
def Value.Respells (v w : Value) : Prop :=
  v = w ∨ ∃ l, Label.ofValue v = .ok l ∧ Label.ofValue w = .ok l

theorem Value.Respells.symm {v w : Value} (r : v.Respells w) : w.Respells v := by
  rcases r with same | ⟨l, first, second⟩
  · exact .inl same.symm
  · exact .inr ⟨l, second, first⟩

/-- The same parameter, with critical labels in other spellings. -/
def Bucket.SameParameter (e e' : Label × Value) : Prop :=
  e.1 = e'.1 ∧ (e.2 = e'.2 ∨ e.1 = .crit ∧
    ∃ xs ys, e.2 = .list xs ∧ e'.2 = .list ys ∧ List.Forall₂ Value.Respells xs ys)

namespace Bucket

variable {b b' : Bucket} {e e' : Label × Value}

/-- The same entries, in any order, with critical labels in any spelling. -/
structure Respells (b b' : Bucket) : Prop where
  isProtected : b'.isProtected = b.isProtected
  forth : ∀ e ∈ b.entries, ∃ e' ∈ b'.entries, SameParameter e e'
  back : ∀ e' ∈ b'.entries, ∃ e ∈ b.entries, SameParameter e e'

/-- Entries in another order are the same entries. -/
theorem respells_of_perm (isProtected : b'.isProtected = b.isProtected)
    (perm : b.entries.Perm b'.entries) : b.Respells b' :=
  ⟨isProtected, fun e mem => ⟨e, perm.subset mem, rfl, .inl rfl⟩,
    fun e mem => ⟨e, perm.symm.subset mem, rfl, .inl rfl⟩⟩

theorem SameParameter.symm (same : SameParameter e e') : SameParameter e' e := by
  obtain ⟨label, value | ⟨critical, xs, ys, list, list', each⟩⟩ := same
  · exact ⟨label.symm, .inl value.symm⟩
  · exact ⟨label.symm, .inr ⟨label ▸ critical, ys, xs, list', list,
      (each.imp fun _ _ r => r.symm).flip⟩⟩

theorem Respells.symm (r : b.Respells b') : b'.Respells b where
  isProtected := r.isProtected.symm
  forth e mem := (r.back e mem).imp fun _ ⟨there, same⟩ => ⟨there, same.symm⟩
  back e mem := (r.forth e mem).imp fun _ ⟨there, same⟩ => ⟨there, same.symm⟩

theorem SameParameter.value_eq (same : SameParameter e e') (other : e.1 ≠ .crit) : e.2 = e'.2 :=
  same.2.resolve_right fun listed => other listed.1

theorem Respells.mem_labels_iff (r : b.Respells b') {l : Label} : l ∈ b'.labels ↔ l ∈ b.labels := by
  constructor
  · intro mem
    obtain ⟨e', there, rfl⟩ := List.mem_map.mp mem
    obtain ⟨e, there, same⟩ := r.back e' there
    exact List.mem_map.mpr ⟨e, there, same.1⟩
  · intro mem
    obtain ⟨e, there, rfl⟩ := List.mem_map.mp mem
    obtain ⟨e', there, same⟩ := r.forth e there
    exact List.mem_map.mpr ⟨e', there, same.1.symm⟩

/-- A value for any other label than the critical one is there before if it is there after. -/
theorem Respells.mem_of_mem (r : b.Respells b') {l : Label} {v : Value} (other : l ≠ .crit)
    (mem : (l, v) ∈ b'.entries) : (l, v) ∈ b.entries := by
  obtain ⟨⟨k, w⟩, there, same⟩ := r.back _ mem
  obtain rfl : k = l := same.1
  obtain rfl : w = v := same.value_eq other
  exact there

/-- The list of critical labels spells labels that were there before. -/
theorem ListsOwn.of_respells {e e' : Label × Value} (r : b.Respells b') (same : SameParameter e e')
    (own : b.ListsOwn e.2) : b'.ListsOwn e'.2 := by
  obtain ⟨xs, list, nonempty, all⟩ := own
  have own : ∃ ys, e'.2 = .list ys ∧ List.Forall₂ Value.Respells xs ys := by
    rcases same.2 with equal | ⟨-, zs, ys, list', list'', each⟩
    · exact ⟨xs, equal ▸ list, List.forall₂_same.mpr fun x _ => .inl rfl⟩
    · cases list.symm.trans list'
      exact ⟨ys, list'', each⟩
  obtain ⟨ys, list', each⟩ := own
  refine ⟨ys, list', ?_, fun y hy => ?_⟩
  · rintro rfl
    exact nonempty (List.forall₂_nil_right_iff.mp each)
  · obtain ⟨x, hx, respelled⟩ := Forall₂.exists_left each hy
    obtain ⟨l, there, spelled⟩ := all x hx
    refine ⟨l, r.mem_labels_iff.mpr there, ?_⟩
    rcases respelled with rfl | ⟨k, first, second⟩
    · exact spelled
    · rw [second, ← first, spelled]

/-- **The spellings of labels leave no trace**: setting parameters under other spellings comes to
the same. -/
theorem update_congr (b : Bucket) {ps qs : List (Value × Value)}
    (same : List.Forall₂ (fun p q => Label.ofValue p.1 = Label.ofValue q.1 ∧ p.2 = q.2) ps qs) :
    b.update (ps.map .ok) = b.update (qs.map .ok) := by
  induction same generalizing b with
  | nil => rfl
  | @cons p q ps qs first _ ih =>
    have set : b.set p.1 p.2 = b.set q.1 q.2 := by rw [Bucket.set, Bucket.set, first.1, first.2]
    rw [List.map_cons, List.map_cons, update, update, set]
    split
    · exact ih _
    · rfl

end Bucket

namespace Layer

variable {h h' : Layer}

theorem Sided.of_respells (sided : h.Sided) (prot : h.prot.Respells h'.prot)
    (unprot : h.unprot.Respells h'.unprot) : h'.Sided :=
  ⟨prot.isProtected.trans sided.isProtected, unprot.isProtected.trans sided.isUnprotected⟩

/-- **The rules are kept by other orders and spellings.** -/
theorem Obeys.of_respells (obeys : h.Obeys) (prot : h.prot.Respells h'.prot)
    (unprot : h.unprot.Respells h'.unprot) : h'.Obeys := by
  have holds {l : Label} {v : Value} (other : l ≠ .crit) (there : h'.Holds l v) : h.Holds l v :=
    there.imp (prot.mem_of_mem other) (unprot.mem_of_mem other)
  have names {l : Label} : h'.Names l ↔ h.Names l :=
    or_congr prot.mem_labels_iff unprot.mem_labels_iff
  refine ⟨fun v there => obeys.algorithm v (holds (by decide) there), ?_, fun v mem => ?_,
    fun v there => obeys.contentType v (holds (by decide) there), fun l hl v there => ?_,
    fun l mem => ?_, ?_⟩
  · rw [unprot.mem_labels_iff]
    exact obeys.criticalPlace
  · obtain ⟨⟨l, w⟩, there, same⟩ := prot.back _ mem
    obtain rfl : l = .crit := same.1
    exact (obeys.critical w there).of_respells prot same
  · have other : l ≠ .crit := by
      rintro rfl
      exact absurd hl (by decide)
    exact obeys.bytes l hl v (holds other there)
  · rw [unprot.mem_labels_iff]
    exact obeys.disjoint l (prot.mem_labels_iff.mp mem)
  · rw [names, names]
    exact obeys.vectors

end Layer

end Cose
