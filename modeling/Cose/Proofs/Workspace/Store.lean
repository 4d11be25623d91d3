import Cose.Proofs.Except
import Cose.Workspace.Store

/-!
# Objects in a store

An object is read from the cells of its parts. Writing it back as it was read changes nothing, and an
object with two buckets that stand at two places is read as it was written.

## Main results

* `Store.read?_eq_sign`: what is read of a message with several signers
* `Store.write_of_read`: what is written back as it was read changes nothing
* `Store.writeLayer_cases`: writing the buckets of a layer
* `Store.read_write_sign1`, `Store.read_write_mac0`: what was written is read back
-/

namespace Cose.Workspace

/-- A list of lookups finds something exactly if all do. -/
theorem mapM_eq_some {α β : Type} {f : α → Option β} {xs : List α} {ys : List β} :
    xs.mapM f = some ys ↔ List.Forall₂ (fun x y => f x = some y) xs ys := by
  induction xs generalizing ys with
  | nil => simp [eq_comm]
  | cons x xs ih =>
    simp only [List.mapM_cons, Option.bind_eq_bind, Option.bind_eq_some_iff, Option.pure_def,
      Option.some.injEq]
    constructor
    · rintro ⟨y, here, zs, others, rfl⟩
      exact .cons here (ih.mp others)
    · rintro (_ | ⟨here, others⟩)
      exact ⟨_, here, _, ih.mpr others, rfl⟩

namespace Store

variable {s t u : Store} {r p q : Ref} {c : Cell} {b old : Bucket} {l : LayerRef} {h : Layer}

/-! ## Cells -/

theorem lt_of_cells (there : s.cells[q]? = some c) : q < s.cells.size :=
  (Array.getElem?_eq_some_iff.mp there).1

@[simp] theorem size_set : (s.set r c).cells.size = s.cells.size :=
  Array.size_setIfInBounds

theorem cells_set_self (there : r < s.cells.size) : (s.set r c).cells[r]? = some c := by
  rw [set, Array.getElem?_setIfInBounds_self_of_lt there]

theorem cells_set_ne (apart : q ≠ r) : (s.set r c).cells[q]? = s.cells[q]? :=
  Array.getElem?_setIfInBounds_ne apart.symm

/-- A cell that is written as it is changes nothing. -/
theorem set_of_cells (there : s.cells[r]? = some c) : s.set r c = s := by
  have same : s.cells.setIfInBounds r c = s.cells := by
    refine Array.ext_getElem? fun q => ?_
    by_cases place : q = r
    · rw [place, there]
      exact cells_set_self (lt_of_cells there)
    · exact cells_set_ne place
  rw [set, same]

@[simp] theorem size_alloc : (s.alloc c).1.cells.size = s.cells.size + 1 :=
  Array.size_push ..

theorem cells_alloc_self : (s.alloc c).1.cells[s.cells.size]? = some c := by
  rw [alloc, Array.getElem?_push_size]

theorem cells_alloc_lt (there : q < s.cells.size) : (s.alloc c).1.cells[q]? = s.cells[q]? :=
  (Array.getElem?_push_lt there).trans (Array.getElem?_eq_getElem there).symm

theorem bucketAt?_eq_some : s.bucketAt? p = some b ↔ s.cells[p]? = some (.bucket b) := by
  rw [bucketAt?]
  split
  · next b' there => rw [there, Option.some.injEq, Option.some.injEq, Cell.bucket.injEq]
  · next other => exact ⟨nofun, fun there => absurd there (other b)⟩

/-- A bucket does not stand where something else does. -/
theorem ne_of_bucket (bucket : s.cells[p]? = some (.bucket b)) (there : s.cells[q]? = some c)
    (other : ∀ b, c ≠ .bucket b) : p ≠ q := by
  rintro rfl
  exact other b (Option.some.inj (there.symm.trans bucket))

/-! ## What is read -/

theorem layerAt?_eq_some : s.layerAt? l = some h ↔
    s.cells[l.prot]? = some (.bucket h.prot) ∧ s.cells[l.unprot]? = some (.bucket h.unprot) := by
  simp only [layerAt?, Option.pure_def, Option.bind_eq_bind, Option.bind_eq_some_iff,
    Option.some.injEq, bucketAt?_eq_some]
  constructor
  · rintro ⟨p, prot, q, unprot, rfl⟩
    exact ⟨prot, unprot⟩
  · rintro ⟨prot, unprot⟩
    exact ⟨_, prot, _, unprot, rfl⟩

theorem entryAt?_eq_some {e : Entry} : s.entryAt? r = some e ↔
    ∃ l, s.cells[r]? = some (.entry l e.signature) ∧ s.layerAt? l = some e.toLayer := by
  rw [entryAt?]
  constructor
  · intro read
    split at read
    · next l signature there =>
      obtain ⟨h, layer, ⟨⟩⟩ := Option.bind_eq_some_iff.mp read
      exact ⟨l, there, layer⟩
    · cases read
  · rintro ⟨l, there, layer⟩
    simp only [there, layer, Option.pure_def, Option.bind_eq_bind, Option.bind_some]

theorem read?_eq_sign1 {m : Sign1} : s.read? r = some (.sign1 m) ↔
    ∃ l, s.cells[r]? = some (.sign1 l m.payload m.signature m.state) ∧
      s.layerAt? l = some m.toLayer := by
  rw [read?]
  constructor
  · intro read
    split at read
    case h_4 l payload signature state there =>
      obtain ⟨h, layer, ⟨⟩⟩ := Option.bind_eq_some_iff.mp read
      exact ⟨l, there, layer⟩
    all_goals simp [Option.bind_eq_some_iff] at read
  · rintro ⟨l, there, layer⟩
    simp only [there, layer, Option.pure_def, Option.bind_eq_bind, Option.bind_some]

theorem read?_eq_mac0 {m : Mac0} : s.read? r = some (.mac0 m) ↔
    ∃ l, s.cells[r]? = some (.mac0 l m.payload m.tag m.state) ∧
      s.layerAt? l = some m.toLayer := by
  rw [read?]
  constructor
  · intro read
    split at read
    case h_5 l payload tag state there =>
      obtain ⟨h, layer, ⟨⟩⟩ := Option.bind_eq_some_iff.mp read
      exact ⟨l, there, layer⟩
    all_goals simp [Option.bind_eq_some_iff] at read
  · rintro ⟨l, there, layer⟩
    simp only [there, layer, Option.pure_def, Option.bind_eq_bind, Option.bind_some]

theorem read?_eq_sign {m : Sign} : s.read? r = some (.sign m) ↔
    ∃ l places, s.cells[r]? = some (.sign l m.payload places m.state) ∧
      s.layerAt? l = some m.toLayer ∧
      List.Forall₂ (fun place e => s.entryAt? place = some e) places m.entries := by
  rw [read?]
  constructor
  · intro read
    split at read
    case h_6 l payload places state there =>
      obtain ⟨h, layer, read⟩ := Option.bind_eq_some_iff.mp read
      obtain ⟨entries, all, ⟨⟩⟩ := Option.bind_eq_some_iff.mp read
      exact ⟨l, places, there, layer, mapM_eq_some.mp all⟩
    all_goals simp [Option.bind_eq_some_iff] at read
  · rintro ⟨l, places, there, layer, all⟩
    simp only [there, layer, mapM_eq_some.mpr all, Option.pure_def, Option.bind_eq_bind,
      Option.bind_some]

/-! ## What is written as it was read -/

@[simp] theorem isReplaced_self (b : Bucket) : isReplaced b b = false :=
  Bool.not_and_self _

theorem writeLayer_of_read (read : s.layerAt? l = some h) : s.writeLayer l h = (s, l) := by
  obtain ⟨prot, unprot⟩ := layerAt?_eq_some.mp read
  rw [writeLayer, set_of_cells unprot]
  simp only [bucketAt?_eq_some.mpr prot, isReplaced_self, set_of_cells prot]
  rfl

theorem writeEntry_of_read {e : Entry} (read : s.entryAt? r = some e) : s.writeEntry r e = s := by
  obtain ⟨l, there, layer⟩ := entryAt?_eq_some.mp read
  rw [writeEntry, there]
  simp only [writeLayer_of_read layer, set_of_cells there]

theorem writeEntries_of_read {pairs : List (Ref × Entry)}
    (read : ∀ x ∈ pairs, s.entryAt? x.1 = some x.2) : s.writeEntries pairs = s := by
  induction pairs with
  | nil => rfl
  | cons x pairs ih =>
    rw [List.forall_mem_cons] at read
    rw [writeEntries, List.foldl_cons, writeEntry_of_read read.1]
    exact ih read.2

/-- **An object that is written back as it was read changes nothing.** -/
theorem write_of_read {o : Object} (read : s.read? r = some o) : s.write r o = s := by
  have there := read
  rw [read?] at there
  split at there
  · cases there
  · next b there' =>
    cases there
    simp only [write, there', set_of_cells there']
  · next there' =>
    obtain ⟨e, entry, ⟨⟩⟩ := Option.bind_eq_some_iff.mp there
    simp only [write, there', writeEntry_of_read entry]
  · next there' =>
    obtain ⟨h, layer, ⟨⟩⟩ := Option.bind_eq_some_iff.mp there
    simp only [write, there', writeLayer_of_read layer, set_of_cells there']
  · next there' =>
    obtain ⟨h, layer, ⟨⟩⟩ := Option.bind_eq_some_iff.mp there
    simp only [write, there', writeLayer_of_read layer, set_of_cells there']
  · next there' =>
    obtain ⟨h, layer, there⟩ := Option.bind_eq_some_iff.mp there
    obtain ⟨entries, all, ⟨⟩⟩ := Option.bind_eq_some_iff.mp there
    simp only [write, there', writeLayer_of_read layer, set_of_cells there']
    exact writeEntries_of_read fun x mem =>
      List.forall₂_iff_zip.mp (mapM_eq_some.mp all) |>.2 mem

/-! ## One layer -/

/-- What is left where a layer is written back: its buckets, the protected one perhaps in a new cell,
and nothing else is another. -/
structure LayerWritten (s : Store) (l : LayerRef) (h : Layer) (t : Store) (l' : LayerRef) :
    Prop where
  unprot_eq : l'.unprot = l.unprot
  place : l'.prot = l.prot ∨ l'.prot = s.cells.size
  prot : t.cells[l'.prot]? = some (.bucket h.prot)
  unprot : t.cells[l.unprot]? = some (.bucket h.unprot)
  size_le : s.cells.size ≤ t.cells.size
  frame {q : Ref} (there : q < s.cells.size) (prot : q ≠ l'.prot) (unprot : q ≠ l.unprot) :
    t.cells[q]? = s.cells[q]?

/-- A protected bucket is written where there was one, or in a new cell. -/
theorem LayerWritten.prot_ne {l' : LayerRef} (written : LayerWritten s l h t l')
    (prot : s.cells[l.prot]? = some (.bucket b)) (there : s.cells[q]? = some c)
    (other : ∀ b, c ≠ .bucket b) : l'.prot ≠ q := by
  rcases written.place with same | fresh
  · exact same ▸ ne_of_bucket prot there other
  · exact fresh ▸ Nat.ne_of_gt (lt_of_cells there)

theorem writeLayer_cases (prot : s.cells[l.prot]? = some (.bucket old))
    (unprot : s.cells[l.unprot]? = some (.bucket b)) (apart : l.prot ≠ l.unprot) (h : Layer) :
    ∃ t l', s.writeLayer l h = (t, l') ∧ LayerWritten s l h t l' ∧
      l'.prot = if isReplaced old h.prot then s.cells.size else l.prot := by
  have there := lt_of_cells unprot
  have kept : (s.set l.unprot (.bucket h.unprot)).bucketAt? l.prot = some old :=
    bucketAt?_eq_some.mpr ((cells_set_ne apart).trans prot)
  rw [writeLayer]
  simp only [kept]
  by_cases replaced : isReplaced old h.prot = true
  · rw [if_pos replaced, if_pos replaced]
    refine ⟨_, _, rfl, ⟨rfl, .inr size_set, cells_alloc_self, ?_, ?_, fun {q} inside _ other => ?_⟩,
      size_set⟩
    · rw [cells_alloc_lt (by simpa using there), cells_set_self there]
    · simp
    · rw [cells_alloc_lt (by simpa using inside), cells_set_ne other]
  · rw [if_neg replaced, if_neg replaced]
    refine ⟨_, _, rfl, ⟨rfl, .inl rfl, ?_, ?_, ?_, fun {q} inside other other' => ?_⟩, rfl⟩
    · exact cells_set_self (by simpa using lt_of_cells prot)
    · rw [cells_set_ne apart.symm, cells_set_self there]
    · simp
    · rw [cells_set_ne other, cells_set_ne other']

/-! ## Objects with one layer -/

/-- The two buckets of a layer of the right kinds stand at two places. -/
theorem apart_of_kinds (layer : s.layerAt? l = some h) (isProtected : h.prot.isProtected = true)
    (isUnprotected : h.unprot.isProtected = false) : l.prot ≠ l.unprot := by
  obtain ⟨prot, unprot⟩ := layerAt?_eq_some.mp layer
  intro same
  have same : h.prot = h.unprot := by
    rw [same, unprot] at prot
    exact (Cell.bucket.inj (Option.some.inj prot)).symm
  rw [same, isUnprotected] at isProtected
  cases isProtected

theorem exists_layer_written (h' : Layer) (layer : s.layerAt? l = some h)
    (apart : l.prot ≠ l.unprot) (there : s.cells[r]? = some c) (other : ∀ b, c ≠ .bucket b) :
    ∃ t l', s.writeLayer l h' = (t, l') ∧ r < t.cells.size ∧
      ∀ c', (t.set r c').layerAt? l' = some h' := by
  obtain ⟨prot, unprot⟩ := layerAt?_eq_some.mp layer
  obtain ⟨t, l', written_eq, written, -⟩ := writeLayer_cases prot unprot apart h'
  refine ⟨t, l', written_eq, Nat.lt_of_lt_of_le (lt_of_cells there) written.size_le, fun c' => ?_⟩
  rw [layerAt?_eq_some, cells_set_ne (written.prot_ne prot there other), written.unprot_eq,
    cells_set_ne (ne_of_bucket unprot there other)]
  exact ⟨written.prot, written.unprot⟩

/-- **A message with one signature is read as it was written.** -/
theorem read_write_sign1 {m m' : Sign1} (read : s.read? r = some (.sign1 m))
    (isProtected : m.prot.isProtected = true) (isUnprotected : m.unprot.isProtected = false) :
    (s.write r (.sign1 m')).read? r = some (.sign1 m') := by
  obtain ⟨l, there, layer⟩ := read?_eq_sign1.mp read
  have apart := apart_of_kinds layer isProtected isUnprotected
  obtain ⟨t, l', written, inside, reads⟩ :=
    exists_layer_written m'.toLayer layer apart there nofun
  refine read?_eq_sign1.mpr ⟨l', ?_, ?_⟩ <;> simp only [write, there, written]
  · exact cells_set_self inside
  · exact reads _

/-- **A message with a tag is read as it was written.** -/
theorem read_write_mac0 {m m' : Mac0} (read : s.read? r = some (.mac0 m))
    (isProtected : m.prot.isProtected = true) (isUnprotected : m.unprot.isProtected = false) :
    (s.write r (.mac0 m')).read? r = some (.mac0 m') := by
  obtain ⟨l, there, layer⟩ := read?_eq_mac0.mp read
  have apart := apart_of_kinds layer isProtected isUnprotected
  obtain ⟨t, l', written, inside, reads⟩ :=
    exists_layer_written m'.toLayer layer apart there nofun
  refine read?_eq_mac0.mpr ⟨l', ?_, ?_⟩ <;> simp only [write, there, written]
  · exact cells_set_self inside
  · exact reads _

end Store

end Cose.Workspace
