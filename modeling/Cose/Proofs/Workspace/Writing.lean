import Cose.Proofs.Workspace.Store
import Mathlib.Data.List.Induction
import Mathlib.Logic.Function.Basic

/-!
# Writing messages with several signers

The parts of a message may be shared: layers may have a bucket in common, and a message may list an
entry twice. When it is written, what is read afterwards is what was written, as long as all that is
written to one bucket agrees: then there is a plan, which has one bucket for each place. An entry that
is listed twice has what was written last. A protected bucket that takes the place of another gets a
cell that no other entry has.

## Main definitions

* `Store.Fits`: a plan has what is written for a layer
* `Store.Advances`, `Store.Stays`: buckets were written as a plan has them, and stay so
* `Store.Reached`: some entries of a message were written
* `Store.LastListed`, `Store.ListsOnce`: how a message lists its entries

## Main results

* `Store.Reached.writeEntry`, `Store.Reached.writeEntries`: one entry is written, and a list of them
* `Store.read_write`: what is read of a message that was written
-/

namespace Cose.Workspace.Store

variable {s t u : Store} {r p q : Ref} {c : Cell} {b old : Bucket} {l : LayerRef} {h : Layer}

/-! ## Plans -/

/-- **A plan has what is written for a layer**: its two buckets, unless the protected one takes the
place of what is there, and of what is planned to be there. -/
structure Fits (plan : Ref → Option Bucket) (s : Store) (l : LayerRef) (h : Layer) : Prop where
  apart : l.prot ≠ l.unprot
  exists_unprot : ∃ b, s.cells[l.unprot]? = some (.bucket b)
  unprot : plan l.unprot = some h.unprot
  prot : ∃ b, s.cells[l.prot]? = some (.bucket b) ∧
    (isReplaced b h.prot = false ∧ plan l.prot = some h.prot ∨
      isReplaced b h.prot = true ∧ ∀ b', plan l.prot = some b' → isReplaced b' h.prot = true)

/-- Buckets were written as a plan has them; there may be new cells. -/
structure Advances (plan : Ref → Option Bucket) (s t : Store) : Prop where
  size_le : s.cells.size ≤ t.cells.size
  bucket {p : Ref} {b : Bucket} (there : s.cells[p]? = some (.bucket b)) :
    t.cells[p]? = some (.bucket b) ∨ ∃ b', plan p = some b' ∧ t.cells[p]? = some (.bucket b')

/-- The bucket at a place is one that stays there. -/
structure Stays (plan : Ref → Option Bucket) (t : Store) (p : Ref) (b : Bucket) : Prop where
  there : t.cells[p]? = some (.bucket b)
  planned {b' : Bucket} (h : plan p = some b') : b' = b

variable {plan : Ref → Option Bucket}

theorem Advances.refl (plan : Ref → Option Bucket) (s : Store) : Advances plan s s :=
  ⟨Nat.le_refl _, .inl⟩

theorem Advances.exists_bucket (h : Advances plan s t) (there : s.cells[p]? = some (.bucket b)) :
    ∃ b', t.cells[p]? = some (.bucket b') := by
  rcases h.bucket there with there | ⟨b', -, there⟩
  · exact ⟨b, there⟩
  · exact ⟨b', there⟩

/-- What is planned for a place is kept where it is written, however the store advances. -/
theorem Stays.of_bucket (stays : Stays plan s p b)
    (bucket : t.cells[p]? = some (.bucket b) ∨
      ∃ b', plan p = some b' ∧ t.cells[p]? = some (.bucket b')) : Stays plan t p b := by
  rcases bucket with there | ⟨b', planned, there⟩
  · exact ⟨there, stays.planned⟩
  · exact ⟨stays.planned planned ▸ there, stays.planned⟩

theorem Fits.of_advances (fits : Fits plan s l h) (advances : Advances plan s t) :
    Fits plan t l h := by
  obtain ⟨b, unprot⟩ := fits.exists_unprot
  obtain ⟨old, prot, which⟩ := fits.prot
  refine ⟨fits.apart, advances.exists_bucket unprot, fits.unprot, ?_⟩
  rcases advances.bucket prot with there | ⟨b', planned, there⟩
  · exact ⟨old, there, which⟩
  · refine ⟨b', there, which.imp (fun ⟨_, fits⟩ => ⟨?_, fits⟩) fun ⟨_, fits⟩ =>
      ⟨fits b' planned, fits⟩⟩
    rw [Option.some.inj (planned.symm.trans fits), isReplaced_self]

/-- Writing a layer that a plan fits advances the store, and what is written stays. -/
theorem Fits.writeLayer (fits : Fits plan s l h)
    (bounded : ∀ p b, plan p = some b → p < s.cells.size) :
    ∃ t l', s.writeLayer l h = (t, l') ∧ LayerWritten s l h t l' ∧ Advances plan s t ∧
      Stays plan t l'.prot h.prot ∧ Stays plan t l'.unprot h.unprot := by
  obtain ⟨b, unprot⟩ := fits.exists_unprot
  obtain ⟨old, prot, which⟩ := fits.prot
  obtain ⟨t, l', written_eq, written, place⟩ := writeLayer_cases prot unprot fits.apart h
  have stays : Stays plan t l'.prot h.prot ∧
      (l'.prot < s.cells.size → plan l'.prot = some h.prot) := by
    rcases which with ⟨kept, planned⟩ | ⟨replaced, -⟩
    · rw [kept] at place
      have place : l'.prot = l.prot := place
      exact ⟨⟨written.prot, fun h => Option.some.inj (h.symm.trans (place ▸ planned))⟩,
        fun _ => place ▸ planned⟩
    · rw [if_pos replaced] at place
      have new : ¬ l'.prot < s.cells.size := place ▸ Nat.lt_irrefl _
      exact ⟨⟨written.prot, fun h => absurd (bounded _ _ h) new⟩, fun inside => absurd inside new⟩
  refine ⟨t, l', written_eq, written, ⟨written.size_le, fun {p b} there => ?_⟩, stays.1, ?_⟩
  · have inside := lt_of_cells there
    by_cases same : p = l'.prot
    · exact .inr ⟨_, same ▸ stays.2 (same ▸ inside), same ▸ written.prot⟩
    by_cases same' : p = l.unprot
    · exact .inr ⟨_, same' ▸ fits.unprot, same' ▸ written.unprot⟩
    exact .inl ((written.frame inside same same').trans there)
  · rw [written.unprot_eq]
    exact ⟨written.unprot, fun h => Option.some.inj (h.symm.trans fits.unprot)⟩

/-! ## Entries -/

/-- Some entries of a message were written: those that are done have what was written last. An
entry has the unprotected bucket that it had, and the protected one that it had or one in a new cell,
which no other entry of the message has. -/
structure Reached (plan : Ref → Option Bucket) (s : Store) (places : List Ref)
    (done : Ref → Option Entry) (t : Store) : Prop where
  advances : Advances plan s t
  frame {q : Ref} {c : Cell} (there : s.cells[q]? = some c) (other : ∀ b, c ≠ .bucket b)
    (out : q ∉ places) : t.cells[q]? = some c
  entry {r : Ref} {l : LayerRef} {v : Value} (mem : r ∈ places)
    (there : s.cells[r]? = some (.entry l v)) :
    ∃ p v', t.cells[r]? = some (.entry ⟨p, l.unprot⟩ v') ∧
      (p = l.prot ∨ s.cells.size ≤ p) ∧ (∃ b, t.cells[p]? = some (.bucket b)) ∧
      ∀ e, done r = some e → v' = e.signature ∧ Stays plan t p e.prot ∧
        Stays plan t l.unprot e.unprot
  apart {r r' : Ref} {l l' : LayerRef} {v v' : Value} (mem : r ∈ places) (mem' : r' ∈ places)
    (there : t.cells[r]? = some (.entry l v)) (there' : t.cells[r']? = some (.entry l' v'))
    (fresh : s.cells.size ≤ l.prot) (same : l'.prot = l.prot) : r' = r

/-- What is left where an entry is written back. -/
structure EntryWritten (plan : Ref → Option Bucket) (s : Store) (places : List Ref) (t : Store)
    (r : Ref) (l : LayerRef) (e : Entry) (u : Store) (p : Ref) : Prop where
  entry : u.cells[r]? = some (.entry ⟨p, l.unprot⟩ e.signature)
  prot : u.cells[p]? = some (.bucket e.prot)
  unprot : u.cells[l.unprot]? = some (.bucket e.unprot)
  size_le : t.cells.size ≤ u.cells.size
  place : p = l.prot ∧ plan p = some e.prot ∨ s.cells.size ≤ p ∧ ∀ r' ∈ places, r' ≠ r →
    ∀ l' v', t.cells[r']? = some (.entry l' v') → l'.prot ≠ p
  frame {q : Ref} (there : q < t.cells.size) (entry : q ≠ r) (prot : q ≠ p)
    (unprot : q ≠ l.unprot) : u.cells[q]? = t.cells[q]?

section Entries

variable {places : List Ref} {done : Ref → Option Entry} {e : Entry} {v : Value}
  (sound : ∀ r ∈ places, ∃ e, s.entryAt? r = some e)

include sound

/-- The buckets of an entry are there. -/
theorem exists_layer (mem : r ∈ places) (there : s.cells[r]? = some (.entry l v)) :
    ∃ h : Layer, s.cells[l.prot]? = some (.bucket h.prot) ∧
      s.cells[l.unprot]? = some (.bucket h.unprot) := by
  obtain ⟨e, read⟩ := sound r mem
  obtain ⟨l₀, there₀, layer⟩ := entryAt?_eq_some.mp read
  cases there.symm.trans there₀
  exact ⟨e.toLayer, layerAt?_eq_some.mp layer⟩

theorem Reached.start (plan : Ref → Option Bucket) : Reached plan s places (fun _ => none) s where
  advances := .refl plan s
  frame there _ _ := there
  entry {r l v} mem there := by
    obtain ⟨h, prot, -⟩ := exists_layer sound mem there
    exact ⟨l.prot, v, there, .inl rfl, ⟨_, prot⟩, nofun⟩
  apart {r r' l l' v v'} mem _ there _ fresh _ := by
    obtain ⟨h, prot, -⟩ := exists_layer sound mem there
    exact absurd (lt_of_cells prot) (Nat.not_lt.mpr fresh)

/-- The protected bucket of an entry is in the store. -/
theorem Reached.prot_lt (reached : Reached plan s places done t) (mem : r ∈ places)
    (at_r : t.cells[r]? = some (.entry l v)) : l.prot < t.cells.size := by
  obtain ⟨e, read⟩ := sound r mem
  obtain ⟨l₀, there, -⟩ := entryAt?_eq_some.mp read
  obtain ⟨p, v', at_r', -, ⟨b, bucket⟩, -⟩ := reached.entry mem there
  cases at_r.symm.trans at_r'
  exact lt_of_cells bucket

/-- Writing an entry: its protected bucket stays where it was, or gets a cell of its own. -/
theorem Reached.exists_entryWritten (reached : Reached plan s places done t) (mem : r ∈ places)
    (there : s.cells[r]? = some (.entry l v)) (fits : Fits plan s l e.toLayer) :
    ∃ p, EntryWritten plan s places t r l e (t.writeEntry r e) p := by
  obtain ⟨p, v', at_r, own, ⟨old, prot⟩, -⟩ := reached.entry mem there
  have inside : l.unprot < s.cells.size := by
    obtain ⟨b, unprot⟩ := fits.exists_unprot
    exact lt_of_cells unprot
  have fits := fits.of_advances reached.advances
  obtain ⟨b, unprot⟩ := fits.exists_unprot
  have apart : p ≠ l.unprot := by
    rcases own with rfl | fresh
    · exact fits.apart
    · exact Nat.ne_of_gt (Nat.lt_of_lt_of_le inside fresh)
  obtain ⟨u, l', written_eq, written, place⟩ :=
    @writeLayer_cases t b old ⟨p, l.unprot⟩ prot unprot apart e.toLayer
  obtain ⟨p', q'⟩ := l'
  obtain rfl : q' = l.unprot := written.unprot_eq
  have place : p' = if isReplaced old e.prot then t.cells.size else p := place
  have same : t.writeEntry r e = u.set r (.entry ⟨p', l.unprot⟩ e.signature) := by
    rw [writeEntry, at_r]
    simp only [written_eq]
  have other_prot : p' ≠ r := written.prot_ne prot at_r (by simp)
  have other_unprot : l.unprot ≠ r := ne_of_bucket unprot at_r (by simp)
  refine ⟨p', ?_⟩
  rw [same]
  refine ⟨cells_set_self (Nat.lt_of_lt_of_le (lt_of_cells at_r) written.size_le), ?_, ?_, ?_, ?_, ?_⟩
  · rw [cells_set_ne other_prot, written.prot]
  · rw [cells_set_ne other_unprot, written.unprot]
  · rw [size_set]
    exact written.size_le
  · -- A new cell lies behind the buckets of all entries; an old one is as planned, or its own.
    by_cases replaced : isReplaced old e.prot = true
    · rw [if_pos replaced] at place
      refine .inr ⟨place ▸ reached.advances.size_le, fun r' mem' _ l' v' at_r' same => ?_⟩
      exact absurd (reached.prot_lt sound mem' at_r') (same.trans place ▸ Nat.lt_irrefl _)
    · rw [if_neg replaced] at place
      cases place
      rcases own with rfl | fresh
      · obtain ⟨b', prot', ⟨-, planned⟩ | ⟨replaced', -⟩⟩ := fits.prot
        · exact .inl ⟨rfl, planned⟩
        · cases prot.symm.trans prot'
          exact absurd replaced' replaced
      · exact .inr ⟨fresh, fun r' mem' other l' v' at_r' same =>
          other (reached.apart mem mem' at_r at_r' fresh same)⟩
  · intro q there other other_prot other_unprot
    rw [cells_set_ne other, written.frame there other_prot other_unprot]

omit sound in
/-- Where an entry is written, all buckets that are not its own are kept or written as planned. -/
theorem EntryWritten.bucket (h : EntryWritten plan s places t r l e u p)
    (at_r : t.cells[r]? = some (.entry ⟨q, l.unprot⟩ v)) (unprot : plan l.unprot = some e.unprot)
    {x : Ref} (there : t.cells[x]? = some (.bucket b)) (other : s.cells.size ≤ x → x ≠ p) :
    u.cells[x]? = some (.bucket b) ∨
      ∃ b', plan x = some b' ∧ u.cells[x]? = some (.bucket b') := by
  by_cases same : x = p
  · rcases h.place with ⟨-, planned⟩ | ⟨fresh, -⟩
    · exact .inr ⟨_, same ▸ planned, same ▸ h.prot⟩
    · exact absurd same (other (same ▸ fresh))
  by_cases same' : x = l.unprot
  · exact .inr ⟨_, same' ▸ unprot, same' ▸ h.unprot⟩
  have not_entry : x ≠ r := ne_of_bucket there at_r (by simp)
  exact .inl ((h.frame (lt_of_cells there) not_entry same same').trans there)

omit sound in
/-- Where an entry is written, all cells that hold something else are kept. -/
theorem EntryWritten.other (h : EntryWritten plan s places t r l e u p)
    (fits : Fits plan t l e.toLayer) (inside : q < s.cells.size) (there : t.cells[q]? = some c)
    (other : ∀ b, c ≠ .bucket b) (apart : q ≠ r) : u.cells[q]? = some c := by
  obtain ⟨b, prot, -⟩ := fits.prot
  obtain ⟨b', unprot⟩ := fits.exists_unprot
  have not_prot : q ≠ p := by
    rcases h.place with ⟨rfl, -⟩ | ⟨fresh, -⟩
    · exact (ne_of_bucket prot there other).symm
    · exact Nat.ne_of_lt (Nat.lt_of_lt_of_le inside fresh)
  rw [h.frame (lt_of_cells there) apart not_prot (ne_of_bucket unprot there other).symm, there]

omit sound in
/-- A bucket in a new cell is that of no entry but its own. -/
theorem EntryWritten.ne_of_fresh (h : EntryWritten plan s places t r l e u p)
    (prot_lt : l.prot < s.cells.size) {r' : Ref} {l' : LayerRef} (mem' : r' ∈ places)
    (other : r' ≠ r) (at_r' : t.cells[r']? = some (.entry l' v)) (fresh : s.cells.size ≤ l'.prot) :
    l'.prot ≠ p := by
  rcases h.place with ⟨rfl, -⟩ | ⟨-, alone⟩
  · exact Nat.ne_of_gt (Nat.lt_of_lt_of_le prot_lt fresh)
  · exact alone r' mem' other l' v at_r'

omit sound in
/-- Where an entry is written, the store advances. -/
theorem EntryWritten.advances (h : EntryWritten plan s places t r l e u p)
    (advances : Advances plan s t) (at_r : t.cells[r]? = some (.entry ⟨q, l.unprot⟩ v))
    (unprot : plan l.unprot = some e.unprot) : Advances plan s u := by
  refine ⟨Nat.le_trans advances.size_le h.size_le, fun {x b} bucket => ?_⟩
  have old : s.cells.size ≤ x → x ≠ p := fun fresh =>
    absurd (lt_of_cells bucket) (Nat.not_lt.mpr fresh)
  rcases advances.bucket bucket with kept | ⟨b', planned, kept⟩
  · exact h.bucket at_r unprot kept old
  · rcases h.bucket at_r unprot kept old with kept | planned'
    · exact .inr ⟨b', planned, kept⟩
    · exact .inr planned'

omit sound in
/-- What is written for an entry stays. -/
theorem EntryWritten.stays (h : EntryWritten plan s places t r l e u p)
    (bounded : ∀ p b, plan p = some b → p < s.cells.size)
    (unprot : plan l.unprot = some e.unprot) :
    Stays plan u p e.prot ∧ Stays plan u l.unprot e.unprot := by
  refine ⟨⟨h.prot, fun {b'} planned => ?_⟩, h.unprot, fun {b'} planned => ?_⟩
  · rcases h.place with ⟨-, planned'⟩ | ⟨fresh, -⟩
    · exact Option.some.inj (planned.symm.trans planned')
    · exact absurd (bounded p b' planned) (Nat.not_lt.mpr fresh)
  · exact Option.some.inj (planned.symm.trans unprot)

/-- An entry that is done is read as it was written. -/
theorem Reached.entryAt?_of_done (reached : Reached plan s places done t) (mem : r ∈ places)
    (last : done r = some e) : t.entryAt? r = some e := by
  obtain ⟨_, before⟩ := sound r mem
  obtain ⟨l, entry, -⟩ := entryAt?_eq_some.mp before
  obtain ⟨q, v, at_r, -, -, stays⟩ := reached.entry mem entry
  obtain ⟨rfl, prot, unprot⟩ := stays e last
  exact entryAt?_eq_some.mpr ⟨_, at_r, layerAt?_eq_some.mpr ⟨prot.there, unprot.there⟩⟩

variable (bounded : ∀ p b, plan p = some b → p < s.cells.size)

include bounded

/-- **One more entry is written.** -/
theorem Reached.writeEntry (reached : Reached plan s places done t) (mem : r ∈ places)
    (there : s.cells[r]? = some (.entry l v)) (fits : Fits plan s l e.toLayer) :
    Reached plan s places (Function.update done r (some e)) (t.writeEntry r e) := by
  obtain ⟨p, written⟩ := reached.exists_entryWritten sound mem there fits
  obtain ⟨_, _, at_r, _⟩ := reached.entry mem there
  have fits_t := fits.of_advances reached.advances
  have prot_lt : l.prot < s.cells.size := by
    obtain ⟨b, prot, -⟩ := fits.prot
    exact lt_of_cells prot
  have entry_eq {r' : Ref} (mem' : r' ∈ places) (other : r' ≠ r) :
      (t.writeEntry r e).cells[r']? = t.cells[r']? := by
    obtain ⟨e', read⟩ := sound r' mem'
    obtain ⟨l', there', -⟩ := entryAt?_eq_some.mp read
    obtain ⟨p', v', at_r', -⟩ := reached.entry mem' there'
    rw [written.other fits_t (lt_of_cells there') at_r' nofun other, at_r']
  refine ⟨written.advances reached.advances at_r fits.unprot, ?_, ?_, ?_⟩
  · intro q c there' other out
    exact written.other fits_t (lt_of_cells there') (reached.frame there' other out) other
      (ne_of_mem_of_not_mem mem out).symm
  · intro r' l' v' mem' there'
    by_cases same : r' = r
    · subst same
      cases there.symm.trans there'
      refine ⟨p, _, written.entry, written.place.imp And.left And.left, ⟨_, written.prot⟩, ?_⟩
      intro e' last
      rw [Function.update_self] at last
      cases last
      exact ⟨rfl, written.stays bounded fits.unprot⟩
    · obtain ⟨p', v'', at_r', own, ⟨b, prot⟩, stay⟩ := reached.entry mem' there'
      have apart : s.cells.size ≤ p' → p' ≠ p := written.ne_of_fresh prot_lt mem' same at_r'
      refine ⟨p', v'', (entry_eq mem' same).trans at_r', own, ?_, fun e' last => ?_⟩
      · rcases written.bucket at_r fits.unprot prot apart with kept | ⟨b', -, kept⟩
        · exact ⟨b, kept⟩
        · exact ⟨b', kept⟩
      rw [Function.update_of_ne same] at last
      obtain ⟨signature, stays, stays'⟩ := stay e' last
      obtain ⟨h, -, unprot⟩ := exists_layer sound mem' there'
      exact ⟨signature, stays.of_bucket (written.bucket at_r fits.unprot stays.there apart),
        stays'.of_bucket (written.bucket at_r fits.unprot stays'.there fun fresh =>
          absurd (lt_of_cells unprot) (Nat.not_lt.mpr fresh))⟩
  · intro r₁ r₂ l₁ l₂ v₁ v₂ mem₁ mem₂ at₁ at₂ fresh same
    -- The one that was just written has a bucket that no other entry had before.
    by_cases first : r₁ = r
    · by_cases second : r₂ = r
      · rw [first, second]
      rw [entry_eq mem₂ second] at at₂
      subst first
      cases written.entry.symm.trans at₁
      exact absurd same (written.ne_of_fresh prot_lt mem₂ second at₂ (same ▸ fresh))
    · rw [entry_eq mem₁ first] at at₁
      by_cases second : r₂ = r
      · subst second
        cases written.entry.symm.trans at₂
        exact absurd same.symm (written.ne_of_fresh prot_lt mem₁ first at₁ fresh)
      · rw [entry_eq mem₂ second] at at₂
        exact reached.apart mem₁ mem₂ at₁ at₂ fresh same

/-- What was written last at each place, after what was done before. -/
def lastWritten (pairs : List (Ref × Entry)) (done : Ref → Option Entry) : Ref → Option Entry :=
  pairs.foldl (fun done x => Function.update done x.1 (some x.2)) done

/-- **Entries are written in order**: each has what was written last for it. -/
theorem Reached.writeEntries {pairs : List (Ref × Entry)} (reached : Reached plan s places done t)
    (fits : ∀ x ∈ pairs, x.1 ∈ places ∧
      ∃ l v, s.cells[x.1]? = some (.entry l v) ∧ Fits plan s l x.2.toLayer) :
    Reached plan s places (lastWritten pairs done) (t.writeEntries pairs) := by
  induction pairs generalizing t done with
  | nil => exact reached
  | cons x pairs ih =>
    rw [List.forall_mem_cons] at fits
    obtain ⟨⟨mem, l, v, there, fits_x⟩, fits⟩ := fits
    exact ih (reached.writeEntry sound bounded mem there fits_x) fits

end Entries

/-! ## The entries of a message -/

/-- The last place at which a message lists the entry that it lists at a place. -/
structure LastListed (s : Store) (r : Ref) (i j : Nat) : Prop where
  same : s.follow? r [.entry j] = s.follow? r [.entry i]
  last (k : Nat) (behind : j < k) : s.follow? r [.entry k] ≠ s.follow? r [.entry i]

/-- A message that lists no entry twice. -/
def ListsOnce (s : Store) (r : Ref) : Prop :=
  ∀ i j, (s.follow? r [.entry i]).isSome = true → s.follow? r [.entry j] = s.follow? r [.entry i] →
    j = i

/-- What a message lists once it lists last where it is. -/
theorem ListsOnce.lastListed {i : Nat} (once : s.ListsOnce r)
    (there : (s.follow? r [.entry i]).isSome = true) : s.LastListed r i i :=
  ⟨rfl, fun k behind same => absurd (once i k there same) (Nat.ne_of_gt behind)⟩

theorem follow?_entry {payload : Value} {places : List Ref} {state : State}
    (there : s.cells[r]? = some (.sign l payload places state)) (i : Nat) :
    s.follow? r [.entry i] = places[i]? := by
  simp only [follow?, there, Cell.part?, Option.bind_eq_bind, Option.bind_some]
  exact Option.bind_fun_some _

/-- A message lists no entry twice if its places have no repetition. -/
theorem listsOnce_of_nodup {payload : Value} {places : List Ref} {state : State}
    (there : s.cells[r]? = some (.sign l payload places state)) (nodup : places.Nodup) :
    s.ListsOnce r := by
  intro i j listed same
  rw [follow?_entry there] at listed same
  rw [follow?_entry there] at same
  exact ((List.getElem?_inj (by simpa using listed) nodup).mp same.symm).symm

/-- The last of several pairs with one place is what counts for the place. -/
theorem exists_lastWritten {pairs : List (Ref × Entry)} {e : Entry} (mem : (r, e) ∈ pairs)
    (done : Ref → Option Entry) :
    ∃ (j : Nat) (e : Entry), pairs[j]? = some (r, e) ∧
      (∀ (k : Nat) (e' : Entry), j < k → pairs[k]? ≠ some (r, e')) ∧
      lastWritten pairs done r = some e := by
  induction pairs using List.reverseRecOn generalizing e with
  | nil => cases mem
  | append_singleton pairs x ih =>
    rw [lastWritten, List.foldl_append, List.foldl_cons, List.foldl_nil, ← lastWritten]
    by_cases same : x.1 = r
    · subst same
      refine ⟨pairs.length, x.2, by simp, fun k e' behind => ?_, Function.update_self ..⟩
      rw [List.getElem?_eq_none (by rw [List.length_append]; exact behind)]
      exact nofun
    · have mem : (r, e) ∈ pairs := by
        rcases List.mem_append.mp mem with mem | mem
        · exact mem
        · exact absurd (List.mem_singleton.mp mem ▸ rfl) same
      obtain ⟨j, e', at_j, last, found⟩ := ih mem
      have inside := (List.getElem?_eq_some_iff.mp at_j).1
      refine ⟨j, e', ?_, fun k e'' behind at_k => ?_, ?_⟩
      · rw [List.getElem?_append_left inside, at_j]
      · rcases Nat.lt_or_ge k pairs.length with inside | outside
        · rw [List.getElem?_append_left inside] at at_k
          exact last k e'' behind at_k
        · rw [List.getElem?_append_right outside] at at_k
          have only := List.mem_of_getElem? at_k
          exact same (List.mem_singleton.mp only ▸ rfl)
      · rw [Function.update_of_ne (Ne.symm same), found]

/-- A message is written before its entries: then it has its own layer, and the entries are as they
were. -/
theorem exists_body_written {m m' : Sign} {places : List Ref}
    (there : s.cells[r]? = some (.sign l m.payload places m.state))
    (layer : s.layerAt? l = some m.toLayer) (fits : Fits plan s l m'.toLayer)
    (bounded : ∀ p b, plan p = some b → p < s.cells.size) :
    ∃ t l', s.write r (.sign m') = t.writeEntries (places.zip m'.entries) ∧
      t.cells[r]? = some (.sign l' m'.payload places m'.state) ∧ Advances plan s t ∧
      Stays plan t l'.prot m'.prot ∧ Stays plan t l'.unprot m'.unprot ∧
      ∀ (p : Ref) (l : LayerRef) (v : Value), s.cells[p]? = some (.entry l v) →
        t.cells[p]? = some (.entry l v) := by
  obtain ⟨t, l', body_eq, body, advances, stays_prot, stays_unprot⟩ := fits.writeLayer bounded
  obtain ⟨prot, unprot⟩ := layerAt?_eq_some.mp layer
  have inside := lt_of_cells there
  have not_prot : l'.prot ≠ r := body.prot_ne prot there (by simp)
  have not_unprot : l'.unprot ≠ r := body.unprot_eq ▸ ne_of_bucket unprot there (by simp)
  refine ⟨t.set r (.sign l' m'.payload places m'.state), l', ?_, ?_, ?_, ?_, ?_, ?_⟩
  · simp only [write, there, body_eq]
  · exact cells_set_self (Nat.lt_of_lt_of_le inside body.size_le)
  · refine ⟨by simpa using body.size_le, fun {p b} bucket => ?_⟩
    rw [cells_set_ne (ne_of_bucket bucket there (by simp))]
    exact advances.bucket bucket
  · exact ⟨(cells_set_ne not_prot).trans stays_prot.there, stays_prot.planned⟩
  · exact ⟨(cells_set_ne not_unprot).trans stays_unprot.there, stays_unprot.planned⟩
  · intro p l₀ v entry
    have other : p ≠ r := by
      rintro rfl
      cases entry.symm.trans there
    rw [cells_set_ne other, body.frame (lt_of_cells entry) (body.prot_ne prot entry (by simp)).symm
      (ne_of_bucket unprot entry (by simp)).symm, entry]

/-- The pair that was written last for a place is that of the last place where a message lists it. -/
theorem exists_lastListed {payload : Value} {places : List Ref} {state : State} {es : List Entry}
    {i : Nat} (there : s.cells[r]? = some (.sign l payload places state))
    (count : es.length = places.length) (at_i : places[i]? = some p) :
    ∃ j e, s.LastListed r i j ∧ es[j]? = some e ∧
      lastWritten (places.zip es) (fun _ => none) p = some e := by
  have pair {k : Nat} (at_k : places[k]? = some p) : ∃ e, (places.zip es)[k]? = some (p, e) := by
    have inside : k < es.length := count ▸ (List.getElem?_eq_some_iff.mp at_k).1
    exact ⟨_, List.getElem?_zip_eq_some.mpr ⟨at_k, List.getElem?_eq_getElem inside⟩⟩
  obtain ⟨_, pair_i⟩ := pair at_i
  obtain ⟨j, e, at_j, last, done⟩ := exists_lastWritten (List.mem_of_getElem? pair_i) fun _ => none
  obtain ⟨place, new⟩ := List.getElem?_zip_eq_some.mp at_j
  refine ⟨j, e, ⟨?_, fun k behind same => ?_⟩, new, done⟩
  · rw [follow?_entry there, follow?_entry there, place, at_i]
  · rw [follow?_entry there, follow?_entry there, at_i] at same
    obtain ⟨e', pair_k⟩ := pair same
    exact last k e' behind pair_k

/-- **What is read of a message that was written**: the same entries in the same order, and in each
what was written at the last place where it is listed. -/
theorem read_write {m : Sign} (m' : Sign) (read : s.read? r = some (.sign m))
    (count : m'.entries.length = m.entries.length)
    (bounded : ∀ p b, plan p = some b → p < s.cells.size)
    (fits : ∀ l, s.layerAt? l = some m.toLayer → Fits plan s l m'.toLayer)
    (fits_entry : ∀ (i : Nat) (e e' : Entry) (l : LayerRef), m.entries[i]? = some e →
      m'.entries[i]? = some e' → s.layerAt? l = some e.toLayer → Fits plan s l e'.toLayer) :
    ∃ entries, (s.write r (.sign m')).read? r = some (.sign { m' with entries }) ∧
      (∀ i, (s.write r (.sign m')).follow? r [.entry i] = s.follow? r [.entry i]) ∧
      entries.length = m.entries.length ∧
      ∀ i < m.entries.length, ∃ j, s.LastListed r i j ∧ entries[i]? = m'.entries[j]? := by
  obtain ⟨l, places, there, layer, all⟩ := read?_eq_sign.mp read
  obtain ⟨s', l', written, here, advances, stays_prot, stays_unprot, kept⟩ :=
    exists_body_written there layer (fits l layer) bounded
  have bounded' : ∀ p b, plan p = some b → p < s'.cells.size := fun p b planned =>
    Nat.lt_of_lt_of_le (bounded p b planned) advances.size_le
  have sound : ∀ p ∈ places, ∃ e, s'.entryAt? p = some e := by
    intro p mem
    obtain ⟨i, at_i⟩ := List.getElem?_of_mem mem
    obtain ⟨e, -, read⟩ := Forall₂.exists_getElem? all at_i
    obtain ⟨l₀, entry, layer⟩ := entryAt?_eq_some.mp read
    obtain ⟨prot, unprot⟩ := layerAt?_eq_some.mp layer
    obtain ⟨b, prot⟩ := advances.exists_bucket prot
    obtain ⟨b', unprot⟩ := advances.exists_bucket unprot
    exact ⟨⟨⟨b, b'⟩, e.signature⟩, entryAt?_eq_some.mpr
      ⟨l₀, kept _ _ _ entry, layerAt?_eq_some.mpr ⟨prot, unprot⟩⟩⟩
  have pairs_fit : ∀ x ∈ places.zip m'.entries, x.1 ∈ places ∧
      ∃ l v, s'.cells[x.1]? = some (.entry l v) ∧ Fits plan s' l x.2.toLayer := by
    intro x mem
    obtain ⟨i, at_i⟩ := List.getElem?_of_mem mem
    obtain ⟨place, new⟩ := List.getElem?_zip_eq_some.mp at_i
    obtain ⟨e, at_e, read⟩ := Forall₂.exists_getElem? all place
    obtain ⟨l₀, entry, layer⟩ := entryAt?_eq_some.mp read
    exact ⟨List.mem_of_getElem? place, l₀, _, kept _ _ _ entry,
      (fits_entry i e x.2 l₀ at_e new layer).of_advances advances⟩
  have reached := (Reached.start sound plan).writeEntries sound bounded' pairs_fit
  rw [← written] at reached
  have there' : (s.write r (.sign m')).cells[r]? = some (.sign l' m'.payload places m'.state) := by
    refine reached.frame here nofun fun mem => ?_
    obtain ⟨e, read⟩ := sound r mem
    obtain ⟨l₀, entry, -⟩ := entryAt?_eq_some.mp read
    cases here.symm.trans entry
  -- The message is written before its entries, so they are read back from the last store.
  have entry_last {i : Nat} {p : Ref} (at_i : places[i]? = some p) : ∃ j e, s.LastListed r i j ∧
      m'.entries[j]? = some e ∧ (s.write r (.sign m')).entryAt? p = some e := by
    obtain ⟨j, e, last, new, done⟩ := exists_lastListed there (count.trans all.length_eq.symm) at_i
    exact ⟨j, e, last, new, reached.entryAt?_of_done sound (List.mem_of_getElem? at_i) done⟩
  have readable : ∀ p ∈ places, ∃ e, (s.write r (.sign m')).entryAt? p = some e := by
    intro p mem
    obtain ⟨i, at_i⟩ := List.getElem?_of_mem mem
    obtain ⟨j, e, -, -, read⟩ := entry_last at_i
    exact ⟨e, read⟩
  obtain ⟨entries, all'⟩ := Forall₂.exists_of_forall readable
  have layer' : (s.write r (.sign m')).layerAt? l' = some m'.toLayer :=
    layerAt?_eq_some.mpr ⟨(stays_prot.of_bucket (reached.advances.bucket stays_prot.there)).there,
      (stays_unprot.of_bucket (reached.advances.bucket stays_unprot.there)).there⟩
  refine ⟨entries, read?_eq_sign.mpr ⟨l', places, there', layer', all'⟩, fun i => ?_, ?_,
    fun i inside => ?_⟩
  · rw [follow?_entry there', follow?_entry there]
  · rw [← all'.length_eq, all.length_eq]
  · rw [← all.length_eq] at inside
    have at_i := List.getElem?_eq_getElem inside
    obtain ⟨j, e, last, new, read⟩ := entry_last at_i
    obtain ⟨e', at_i', read'⟩ := Forall₂.exists_getElem? all' at_i
    cases read.symm.trans read'
    exact ⟨j, last, at_i'.trans new.symm⟩

end Cose.Workspace.Store
