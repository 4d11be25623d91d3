import Cose.Proofs.Header.Agreement
import Cose.Proofs.Header.Spelling
import Mathlib.Data.Finmap

/-!
# Buckets simulate finite maps

A bucket that is not finalized behaves as a plain finite map from labels to values. Whatever spells
a label addresses one place of the map: its integer, its text, or its alias. An edit changes the map
at that place or is refused, and what is refused changes nothing; so the value that is read is the
one that the latest edit of the place has written.

## Main definitions

* `Edit`, `Bucket.edit`, `Bucket.edited`: setting and erasing a parameter, one by one and in order
* `Table`, `Bucket.table`: plain finite maps, and the one that a bucket stands for
* `Edit.Performs`, `Edit.Runs`: what edits do to a plain finite map

## Main results

* `Bucket.Editable.performs_iff`: an edit of a bucket succeeds exactly if it can be performed on the
  map
* `Bucket.Editable.runs`: edits in order
* `Bucket.Editable.lookup_edited_iff`: what is read was written last
* `Bucket.finite_map`: buckets that are made from other data
-/

namespace Cose

/-! ## Edits -/

/-- **An edit of a bucket**: a parameter is set or erased, by any spelling of its label, or the
algorithm or the key identifier is assigned. -/
inductive Edit where
  | set (label value : Value)
  | erase (label : Value)
  | setAlgorithm (alg : Value)
  | setKid (kid : Value)

namespace Edit

/-- An edit writes a value for a label. -/
inductive Writes : Edit → Label → Value → Prop
  | set {label value w : Value} {l : Label} (spells : label.Spells l) (stores : l.Stores value w) :
      Writes (.set label value) l w
  | setAlgorithm {alg w : Value} (stores : Label.alg.Stores alg w) :
      Writes (.setAlgorithm alg) .alg w
  | setKid (kid : Value) : Writes (.setKid kid) .kid kid

/-- An edit erases a label. -/
inductive Erases : Edit → Label → Prop
  | erase {label : Value} {l : Label} (spells : label.Spells l) : Erases (.erase label) l

/-- An edit that writes or erases a label touches it. -/
def Touches (e : Edit) (l : Label) : Prop :=
  (∃ w, e.Writes l w) ∨ e.Erases l

theorem Writes.unique {e : Edit} {l : Label} {w w' : Value} (h : e.Writes l w)
    (h' : e.Writes l w') : w = w' := by
  cases h with
  | set _ stores =>
    cases h' with
    | set _ stores' => exact stores.unique stores'
  | setAlgorithm stores =>
    cases h' with
    | setAlgorithm stores' => exact stores.unique stores'
  | setKid =>
    cases h' with
    | setKid => rfl

theorem Erases.not_writes {e : Edit} {l l' : Label} {w : Value} (h : e.Erases l) :
    ¬ e.Writes l' w := by
  intro h'
  cases h
  cases h'

/-- An edit touches one label at most. -/
theorem Touches.unique {e : Edit} {l l' : Label} (h : e.Touches l) (h' : e.Touches l') :
    l = l' := by
  rcases h with ⟨w, writes⟩ | erases
  · rcases h' with ⟨w', writes'⟩ | erases'
    · cases writes with
      | set spells =>
        cases writes' with
        | set spells' => exact spells.unique spells'
      | setAlgorithm =>
        cases writes'
        rfl
      | setKid =>
        cases writes'
        rfl
    · exact absurd writes erases'.not_writes
  · rcases h' with ⟨w', writes'⟩ | erases'
    · exact absurd writes' erases.not_writes
    · cases erases with
      | erase spells =>
        cases erases' with
        | erase spells' => exact spells.unique spells'

/-- The last of some edits to touch a label writes a value for it. -/
def WritesLast (es : List Edit) (l : Label) (w : Value) : Prop :=
  ∃ before e after, es = before ++ e :: after ∧ e.Writes l w ∧ ∀ o ∈ after, ¬ o.Touches l

theorem not_writesLast_nil {l : Label} {w : Value} : ¬ WritesLast [] l w := by
  rintro ⟨before, e, after, split, -⟩
  cases before <;> cases split

theorem writesLast_cons {e : Edit} {es : List Edit} {l : Label} {w : Value} :
    WritesLast (e :: es) l w ↔
      WritesLast es l w ∨ e.Writes l w ∧ ∀ o ∈ es, ¬ o.Touches l := by
  constructor
  · rintro ⟨before, e', after, split, writes, untouched⟩
    cases before with
    | nil =>
      cases split
      exact .inr ⟨writes, untouched⟩
    | cons o before =>
      cases split
      exact .inl ⟨before, e', after, rfl, writes, untouched⟩
  · rintro (⟨before, e', after, rfl, writes, untouched⟩ | ⟨writes, untouched⟩)
    · exact ⟨e :: before, e', after, rfl, writes, untouched⟩
    · exact ⟨[], e, es, rfl, writes, untouched⟩

/-- The edit that sets a parameter of a listing. -/
def assign (p : Value × Value) : Edit :=
  .set p.1 p.2

/-- The bucket after an edit. -/
def applyTo : Edit → Bucket → Except Error Bucket
  | .set label value, b => b.set label value
  | .erase label, b => b.erase label
  | .setAlgorithm alg, b => b.setAlgorithm alg
  | .setKid kid, b => b.setKid kid

end Edit

namespace Bucket

/-- An edit of a bucket as a step. -/
def edit (b : Bucket) (e : Edit) : Step Bucket Unit :=
  .ofExcept b ((e.applyTo b).map (·, ()))

/-- The bucket after edits in order, also after those that fail. -/
def edited (b : Bucket) (es : List Edit) : Bucket :=
  es.foldl (fun b e => (b.edit e).after) b

end Bucket

/-- A source lists parameters as pairs of labels and values, in order; one that counts as absent
lists none. -/
def Source.Lists (s : Source) (pairs : List (Value × Value)) : Prop :=
  s.isTruthy = false ∧ pairs = [] ∨ s.isTruthy = true ∧ s.parameters = .ok (pairs.map .ok)

/-- A plain finite map from labels to values. -/
abbrev Table := Finmap fun _ : Label => Value

/-- The finite map that a bucket stands for. -/
def Bucket.table (b : Bucket) : Table :=
  (b.entries.map fun e => (⟨e.1, e.2⟩ : Σ _ : Label, Value)).toFinmap

namespace Edit

/-- What an edit does to a finite map. A label is erased only if it is there. -/
inductive Performs : Edit → Table → Table → Prop
  | write {e : Edit} {l : Label} {w : Value} {t : Table} (writes : e.Writes l w) :
      Performs e t (t.insert l w)
  | erase {e : Edit} {l : Label} {t : Table} (erases : e.Erases l) (there : l ∈ t) :
      Performs e t (t.erase l)

/-- What edits in order do to a finite map. Those that cannot be performed are left out. -/
inductive Runs : List Edit → Table → Table → Prop
  | nil (t : Table) : Runs [] t t
  | performed {e : Edit} {es : List Edit} {t u v : Table} (first : e.Performs t u)
      (rest : Runs es u v) : Runs (e :: es) t v
  | refused {e : Edit} {es : List Edit} {t v : Table} (first : ∀ u, ¬ e.Performs t u)
      (rest : Runs es t v) : Runs (e :: es) t v

end Edit

/-! ## Entries and tables -/

section Entries

variable {l k : Label} {v : Value} {es : List (Label × Value)}

theorem lookup_entry (k l : Label) (v : Value) (es : List (Label × Value)) :
    ((l, v) :: es).lookup k = if k = l then some v else es.lookup k := by
  rw [List.lookup_cons]
  by_cases same : k = l
  · simp [same]
  · rw [if_neg same, beq_eq_false_iff_ne.mpr same]

theorem lookup_storeEntry_of_ne (other : k ≠ l) : (storeEntry l v es).lookup k = es.lookup k := by
  induction es with
  | nil => simp [storeEntry, lookup_entry, other]
  | cons e es ih =>
    obtain ⟨k', w⟩ := e
    rw [storeEntry]
    split
    · next same => simp [lookup_entry, same, other]
    · rw [lookup_entry, lookup_entry, ih]

theorem lookup_eraseEntry_of_ne (other : k ≠ l) : (eraseEntry l es).lookup k = es.lookup k := by
  induction es with
  | nil => rfl
  | cons e es ih =>
    obtain ⟨k', w⟩ := e
    rw [eraseEntry]
    split
    · next same => simp [lookup_entry, same, other]
    · rw [lookup_entry, lookup_entry, ih]

/-- Of distinct labels the one that is erased is gone. -/
theorem lookup_eraseEntry (nodup : (es.map Prod.fst).Nodup) :
    (eraseEntry l es).lookup l = none := by
  induction es with
  | nil => rfl
  | cons e es ih =>
    obtain ⟨k', w⟩ := e
    obtain ⟨fresh, nodup⟩ := List.nodup_cons.mp nodup
    rw [eraseEntry]
    split
    · next same =>
      subst same
      have missing := (Bucket.find?_eq_none_iff (b := { isProtected := true, entries := es })).mpr fresh
      exact missing
    · next apart => rw [lookup_entry, if_neg (Ne.symm apart), ih nodup]

end Entries

namespace Bucket

variable {b b' : Bucket} {l : Label} {v : Value}

@[simp] theorem lookup_table (b : Bucket) (l : Label) : b.table.lookup l = b.find? l := by
  rw [table, Finmap.dlookup_list_toFinmap, find?]
  induction b.entries with
  | nil => rfl
  | cons e es ih =>
    obtain ⟨k, w⟩ := e
    by_cases same : l = k
    · subst same
      rw [List.map_cons, List.dlookup_cons_eq, lookup_entry, if_pos rfl]
    · rw [List.map_cons, List.dlookup_cons_ne _ _ same, lookup_entry, if_neg same, ih]

theorem mem_table_iff : l ∈ b.table ↔ l ∈ b.labels := by
  rw [← Finmap.lookup_isSome, lookup_table, ← has_iff, has]

/-- The number of parameters is the number of labels. -/
theorem Labelled.size_eq (h : b.Labelled) : b.size = b.table.keys.card := by
  have keys : b.table.keys = b.labels.toFinset := by
    ext l
    rw [Finmap.mem_keys, mem_table_iff, List.mem_toFinset]
  rw [keys, List.toFinset_card_of_nodup h.nodup, labels, List.length_map, size]

theorem table_store (b : Bucket) (l : Label) (v : Value) :
    (b.store l v).table = b.table.insert l v := by
  apply Finmap.ext_lookup
  intro k
  rw [lookup_table, find?, store]
  by_cases same : k = l
  · subst same
    rw [Finmap.lookup_insert, lookup_storeEntry]
  · rw [Finmap.lookup_insert_of_ne _ same, lookup_storeEntry_of_ne same, lookup_table, find?]

theorem Labelled.table_eraseEntry (h : b.Labelled) (l : Label) :
    ({ b with entries := eraseEntry l b.entries } : Bucket).table = b.table.erase l := by
  apply Finmap.ext_lookup
  intro k
  rw [lookup_table, find?]
  by_cases same : k = l
  · subst same
    rw [Finmap.lookup_erase]
    exact lookup_eraseEntry h.nodup
  · rw [Finmap.lookup_erase_ne same, lookup_eraseEntry_of_ne same, lookup_table, find?]

/-! ## One edit -/

theorem checkMutable_of_unfixed (unfixed : b.fixed = none) : b.checkMutable = .ok () := by
  rw [checkMutable, isFinalized_eq, unfixed]
  rfl

theorem set_eq_ok_iff (unfixed : b.fixed = none) {label value : Value} :
    b.set label value = .ok b' ↔
      ∃ l w, label.Spells l ∧ l.Stores value w ∧ b' = b.store l w := by
  constructor
  · intro done
    obtain ⟨-, l, w, spelled, rfl, stored⟩ := set_cases done
    refine ⟨l, w, Label.ofValue_eq_ok_iff.mp spelled, ?_, rfl⟩
    rcases stored with ⟨rfl, normal⟩ | ⟨other, rfl⟩
    · exact normalizeAlgorithm_eq_ok_iff.mp normal
    · exact .other other _
  · rintro ⟨l, w, spells, stores, rfl⟩
    rw [set, checkMutable_of_unfixed unfixed, Except.ok_bind, Label.ofValue_eq_ok_iff.mpr spells,
      Except.ok_bind]
    split
    · next isAlg =>
      subst isAlg
      rw [normalizeAlgorithm_eq_ok_iff.mpr stores]
      rfl
    · next other =>
      cases stores with
      | other => rfl
      | _ => exact absurd rfl other

theorem erase_eq_ok_iff (unfixed : b.fixed = none) {label : Value} :
    b.erase label = .ok b' ↔ ∃ l, label.Spells l ∧ b.has l = true ∧
      b' = { b with entries := eraseEntry l b.entries } := by
  rw [erase, checkMutable_of_unfixed unfixed, Except.ok_bind, Except.bind_eq_ok]
  simp only [Label.ofValue_eq_ok_iff]
  refine exists_congr fun l => and_congr_right fun _ => ?_
  split
  · next there => simp [there, eq_comm]
  · next missing => simp [missing]

/-- What an edit makes of a bucket. -/
theorem Editable.applyTo_eq_ok_iff (h : b.Editable) {e : Edit} :
    e.applyTo b = .ok b' ↔ (∃ l w, e.Writes l w ∧ b' = b.store l w) ∨
      ∃ l, e.Erases l ∧ l ∈ b.table ∧ b' = { b with entries := eraseEntry l b.entries } := by
  cases e with
  | set label value =>
    rw [Edit.applyTo, set_eq_ok_iff h.unfixed]
    constructor
    · rintro ⟨l, w, spells, stores, rfl⟩
      exact .inl ⟨l, w, .set spells stores, rfl⟩
    · rintro (⟨l, w, ⟨spells, stores⟩, rfl⟩ | ⟨l, erases, -⟩)
      · exact ⟨l, w, spells, stores, rfl⟩
      · cases erases
  | erase label =>
    rw [Edit.applyTo, erase_eq_ok_iff h.unfixed]
    simp only [has_iff, ← mem_table_iff]
    constructor
    · rintro ⟨l, spells, there, rfl⟩
      exact .inr ⟨l, .erase spells, there, rfl⟩
    · rintro (⟨l, w, writes, -⟩ | ⟨l, ⟨spells⟩, there, rfl⟩)
      · cases writes
      · exact ⟨l, spells, there, rfl⟩
  | setAlgorithm alg =>
    rw [Edit.applyTo, setAlgorithm, set_eq_ok_iff h.unfixed]
    constructor
    · rintro ⟨l, w, spells, stores, rfl⟩
      cases spells
      exact .inl ⟨_, w, .setAlgorithm stores, rfl⟩
    · rintro (⟨l, w, writes, rfl⟩ | ⟨l, erases, -⟩)
      · cases writes with
        | setAlgorithm stores => exact ⟨_, w, .int 1, stores, rfl⟩
      · cases erases
  | setKid kid =>
    rw [Edit.applyTo, setKid, set_eq_ok_iff h.unfixed]
    constructor
    · rintro ⟨l, w, spells, stores, rfl⟩
      cases spells
      cases stores with
      | other other => exact .inl ⟨_, kid, .setKid kid, rfl⟩
    · rintro (⟨l, w, ⟨⟩, rfl⟩ | ⟨l, erases, -⟩)
      · exact ⟨_, kid, .int 4, .other (by decide) kid, rfl⟩
      · cases erases

theorem Editable.applyTo (h : b.Editable) {e : Edit} (done : e.applyTo b = .ok b') :
    b'.Editable := by
  constructor
  · cases e with
    | set | setAlgorithm | setKid => exact h.labelled.set done
    | erase => exact h.labelled.erase done
  · rcases h.applyTo_eq_ok_iff.mp done with ⟨l, w, -, rfl⟩ | ⟨l, -, -, rfl⟩
    · exact h.unfixed
    · exact h.unfixed

/-- An edit that succeeds does to the finite map what it does to a plain one. -/
theorem Editable.performs_of_applyTo (h : b.Editable) {e : Edit} (done : e.applyTo b = .ok b') :
    e.Performs b.table b'.table := by
  rcases h.applyTo_eq_ok_iff.mp done with ⟨l, w, writes, rfl⟩ | ⟨l, erases, there, rfl⟩
  · rw [table_store]
    exact .write writes
  · rw [h.labelled.table_eraseEntry]
    exact .erase erases there

/-- An edit that can be performed succeeds, and there is no other outcome. -/
theorem Editable.applyTo_of_performs (h : b.Editable) {e : Edit} {t : Table}
    (performs : e.Performs b.table t) : ∃ b', e.applyTo b = .ok b' ∧ b'.table = t := by
  cases performs with
  | write writes =>
    exact ⟨_, h.applyTo_eq_ok_iff.mpr (.inl ⟨_, _, writes, rfl⟩), table_store b _ _⟩
  | erase erases there =>
    exact ⟨_, h.applyTo_eq_ok_iff.mpr (.inr ⟨_, erases, there, rfl⟩),
      h.labelled.table_eraseEntry _⟩

theorem edit_of_ok {e : Edit} (done : e.applyTo b = .ok b') : b.edit e = ⟨b', .ok (), []⟩ := by
  rw [edit, done]
  rfl

theorem edit_of_error {e : Edit} {err : Error} (failed : e.applyTo b = .error err) :
    b.edit e = .fail b err := by
  rw [edit, failed]
  rfl

theorem Editable.edit (h : b.Editable) (e : Edit) : (b.edit e).after.Editable := by
  cases done : e.applyTo b with
  | error err => rwa [edit_of_error done]
  | ok b' =>
    rw [edit_of_ok done]
    exact h.applyTo done

/-- **A bucket and a plain finite map agree on an edit**: it succeeds exactly if it can be
performed. -/
theorem Editable.performs_iff (h : b.Editable) {e : Edit} {t : Table} :
    e.Performs b.table t ↔ (b.edit e).result = .ok () ∧ (b.edit e).after.table = t := by
  constructor
  · intro performs
    obtain ⟨b', done, rfl⟩ := h.applyTo_of_performs performs
    rw [edit_of_ok done]
    exact ⟨rfl, rfl⟩
  · rintro ⟨succeeds, rfl⟩
    cases done : e.applyTo b with
    | error err =>
      rw [edit_of_error done] at succeeds
      cases succeeds
    | ok b' =>
      rw [edit_of_ok done]
      exact h.performs_of_applyTo done

/-- An edit that fails changes nothing. -/
theorem after_of_edit_error {e : Edit} {err : Error} (failed : (b.edit e).result = .error err) :
    (b.edit e).after = b := by
  cases done : e.applyTo b with
  | error err => rw [edit_of_error done, Step.fail_after]
  | ok b' =>
    rw [edit_of_ok done] at failed
    cases failed

/-! ## Edits in order -/

@[simp] theorem edited_nil (b : Bucket) : b.edited [] = b := rfl

theorem edited_cons (b : Bucket) (e : Edit) (es : List Edit) :
    b.edited (e :: es) = (b.edit e).after.edited es := rfl

theorem edited_append (b : Bucket) (es fs : List Edit) :
    b.edited (es ++ fs) = (b.edited es).edited fs :=
  List.foldl_append

theorem Editable.edited (h : b.Editable) (es : List Edit) : (b.edited es).Editable := by
  induction es generalizing b with
  | nil => exact h
  | cons e es ih => exact ih (h.edit e)

/-- **A bucket simulates a plain finite map** through edits in order. -/
theorem Editable.runs (h : b.Editable) (es : List Edit) :
    Edit.Runs es b.table (b.edited es).table := by
  induction es generalizing b with
  | nil => exact .nil _
  | cons e es ih =>
    rw [edited_cons]
    have rest := ih (h.edit e)
    cases done : e.applyTo b with
    | ok b' =>
      rw [edit_of_ok done] at rest ⊢
      exact .performed (h.performs_of_applyTo done) rest
    | error err =>
      rw [edit_of_error done] at rest ⊢
      refine .refused (fun t performs => ?_) rest
      obtain ⟨b', done', -⟩ := h.applyTo_of_performs performs
      cases done.symm.trans done'

/-! ## What was written last -/

/-- What is read after an edit was written by it, or was there and is not touched. -/
theorem Editable.lookup_edit_iff (h : b.Editable) {e : Edit} :
    (b.edit e).after.table.lookup l = some v ↔
      e.Writes l v ∨ b.table.lookup l = some v ∧ ¬ e.Touches l := by
  cases done : e.applyTo b with
  | error err =>
    rw [edit_of_error done, Step.fail_after]
    have idle (t : Table) : ¬ e.Performs b.table t := by
      intro performs
      obtain ⟨b', done', -⟩ := h.applyTo_of_performs performs
      cases done.symm.trans done'
    constructor
    · intro there
      refine .inr ⟨there, ?_⟩
      rintro (⟨w, writes⟩ | erases)
      · exact idle _ (.write writes)
      · exact idle _ (.erase erases (Finmap.mem_of_lookup_eq_some there))
    · rintro (writes | ⟨there, -⟩)
      · exact absurd (.write writes) (idle _)
      · exact there
  | ok b' =>
    rw [edit_of_ok done]
    have elsewhere (untouched : ¬ e.Touches l) : b.table.lookup l = some v ↔
        e.Writes l v ∨ b.table.lookup l = some v ∧ ¬ e.Touches l := by
      have unwritten : ¬ e.Writes l v := fun writes => untouched (.inl ⟨v, writes⟩)
      simp only [unwritten, untouched, not_false_eq_true, and_true, false_or]
    rcases h.applyTo_eq_ok_iff.mp done with ⟨k, w, writes, rfl⟩ | ⟨k, erases, -, rfl⟩
    · rw [table_store]
      by_cases same : l = k
      · subst same
        rw [Finmap.lookup_insert, Option.some.injEq]
        constructor
        · rintro rfl
          exact .inl writes
        · rintro (writes' | ⟨-, untouched⟩)
          · exact writes.unique writes'
          · exact absurd (.inl ⟨w, writes⟩) untouched
      · rw [Finmap.lookup_insert_of_ne _ same]
        exact elsewhere fun touches => same (touches.unique (.inl ⟨w, writes⟩))
    · rw [h.labelled.table_eraseEntry]
      by_cases same : l = k
      · subst same
        rw [Finmap.lookup_erase]
        constructor
        · rintro ⟨⟩
        · rintro (writes | ⟨-, untouched⟩)
          · exact absurd writes erases.not_writes
          · exact absurd (.inr erases) untouched
      · rw [Finmap.lookup_erase_ne same]
        exact elsewhere fun touches => same (touches.unique (.inr erases))

/-- **What is read after edits in order** was written by the last one to touch the label, or was
there and is not touched. -/
theorem Editable.lookup_edited_iff (h : b.Editable) {es : List Edit} :
    (b.edited es).table.lookup l = some v ↔
      Edit.WritesLast es l v ∨ b.table.lookup l = some v ∧ ∀ e ∈ es, ¬ e.Touches l := by
  induction es generalizing b with
  | nil => simp [Edit.not_writesLast_nil]
  | cons e es ih =>
    rw [edited_cons, ih (h.edit e), h.lookup_edit_iff, Edit.writesLast_cons, List.forall_mem_cons]
    tauto

/-! ## Buckets from other data -/

theorem editable_empty (isProtected : Bool) : Editable { isProtected := isProtected } :=
  ⟨labelled_empty isProtected none, rfl⟩

/-- An update that succeeds sets the pairs that it is given, in order. -/
theorem Editable.update_eq_ok (h : b.Editable) {ps : List (Except Error (Value × Value))}
    (done : b.update ps = (b', .ok ())) :
    ∃ pairs : List (Value × Value), ps = pairs.map .ok ∧ b' = b.edited (pairs.map .assign) ∧
      ∀ p ∈ pairs, ∃ l w, (Edit.assign p).Writes l w := by
  induction ps generalizing b with
  | nil =>
    cases done
    exact ⟨[], rfl, rfl, fun p hp => by cases hp⟩
  | cons p ps ih =>
    rcases p with e | ⟨label, value⟩
    · cases done
    rw [update] at done
    split at done
    · next first set =>
      have stored : (Edit.set label value).applyTo b = .ok first := set
      obtain ⟨pairs, rfl, rfl, writes⟩ := ih (h.applyTo stored) done
      refine ⟨(label, value) :: pairs, rfl, ?_, ?_⟩
      · rw [List.map_cons, edited_cons, Edit.assign, edit_of_ok stored]
      · obtain ⟨l, w, spells, stores, -⟩ := (set_eq_ok_iff h.unfixed).mp set
        exact List.forall_mem_cons.mpr ⟨⟨l, w, .set spells stores⟩, writes⟩
    · cases done

/-- A bucket that is made from other data is the empty one with the listed pairs set. -/
theorem edited_of_ofSource {s : Source} {isProtected : Bool}
    (made : ofSource isProtected s = .ok b) :
    ∃ pairs, s.Lists pairs ∧ b = edited { isProtected := isProtected } (pairs.map .assign) ∧
      ∀ p ∈ pairs, ∃ l w, (Edit.assign p).Writes l w := by
  rw [ofSource] at made
  split at made
  · next present =>
    split at made
    · next done =>
      cases made
      rw [updateFrom] at done
      split at done
      · next ps listed =>
        obtain ⟨pairs, rfl, eq, writes⟩ := (editable_empty isProtected).update_eq_ok done
        exact ⟨pairs, .inr ⟨present, listed⟩, eq, writes⟩
      · cases done
    · cases made
  · next absent =>
    cases made
    exact ⟨[], .inl ⟨by simpa using absent, rfl⟩, rfl, fun p hp => by cases hp⟩

/-! ## Reading -/

theorem contains_of_spells {label : Value} (spells : label.Spells l) :
    b.contains label = (b.table.lookup l).isSome := by
  rw [contains, Label.ofValue_eq_ok_iff.mpr spells, lookup_table]
  rfl

theorem get_of_spells {label : Value} (spells : label.Spells l) :
    b.get label = (b.table.lookup l).elim (.error (.fault .missingKey)) .ok := by
  rw [get, Label.ofValue_eq_ok_iff.mpr spells, Except.ok_bind, lookup_table]
  cases b.find? l <;> rfl

/-- What spells no label is not there, and reading it is an error about the label. -/
theorem get_of_not_spells {label : Value} (other : ∀ l, ¬ label.Spells l) :
    b.contains label = false ∧ ∃ fault, b.get label = .error (.header fault) := by
  cases label with
  | int n => exact absurd (.int n) (other _)
  | text s => exact absurd (Label.ofValue_eq_ok_iff.mp rfl) (other (.ofText s))
  | _ => exact ⟨rfl, _, rfl⟩

/-- Every spelling of a label addresses the same parameter. -/
theorem edit_congr {label label' : Value} (spells : label.Spells l) (spells' : label'.Spells l) :
    b.edit (.erase label) = b.edit (.erase label') ∧
      ∀ value, b.edit (.set label value) = b.edit (.set label' value) := by
  have same : Label.ofValue label = Label.ofValue label' :=
    (Label.ofValue_eq_ok_iff.mpr spells).trans (Label.ofValue_eq_ok_iff.mpr spells').symm
  simp only [edit, Edit.applyTo, erase, set, same, implies_true, and_self]

/-- **A bucket is a finite map** over labels. Whatever it is made from and however it is edited, its
labels are canonical and distinct, all spellings of a label address one parameter, what is read was
written last, and edits do to it what they do to a plain finite map, or fail and change nothing. -/
theorem finite_map {s : Source} {isProtected : Bool} (made : ofSource isProtected s = .ok b)
    (ops : List Edit) :
    ∃ pairs, s.Lists pairs ∧ (∀ p ∈ pairs, ∃ l w, (Edit.assign p).Writes l w) ∧
      let history := pairs.map .assign ++ ops
      let t := b.edited ops
      t = edited { isProtected := isProtected } history ∧ t.labels.Nodup ∧
      (∀ l ∈ t.labels,
        (∃ n, l = .int n) ∨ ∃ s, l = .text s ∧ s ∉ Label.common.map Prod.fst) ∧
      t.size = t.table.keys.card ∧
      (∀ label l, label.Spells l → t.contains label = (t.table.lookup l).isSome ∧
        t.get label = (t.table.lookup l).elim (.error (.fault .missingKey)) .ok) ∧
      (∀ label, (∀ l, ¬ label.Spells l) → t.contains label = false ∧
        ∃ fault, t.get label = .error (.header fault)) ∧
      (∀ label label' l, label.Spells l → label'.Spells l →
        t.edit (.erase label) = t.edit (.erase label') ∧
        ∀ value, t.edit (.set label value) = t.edit (.set label' value)) ∧
      (∀ l w, t.table.lookup l = some w ↔ Edit.WritesLast history l w) ∧
      Edit.Runs history ∅ t.table ∧
      (∀ e u, e.Performs t.table u ↔
        (t.edit e).result = .ok () ∧ (t.edit e).after.table = u) ∧
      (∀ e err, (t.edit e).result = .error err → (t.edit e).after = t) := by
  obtain ⟨pairs, lists, rfl, writes⟩ := edited_of_ofSource made
  have fresh := editable_empty isProtected
  have reached := (fresh.edited (pairs.map .assign)).edited ops
  refine ⟨pairs, lists, writes, (edited_append _ _ _).symm, reached.labelled.nodup, ?_,
    reached.labelled.size_eq, ?_, ?_, ?_, ?_, ?_, ?_, ?_⟩
  · intro l hl
    exact (reached.labelled.canonical l hl).cases
  · intro label l spells
    exact ⟨contains_of_spells spells, get_of_spells spells⟩
  · intro label other
    exact get_of_not_spells other
  · intro label label' l spells spells'
    exact edit_congr spells spells'
  · intro l w
    rw [← edited_append, fresh.lookup_edited_iff]
    have empty : (Bucket.table { isProtected := isProtected }).lookup l = none := rfl
    rw [empty]
    simp
  · rw [← edited_append]
    exact fresh.runs _
  · intro e u
    exact reached.performs_iff
  · intro e err failed
    exact after_of_edit_error failed

/-- The key identifier set by its alias is read by its integer, also when the algorithm, which was
given by its alias, is erased by its integer after. -/
theorem finite_map_aliases :
    let ops : List Edit := [.set (.text "kid") (.bytes [1]), .erase (.int 1)]
    ∃ b, ofSource true (.value (.map [(.text "alg", .text "ES256")])) = .ok b ∧
      (b.edited ops).get (.int 4) = .ok (.bytes [1]) := by
  intro ops
  refine ⟨_, rfl, ?_⟩
  obtain ⟨pairs, -, -, -, -, -, -, reads, -, -, latest, -⟩ :=
    @finite_map _ (.value (.map [(.text "alg", .text "ES256")])) true rfl ops
  have kid : (Value.text "kid").Spells .kid := .common (by decide)
  have untouched : ∀ o ∈ [Edit.erase (.int 1)], ¬ o.Touches .kid := by
    intro o ho touches
    cases List.mem_singleton.mp ho
    cases touches.unique (.inr (.erase (.int 1)))
  have written := (latest .kid (.bytes [1])).mpr
    ⟨pairs.map .assign, _, _, rfl, .set kid (.other (by decide) _), untouched⟩
  rw [(reads (.int 4) .kid (.int 4)).2, written]
  rfl

end Bucket

end Cose
