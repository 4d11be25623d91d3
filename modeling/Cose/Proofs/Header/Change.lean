import Cose.Message.Step
import Cose.Proofs.Header.WellFormed

/-!
# Changes of buckets

A bucket is changed by setting and erasing parameters, and by the operations that are built from
these. A protected bucket whose bytes are fixed is left as it is by all of them, and says so
whenever there is a parameter that was to be set or erased.

## Main definitions

* `Bucket.Change`, `Bucket.apply`: the changes of a bucket, and what they leave
* `Bucket.Attempts`: a change that comes to set or erase a parameter
* `Bucket.Editable`, `Bucket.Fixed`: a bucket that can be edited, and a protected one with fixed
  bytes
* `Layer.Side`, `Layer.change`: a change of one of the buckets of a layer

## Main results

* `Bucket.apply_invariant`: what setting and erasing keep is kept by every change
* `Bucket.WellFormed.apply`: changes keep buckets well formed
* `Bucket.Fixed.apply_after`, `Bucket.Fixed.apply_result`: a fixed bucket is not changed
* `Layer.change_prot`, `Layer.change_refused`: the same of a layer
-/

namespace Cose

namespace Bucket

/-- **A change of a bucket.** -/
inductive Change where
  | set (label value : Value)
  | erase (label : Value)
  | pop (label : Value) (default : Option Value)
  | popFirst
  | update (source : Source)
  | clear
  | setDefault (label default : Value)

/-- What a change leaves. -/
def apply (b : Bucket) : Change → Step Bucket Unit
  | .set label value => .ofExcept b ((b.set label value).map (·, ()))
  | .erase label => .ofExcept b ((b.erase label).map (·, ()))
  | .pop label default => .ofExcept b ((b.pop label default).map fun r => (r.1, ()))
  | .popFirst => .ofExcept b (b.popFirst.map fun r => (r.1, ()))
  | .update source => ⟨(b.updateFrom source).1, (b.updateFrom source).2, []⟩
  | .clear => .ofExcept b (b.clear.map (·, ()))
  | .setDefault label default => .ofExcept b ((b.setDefault label default).map fun r => (r.1, ()))

/-- **What setting and erasing keep** is kept by every change. -/
theorem apply_invariant {P : Bucket → Prop}
    (set : ∀ {b b' label value}, P b → b.set label value = .ok b' → P b')
    (erase : ∀ {b b' label}, P b → b.erase label = .ok b' → P b')
    (clear : ∀ {b}, P b → P { b with entries := [] }) {b : Bucket} (start : P b) (c : Change) :
    P (b.apply c).after := by
  have update (ps : List (Except Error (Value × Value))) : P (b.update ps).1 := by
    induction ps generalizing b with
    | nil => exact start
    | cons p ps ih =>
      rcases p with e | ⟨label, value⟩
      · exact start
      rw [Bucket.update]
      split
      · next done => exact ih (set start done)
      · exact start
  cases c with
  | set label value =>
    rw [apply]
    rcases done : b.set label value with e | b'
    · exact start
    · exact set start done
  | erase label =>
    rw [apply]
    rcases done : b.erase label with e | b'
    · exact start
    · exact erase start done
  | pop label default =>
    rw [apply]
    rcases done : b.pop label default with e | ⟨b', v⟩
    · exact start
    · unfold Bucket.pop at done
      split at done
      · obtain ⟨c, erased, hc⟩ := Except.map_eq_ok.mp done
        cases hc
        exact erase start erased
      · cases done
        exact start
      · cases done
  | popFirst =>
    rw [apply]
    rcases done : b.popFirst with e | ⟨b', e⟩
    · exact start
    · rw [Bucket.popFirst] at done
      split at done
      · cases done
      · obtain ⟨c, erased, hc⟩ := Except.map_eq_ok.mp done
        cases hc
        exact erase start erased
  | update source =>
    rw [apply, updateFrom]
    split
    · exact update _
    · exact start
  | clear =>
    rw [apply]
    rcases done : b.clear with e | b'
    · exact start
    · rw [Bucket.clear] at done
      split at done
      · cases done
        exact start
      · obtain ⟨_, -, rfl⟩ := Except.map_eq_ok.mp done
        exact clear start
  | setDefault label default =>
    rw [apply]
    rcases done : b.setDefault label default with e | ⟨b', v⟩
    · exact start
    · unfold Bucket.setDefault at done
      split at done
      · obtain ⟨c, stored, hc⟩ := Except.map_eq_ok.mp done
        cases hc
        exact set start stored
      · cases done
      · cases done
        exact start

/-- A bucket that can be edited: its bytes are not fixed, and there is one entry for a label. -/
structure Editable (b : Bucket) : Prop where
  labelled : b.Labelled
  unfixed : b.fixed = none

/-- A bucket that can be edited stays one of its kind. -/
theorem Editable.apply {b : Bucket} (h : b.Editable) (c : Change) :
    (b.apply c).after.Editable ∧ (b.apply c).after.isProtected = b.isProtected := by
  refine apply_invariant (P := fun t => t.Editable ∧ t.isProtected = b.isProtected)
    ?_ ?_ ?_ ⟨h, rfl⟩ c
  · rintro b b' label value ⟨before, kind⟩ set
    have labelled := before.labelled.set set
    obtain ⟨-, l, v, -, rfl⟩ := set_eq_ok set
    exact ⟨⟨labelled, before.unfixed⟩, kind⟩
  · rintro b b' label ⟨before, kind⟩ erased
    have labelled := before.labelled.erase erased
    obtain ⟨-, l, -, rfl⟩ := erase_eq_ok erased
    exact ⟨⟨labelled, before.unfixed⟩, kind⟩
  · rintro b ⟨before, kind⟩
    exact ⟨⟨⟨List.nodup_nil, fun _ h => absurd h List.not_mem_nil⟩, before.unfixed⟩, kind⟩

/-- A change comes to set or erase a parameter. Taking out what is not there, reading what is
there, and updating from nothing do not come to that. -/
inductive Attempts (b : Bucket) : Change → Prop
  | set (label value : Value) : Attempts b (.set label value)
  | erase (label : Value) : Attempts b (.erase label)
  | pop {label v : Value} (default : Option Value) (there : b.get label = .ok v) :
      Attempts b (.pop label default)
  | popFirst (nonempty : b.entries ≠ []) : Attempts b .popFirst
  | update {source : Source} {label value : Value} {rest : List (Except Error (Value × Value))}
      (listed : source.parameters = .ok (.ok (label, value) :: rest)) : Attempts b (.update source)
  | clear (nonempty : b.entries ≠ []) : Attempts b .clear
  | setDefault {label : Value} (default : Value)
      (missing : b.get label = .error (.fault .missingKey)) : Attempts b (.setDefault label default)

/-- A protected bucket with fixed bytes. -/
structure Fixed (b : Bucket) : Prop where
  isProtected : b.isProtected = true
  isFinalized : b.isFinalized = true

namespace Fixed

variable {b : Bucket}

theorem of_encode {p : Bytes} (h : b.encode = .ok p) : (b.fix p).Fixed :=
  ⟨(encode_eq_ok h).1, rfl⟩

theorem encode_eq {p : Bytes} (h : b.Fixed) (fixed : b.fixed = some p) : b.encode = .ok p := by
  rw [Bucket.encode, h.isProtected, fixed]
  rfl

/-- A fixed bucket stays as it is when its bytes are fixed again. -/
theorem fixed_encode {p : Bytes} (h : b.Fixed) (encoded : b.encode = .ok p) : b.fix p = b := by
  obtain ⟨q, fixed⟩ := isFinalized_iff_exists.mp h.isFinalized
  have same : p = q := Except.ok.inj (encoded.symm.trans (h.encode_eq fixed))
  rw [same, fix_of_fixed fixed]

theorem checkMutable (h : b.Fixed) : b.checkMutable = .error (.header .finalized) := by
  rw [Bucket.checkMutable, if_pos h.isFinalized]

theorem set (h : b.Fixed) (label value : Value) :
    b.set label value = .error (.header .finalized) := by
  rw [Bucket.set, h.checkMutable]
  rfl

theorem erase (h : b.Fixed) (label : Value) : b.erase label = .error (.header .finalized) := by
  rw [Bucket.erase, h.checkMutable]
  rfl

theorem update (h : b.Fixed) (ps : List (Except Error (Value × Value))) :
    (b.update ps).1 = b := by
  cases ps with
  | nil => rfl
  | cons p ps =>
    cases p with
    | error e => rfl
    | ok p => rw [Bucket.update, h.set]

theorem updateFrom (h : b.Fixed) (s : Source) : (b.updateFrom s).1 = b := by
  rw [Bucket.updateFrom]
  split
  · exact h.update _
  · rfl

theorem pop {label v : Value} {default : Option Value} {b' : Bucket} (h : b.Fixed)
    (ok : b.pop label default = .ok (b', v)) : b' = b := by
  unfold Bucket.pop at ok
  split at ok
  · rw [h.erase] at ok
    cases ok
  · cases ok
    rfl
  · cases ok

theorem popFirst {e : Label × Value} {b' : Bucket} (h : b.Fixed)
    (ok : b.popFirst = .ok (b', e)) : b' = b := by
  rw [Bucket.popFirst] at ok
  split at ok
  · cases ok
  · rw [h.erase] at ok
    cases ok

theorem clear {b' : Bucket} (h : b.Fixed) (ok : b.clear = .ok b') : b' = b := by
  rw [Bucket.clear] at ok
  split at ok
  · cases ok
    rfl
  · rw [h.checkMutable] at ok
    cases ok

theorem setDefault {label default v : Value} {b' : Bucket} (h : b.Fixed)
    (ok : b.setDefault label default = .ok (b', v)) : b' = b := by
  unfold Bucket.setDefault at ok
  split at ok
  · rw [h.set] at ok
    cases ok
  · cases ok
  · cases ok
    rfl

/-- **A fixed bucket is left as it is** by every change. -/
theorem apply_after (h : b.Fixed) (c : Change) : (b.apply c).after = b := by
  cases c with
  | set label value => rw [apply, h.set]; rfl
  | erase label => rw [apply, h.erase]; rfl
  | pop label default =>
    rw [apply]
    rcases ok : b.pop label default with e | ⟨b', v⟩
    · rfl
    · exact h.pop ok
  | popFirst =>
    rw [apply]
    rcases ok : b.popFirst with e | ⟨b', e⟩
    · rfl
    · exact h.popFirst ok
  | update source => exact h.updateFrom source
  | clear =>
    rw [apply]
    rcases ok : b.clear with e | b'
    · rfl
    · exact h.clear ok
  | setDefault label default =>
    rw [apply]
    rcases ok : b.setDefault label default with e | ⟨b', v⟩
    · rfl
    · exact h.setDefault ok

/-- **A fixed bucket refuses** every change that comes to set or erase a parameter. -/
theorem apply_result (h : b.Fixed) {c : Change} (attempts : b.Attempts c) :
    (b.apply c).result = .error (.header .finalized) := by
  cases attempts with
  | set label value => rw [apply, h.set]; rfl
  | erase label => rw [apply, h.erase]; rfl
  | @pop label v default there =>
    have refused : b.pop label default = .error (.header .finalized) := by
      unfold Bucket.pop
      rw [there, h.erase]
      rfl
    rw [apply, refused]
    rfl
  | popFirst nonempty =>
    obtain ⟨e, es, cons⟩ := List.exists_cons_of_ne_nil nonempty
    rw [apply, Bucket.popFirst, cons]
    simp only [h.erase]
    rfl
  | update listed =>
    rw [apply, Bucket.updateFrom, listed]
    simp only [Bucket.update, h.set]
  | clear nonempty =>
    rw [apply, Bucket.clear, if_neg (by simpa using nonempty), h.checkMutable]
    rfl
  | @setDefault label default missing =>
    have refused : b.setDefault label default = .error (.header .finalized) := by
      unfold Bucket.setDefault
      rw [missing, h.set]
      rfl
    rw [apply, refused]
    rfl

end Fixed

/-! ## Well-formed buckets -/

section WellFormed

variable {b : Bucket}

theorem WellFormed.isFixed {p : Bytes} (h : b.WellFormed) (fixed : b.fixed = some p) : b.Fixed :=
  ⟨(h.fixed p fixed).1, isFinalized_iff_exists.mpr ⟨p, fixed⟩⟩

/-- **Every change keeps a bucket well formed.** -/
theorem WellFormed.apply (h : b.WellFormed) (c : Change) : (b.apply c).after.WellFormed := by
  cases fixed : b.fixed with
  | none =>
    have editable : b.Editable := ⟨h.labelled, fixed⟩
    obtain ⟨after, -⟩ := editable.apply c
    exact after.labelled.wellFormed after.unfixed
  | some p => rwa [(h.isFixed fixed).apply_after]

end WellFormed

end Bucket

/-! ## Layers -/

namespace Layer

/-- The two buckets of a layer. -/
inductive Side where
  | prot
  | unprot

/-- A change of one of the buckets of a layer. -/
def change (h : Layer) : Side → Bucket.Change → Step Layer Unit
  | .prot, c => (h.prot.apply c).within fun prot => { h with prot }
  | .unprot, c => (h.unprot.apply c).within fun unprot => { h with unprot }

/-- A layer with a fixed protected bucket keeps it, whatever is changed. -/
theorem change_prot {h : Layer} (fixed : h.prot.Fixed) (side : Side) (c : Bucket.Change) :
    (h.change side c).after.prot = h.prot := by
  cases side with
  | prot => exact fixed.apply_after c
  | unprot => rfl

/-- A layer with a fixed protected bucket refuses what comes to set or erase a parameter of it. -/
theorem change_refused {h : Layer} {c : Bucket.Change} (fixed : h.prot.Fixed)
    (attempts : h.prot.Attempts c) :
    (h.change .prot c).after = h ∧ (h.change .prot c).result = .error (.header .finalized) := by
  rw [change, Step.within_after, Step.within_result, fixed.apply_after, fixed.apply_result attempts]
  exact ⟨rfl, rfl⟩

end Layer

end Cose
