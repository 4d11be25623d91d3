import Cose.Proofs.Header.Labels
import Cose.Proofs.Registry

/-!
# What spells a label, and what is stored

A label is spelled by an integer or by a text, and a common parameter by its alias as well; no alias
is a label of its own. A label stores the value that it is given, but for the algorithm, which is
stored as its identifier where it is known. These are relations of their own here, against which the
functions of a bucket are checked.

## Main definitions

* `Value.Spells`: the labels that values spell
* `Label.Stores`: what is stored for a value

## Main results

* `Label.ofValue_eq_ok_iff`: the label of a value is the one that it spells
* `normalizeAlgorithm_eq_ok_iff`: the normal form of an algorithm is what is stored for it
* `Label.IsCanonical.cases`: no alias is canonical
-/

namespace Cose

/-! ## Spellings -/

/-- **A value spells a label**: an integer and a text spell themselves, but an alias spells the
integer of a common parameter. -/
inductive Value.Spells : Value → Label → Prop
  | int (n : Int) : Spells (.int n) (.int n)
  | common {s : String} {l : Label} (named : (s, l) ∈ Label.common) : Spells (.text s) l
  | text {s : String} (unnamed : s ∉ Label.common.map Prod.fst) : Spells (.text s) (.text s)

theorem Label.lookup_common {s : String} {l : Label} (named : (s, l) ∈ common) :
    common.lookup s = some l := by
  have all : ∀ e ∈ common, common.lookup e.1 = some e.2 := by decide
  exact all _ named

theorem Label.lookup_common_eq_none {s : String} (unnamed : s ∉ common.map Prod.fst) :
    common.lookup s = none := by
  rw [List.lookup_eq_none_iff]
  intro e he
  simp only [bne_iff_ne]
  intro same
  exact unnamed (List.mem_map.mpr ⟨e, he, same.symm⟩)

/-- **The label of a value** is the one that it spells. -/
theorem Label.ofValue_eq_ok_iff {v : Value} {l : Label} :
    Label.ofValue v = .ok l ↔ v.Spells l := by
  constructor
  · intro h
    cases v with
    | int n =>
      cases h
      exact .int n
    | text s =>
      cases h
      rw [ofText]
      cases spelled : common.lookup s with
      | none =>
        refine .text fun named => ?_
        obtain ⟨e, he, rfl⟩ := List.mem_map.mp named
        cases spelled.symm.trans (lookup_common he)
      | some l =>
        obtain ⟨before, after, split, -⟩ := List.lookup_eq_some_iff.mp spelled
        exact .common (by simp [split])
    | _ => cases h
  · intro spells
    cases spells with
    | int n => rfl
    | common named => rw [ofValue, ofText, lookup_common named, Option.getD_some]
    | text unnamed => rw [ofValue, ofText, lookup_common_eq_none unnamed, Option.getD_none]

theorem Value.Spells.unique {v : Value} {l l' : Label} (h : v.Spells l) (h' : v.Spells l') :
    l = l' :=
  Except.ok.inj ((Label.ofValue_eq_ok_iff.mpr h).symm.trans (Label.ofValue_eq_ok_iff.mpr h'))

/-- **A canonical label** is an integer, or a text that is no alias. -/
theorem Label.IsCanonical.cases {l : Label} (h : l.IsCanonical) :
    (∃ n, l = .int n) ∨ ∃ s, l = .text s ∧ s ∉ common.map Prod.fst := by
  have numbers : ∀ e ∈ common, ∀ s, e.2 ≠ .text s := by
    simp [common, alg, crit, contentType, kid, iv, partialIv, counterSignature]
  cases l with
  | int n => exact .inl ⟨n, rfl⟩
  | text s =>
    cases ofValue_eq_ok_iff.mp h with
    | common named => exact absurd rfl (numbers _ named s)
    | text unnamed => exact .inr ⟨s, rfl, unnamed⟩

/-! ## Stored values -/

/-- A label stores a value in the form that is read: for the algorithm, an algorithm and a
registered name become the identifier, and other integers and texts stay. -/
inductive Label.Stores : Label → Value → Value → Prop
  | algorithm (a : Algorithm) : Stores .alg (.algorithm a) (.int a.value)
  | name {a : Algorithm} (registered : a ∈ Registry.standard.algorithms) :
      Stores .alg (.text a.name) (.int a.value)
  | int (n : Int) : Stores .alg (.int n) (.int n)
  | text {s : String} (unregistered : ∀ a ∈ Registry.standard.algorithms, a.name ≠ s) :
      Stores .alg (.text s) (.text s)
  | other {l : Label} (other : l ≠ .alg) (v : Value) : Stores l v v

theorem Algorithm.lookup_text_eq_ok_iff {s : String} {a : Algorithm} :
    Algorithm.lookup (.text s) = .ok a ↔ a ∈ Registry.standard.algorithms ∧ a.name = s := by
  constructor
  · intro found
    rw [Algorithm.lookup, Registry.lookup] at found
    split at found
    · next named =>
      cases found
      exact Registry.consistent_standard.findName?_eq_some_iff.mp named
    · cases found
  · rintro ⟨registered, rfl⟩
    exact (Registry.consistent_standard.lookup_of_mem registered).1

/-- What is stored for the algorithm is its normal form. -/
theorem normalizeAlgorithm_eq_ok_iff {v w : Value} :
    normalizeAlgorithm v = .ok w ↔ Label.alg.Stores v w := by
  constructor
  · intro h
    cases v with
    | algorithm a =>
      cases h
      exact .algorithm a
    | int n =>
      cases h
      exact .int n
    | text s =>
      rw [normalizeAlgorithm] at h
      split at h
      · next a found =>
        cases h
        obtain ⟨registered, rfl⟩ := Algorithm.lookup_text_eq_ok_iff.mp found
        exact .name registered
      · next e missing =>
        cases h
        refine .text fun a registered same => ?_
        cases missing.symm.trans (Algorithm.lookup_text_eq_ok_iff.mpr ⟨registered, same⟩)
    | _ => cases h
  · intro stores
    cases stores with
    | algorithm | int => rfl
    | name registered =>
      have found := Algorithm.lookup_text_eq_ok_iff.mpr ⟨registered, rfl⟩
      rw [normalizeAlgorithm, found]
    | text unregistered =>
      rw [normalizeAlgorithm]
      split
      · next a found =>
        obtain ⟨registered, same⟩ := Algorithm.lookup_text_eq_ok_iff.mp found
        exact absurd same (unregistered a registered)
      · rfl
    | other other => exact absurd rfl other

theorem Label.Stores.unique {l : Label} {v w w' : Value} (h : l.Stores v w) (h' : l.Stores v w') :
    w = w' := by
  by_cases isAlg : l = .alg
  · subst isAlg
    exact Except.ok.inj
      ((normalizeAlgorithm_eq_ok_iff.mpr h).symm.trans (normalizeAlgorithm_eq_ok_iff.mpr h'))
  · cases h with
    | other =>
      cases h' with
      | other => rfl
      | _ => exact absurd rfl isAlg
    | _ => exact absurd rfl isAlg

end Cose
