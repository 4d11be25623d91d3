import Mathlib.Data.List.Forall2

/-!
# Computations that answer

An operation in steps answers exactly if each step does. These lemmas take such operations apart.

## Main results

* `Except.bind_eq_ok`, `Except.map_eq_ok`: the steps behind an answer
* `Except.mapM_eq_ok`: answers for the elements of a list
* `Cose.Forall₂.compose`: relations between the elements of lists, one after the other
-/

namespace Except

variable {ε α β : Type}

@[simp] theorem pure_eq (a : α) : (pure a : Except ε α) = .ok a := rfl

@[simp] theorem throw_eq (e : ε) : (throw e : Except ε α) = .error e := rfl

@[simp] theorem ok_bind (a : α) (f : α → Except ε β) : (Except.ok a >>= f) = f a := rfl

@[simp] theorem error_bind (e : ε) (f : α → Except ε β) :
    (Except.error e >>= f) = .error e := rfl

/-- An operation of two steps answers exactly if both do. -/
theorem bind_eq_ok {x : Except ε α} {f : α → Except ε β} {b : β} :
    x >>= f = .ok b ↔ ∃ a, x = .ok a ∧ f a = .ok b := by
  cases x <;> simp

theorem map_eq_ok {x : Except ε α} {f : α → β} {b : β} :
    x.map f = .ok b ↔ ∃ a, x = .ok a ∧ f a = b := by
  cases x <;> simp [Except.map]

@[simp] theorem isOk_map (x : Except ε α) (f : α → β) : (x.map f).isOk = x.isOk := by
  cases x <;> rfl

/-- A list of operations answers exactly if all do. -/
theorem mapM_eq_ok {f : α → Except ε β} {xs : List α} {ys : List β} :
    xs.mapM f = .ok ys ↔ List.Forall₂ (fun x y => f x = .ok y) xs ys := by
  induction xs generalizing ys with
  | nil => simp [eq_comm]
  | cons x xs ih =>
    rw [List.mapM_cons, bind_eq_ok]
    constructor
    · rintro ⟨y, hy, h⟩
      obtain ⟨zs, hzs, h⟩ := bind_eq_ok.mp h
      cases h
      exact .cons hy (ih.mp hzs)
    · rintro (_ | ⟨hy, hys⟩)
      exact ⟨_, hy, bind_eq_ok.mpr ⟨_, ih.mpr hys, rfl⟩⟩

end Except

namespace Cose.Forall₂

variable {α β γ : Type} {R : α → β → Prop} {xs : List α} {ys : List β}

theorem exists_left {y : β} (h : List.Forall₂ R xs ys) (hy : y ∈ ys) : ∃ x ∈ xs, R x y := by
  induction h with
  | nil => cases hy
  | cons first _ ih =>
    rcases List.mem_cons.mp hy with rfl | hy
    · exact ⟨_, List.mem_cons_self .., first⟩
    · obtain ⟨x, hx, related⟩ := ih hy
      exact ⟨x, List.mem_cons_of_mem _ hx, related⟩

theorem exists_getElem? {i : Nat} {x : α} (h : List.Forall₂ R xs ys) (hx : xs[i]? = some x) :
    ∃ y, ys[i]? = some y ∧ R x y := by
  induction h generalizing i with
  | nil => cases hx
  | cons first _ ih =>
    cases i with
    | zero =>
      cases hx
      exact ⟨_, rfl, first⟩
    | succ i => exact ih hx

theorem exists_of_forall (h : ∀ x ∈ xs, ∃ y, R x y) : ∃ ys, List.Forall₂ R xs ys := by
  induction xs with
  | nil => exact ⟨[], .nil⟩
  | cons x xs ih =>
    rw [List.forall_mem_cons] at h
    obtain ⟨y, first⟩ := h.1
    obtain ⟨ys, others⟩ := ih h.2
    exact ⟨y :: ys, .cons first others⟩

theorem imp_of_mem {S : α → β → Prop} (h : List.Forall₂ R xs ys)
    (each : ∀ x ∈ xs, ∀ y ∈ ys, R x y → S x y) : List.Forall₂ S xs ys := by
  induction h with
  | nil => exact .nil
  | cons first _ ih =>
    have here := each _ (List.mem_cons_self ..) _ (List.mem_cons_self ..) first
    exact .cons here (ih fun x hx y hy =>
      each x (List.mem_cons_of_mem _ hx) y (List.mem_cons_of_mem _ hy))

theorem map_eq_map {f : α → γ} {g : β → γ} (h : List.Forall₂ R xs ys)
    (each : ∀ x y, R x y → f x = g y) : xs.map f = ys.map g := by
  induction h with
  | nil => rfl
  | cons first _ ih => rw [List.map_cons, List.map_cons, each _ _ first, ih]

/-- A list seen through two functions is related element by element. -/
theorem map_of_forall {f : γ → α} {g : γ → β} {zs : List γ} (h : ∀ z ∈ zs, R (f z) (g z)) :
    List.Forall₂ R (zs.map f) (zs.map g) := by
  rw [List.forall₂_map_left_iff, List.forall₂_map_right_iff, List.forall₂_same]
  exact h

theorem eq_of_forall {R : α → α → Prop} {ys : List α} (h : List.Forall₂ R xs ys)
    (each : ∀ x ∈ xs, ∀ y, R x y → y = x) : ys = xs := by
  have same : List.Forall₂ (· = ·) xs ys := imp_of_mem h fun x hx y _ related =>
    (each x hx y related).symm
  exact (List.forall₂_eq_eq_eq ▸ same : xs = ys).symm

/-- What is related to distinct elements is distinct, if nothing is related to two of them. -/
theorem nodup {R : α → β → Prop} (h : List.Forall₂ R xs ys) (distinct : xs.Nodup)
    (inj : ∀ x ∈ xs, ∀ x' ∈ xs, ∀ y, R x y → R x' y → x = x') : ys.Nodup := by
  induction h with
  | nil => exact List.nodup_nil
  | @cons x y xs ys first others ih =>
    obtain ⟨fresh, distinct⟩ := List.nodup_cons.mp distinct
    refine List.nodup_cons.mpr ⟨fun hy => ?_, ih distinct fun a ha b hb =>
      inj a (List.mem_cons_of_mem x ha) b (List.mem_cons_of_mem x hb)⟩
    obtain ⟨x', hx', related⟩ := exists_left others hy
    exact fresh (inj x (List.mem_cons_self ..) x' (List.mem_cons_of_mem x hx') y first related ▸ hx')

/-- What is related to one of distinct elements is one element, if it is related to nothing else. -/
theorem inj_of_nodup {R : α → β → Prop} (h : List.Forall₂ R xs ys) (distinct : ys.Nodup)
    (functional : ∀ x y y', R x y → R x y' → y = y') {x x' : α} {y : β} (hx : x ∈ xs)
    (hx' : x' ∈ xs) (related : R x y) (related' : R x' y) : x = x' := by
  obtain ⟨i, hi⟩ := List.getElem?_of_mem hx
  obtain ⟨j, hj⟩ := List.getElem?_of_mem hx'
  obtain ⟨z, hz, first⟩ := exists_getElem? h hi
  obtain ⟨z', hz', second⟩ := exists_getElem? h hj
  cases functional x _ _ related first
  cases functional x' _ _ related' second
  have bound : i < ys.length := (List.getElem?_eq_some_iff.mp hz).1
  cases (List.getElem?_inj bound distinct).mp (hz.trans hz'.symm)
  exact Option.some.inj (hi.symm.trans hj)

/-- A relation between elements in order, followed by another one. -/
theorem compose {Q : β → γ → Prop} {S : α → γ → Prop} (h : List.Forall₂ R xs ys)
    (step : ∀ x ∈ xs, ∀ y ∈ ys, R x y → ∃ z, Q y z ∧ S x z) :
    ∃ zs, List.Forall₂ Q ys zs ∧ List.Forall₂ S xs zs := by
  induction h with
  | nil => exact ⟨[], .nil, .nil⟩
  | cons first _ ih =>
    obtain ⟨z, hq, hs⟩ := step _ (List.mem_cons_self ..) _ (List.mem_cons_self ..) first
    obtain ⟨zs, hqs, hss⟩ := ih fun x hx y hy =>
      step x (List.mem_cons_of_mem _ hx) y (List.mem_cons_of_mem _ hy)
    exact ⟨z :: zs, .cons hq hqs, .cons hs hss⟩

end Cose.Forall₂
