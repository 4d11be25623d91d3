import Cose.Registry

/-!
# The registry is one-to-one

The two indexes of a registry are written one after the other. A registration looks into both first,
and is refused if the name or the identifier is taken in either, by one algorithm or by two. So the
indexes always hold the same algorithms, each under its own name and its own identifier, and each of
the two leads to the same algorithm.

## Main definitions

* `Algorithm.Clashes`: algorithms with one name or one identifier
* `Registry.Consistent`: both indexes hold the same algorithms
* `Registry.Unregistered`: what is no identifier of a registered algorithm

## Main results

* `Registry.Consistent.register_of_clashes`, `Registry.Consistent.register_of_fresh`: one
  registration
* `Registry.Consistent.registerAll`: any number of them
* `Registry.mem_of_lookup`: what is looked up among the supported algorithms
* `Registry.registered_one_to_one`: a registry after any registrations
-/

namespace Cose

/-- **Two algorithms clash**: they have one name or one identifier. -/
def Algorithm.Clashes (a b : Algorithm) : Prop :=
  a.name = b.name ∨ a.value = b.value

namespace Registry

variable {r : Registry} {a b : Algorithm} {as : List Algorithm}

/-! ## Indexes -/

section Index

variable {κ : Type} [BEq κ] [LawfulBEq κ] {key : Algorithm → κ} {k : κ}

theorem lookup_indexBy_eq_none_iff :
    (indexBy key as).lookup k = none ↔ ∀ a ∈ as, key a ≠ k := by
  simp only [indexBy, List.lookup_eq_none_iff, List.forall_mem_map, bne_iff_ne, ne_comm]

theorem lookup_indexBy_eq_some_iff (distinct : (as.map key).Nodup) :
    (indexBy key as).lookup k = some a ↔ a ∈ as ∧ key a = k := by
  induction as with
  | nil => simp [indexBy]
  | cons b as ih =>
    obtain ⟨fresh, distinct⟩ := List.nodup_cons.mp distinct
    have ih := ih distinct
    rw [indexBy] at ih
    rw [indexBy, List.map_cons, List.lookup_cons]
    by_cases here : k = key b
    · subst here
      have others (mem : a ∈ as) : key a ≠ key b := fun same =>
        fresh (same ▸ List.mem_map_of_mem mem)
      simp only [beq_self_eq_true, Option.some.injEq, List.mem_cons]
      grind
    · rw [beq_eq_false_iff_ne.mpr here]
      simp only [ih, List.mem_cons]
      grind

/-- An algorithm with a key of its own goes to the end of an index. -/
theorem storeIn_indexBy (fresh : ∀ b ∈ as, key b ≠ key a) :
    storeIn (key a) a (indexBy key as) = indexBy key (as ++ [a]) := by
  induction as with
  | nil => rfl
  | cons b as ih =>
    rw [List.forall_mem_cons] at fresh
    rw [indexBy, List.map_cons, storeIn, beq_eq_false_iff_ne.mpr fresh.1]
    exact congrArg ((key b, b) :: ·) (ih fresh.2)

end Index

/-! ## One registration -/

/-- A registry is consistent: both indexes hold the registered algorithms in order, each under
its own name and its own identifier, and no two of them clash. -/
structure Consistent (r : Registry) : Prop where
  byName : r.byName = indexBy Algorithm.name r.algorithms
  byValue : r.byValue = indexBy Algorithm.value r.algorithms
  apart : r.algorithms.Pairwise fun a b => ¬ a.Clashes b

theorem consistent_empty : empty.Consistent := ⟨rfl, rfl, .nil⟩

theorem algorithms_of_byValue (h : r.byValue = indexBy Algorithm.value as) : r.algorithms = as := by
  rw [algorithms, h, indexBy, List.map_map]
  exact List.map_id as

namespace Consistent

variable (h : r.Consistent)

include h

theorem nodup_names : (r.algorithms.map Algorithm.name).Nodup :=
  List.pairwise_map.mpr (h.apart.imp fun apart same => apart (.inl same))

theorem nodup_values : (r.algorithms.map Algorithm.value).Nodup :=
  List.pairwise_map.mpr (h.apart.imp fun apart same => apart (.inr same))

theorem findName?_eq_some_iff {s : String} :
    r.findName? s = some a ↔ a ∈ r.algorithms ∧ a.name = s := by
  rw [findName?, h.byName, lookup_indexBy_eq_some_iff h.nodup_names]

theorem findName?_eq_none_iff {s : String} :
    r.findName? s = none ↔ ∀ a ∈ r.algorithms, a.name ≠ s := by
  rw [findName?, h.byName, lookup_indexBy_eq_none_iff]

theorem findValue?_eq_some_iff {n : Int} :
    r.findValue? n = some a ↔ a ∈ r.algorithms ∧ a.value = n := by
  rw [findValue?, h.byValue, lookup_indexBy_eq_some_iff h.nodup_values]

theorem findValue?_eq_none_iff {n : Int} :
    r.findValue? n = none ↔ ∀ a ∈ r.algorithms, a.value ≠ n := by
  rw [findValue?, h.byValue, lookup_indexBy_eq_none_iff]

/-- **A name or an identifier that is taken** is refused. -/
theorem register_of_clashes (clash : ∃ b ∈ r.algorithms, b.Clashes a) :
    ∃ e, r.register a = .error e ∧ e.kind = .value := by
  have taken : (r.findName? a.name).isSome || (r.findValue? a.value).isSome := by
    obtain ⟨b, mem, name | value⟩ := clash
    · rw [h.findName?_eq_some_iff.mpr ⟨mem, name⟩]
      rfl
    · rw [h.findValue?_eq_some_iff.mpr ⟨mem, value⟩, Bool.or_eq_true]
      exact .inr rfl
  refine ⟨_, if_pos taken, ?_⟩
  rw [Error.writing]
  split <;> rfl

/-- **An algorithm that clashes with none** goes to the end of both indexes. -/
theorem register_of_fresh (fresh : ∀ b ∈ r.algorithms, ¬ b.Clashes a) :
    ∃ r', r.register a = .ok r' ∧ r'.Consistent ∧ r'.algorithms = r.algorithms ++ [a] := by
  have names : ∀ b ∈ r.algorithms, b.name ≠ a.name := fun b mem same => fresh b mem (.inl same)
  have values : ∀ b ∈ r.algorithms, b.value ≠ a.value := fun b mem same => fresh b mem (.inr same)
  have free : ¬ ((r.findName? a.name).isSome || (r.findValue? a.value).isSome) := by
    rw [h.findName?_eq_none_iff.mpr names, h.findValue?_eq_none_iff.mpr values]
    simp
  refine ⟨_, if_neg free, ?_⟩
  have byName := storeIn_indexBy names
  have byValue := storeIn_indexBy values
  rw [← h.byName] at byName
  rw [← h.byValue] at byValue
  have both := algorithms_of_byValue
    (r := ⟨storeIn a.name a r.byName, storeIn a.value a r.byValue⟩) byValue
  refine ⟨⟨?_, ?_, ?_⟩, both⟩
  · rw [both]
    exact byName
  · rw [both]
    exact byValue
  · rw [both, List.pairwise_append]
    exact ⟨h.apart, List.pairwise_singleton _ _, by simpa using fresh⟩

end Consistent

/-! ## Any number of registrations -/

theorem registerAll_of_error {e : Error} (refused : r.register a = .error e) (as : List Algorithm) :
    r.registerAll (a :: as) = r.registerAll as := by
  rw [registerAll, refused]

theorem registerAll_of_ok {r' : Registry} (registered : r.register a = .ok r')
    (as : List Algorithm) : r.registerAll (a :: as) = r'.registerAll as := by
  rw [registerAll, registered]

theorem registerAll_append (as bs : List Algorithm) :
    r.registerAll (as ++ bs) = (r.registerAll as).registerAll bs := by
  induction as generalizing r with
  | nil => rfl
  | cons a as ih =>
    rcases step : r.register a with e | r'
    · rw [List.cons_append, registerAll_of_error step, registerAll_of_error step, ih]
    · rw [List.cons_append, registerAll_of_ok step, registerAll_of_ok step, ih]

/-- **Registrations keep a registry consistent.** What they add to it are some of the algorithms that
are registered, in that order. -/
theorem Consistent.registerAll (h : r.Consistent) (as : List Algorithm) :
    (r.registerAll as).Consistent ∧
      ∃ added, added.Sublist as ∧ (r.registerAll as).algorithms = r.algorithms ++ added := by
  induction as generalizing r with
  | nil => exact ⟨h, [], .slnil, (List.append_nil _).symm⟩
  | cons a as ih =>
    by_cases clash : ∃ b ∈ r.algorithms, b.Clashes a
    · obtain ⟨e, refused, -⟩ := h.register_of_clashes clash
      obtain ⟨consistent, added, sublist, algorithms⟩ := ih h
      rw [registerAll_of_error refused]
      exact ⟨consistent, added, sublist.cons a, algorithms⟩
    · have fresh : ∀ b ∈ r.algorithms, ¬ b.Clashes a := fun b mem clashes =>
        clash ⟨b, mem, clashes⟩
      obtain ⟨r', registered, kept, last⟩ := h.register_of_fresh fresh
      obtain ⟨consistent, added, sublist, algorithms⟩ := ih kept
      rw [registerAll_of_ok registered]
      refine ⟨consistent, a :: added, sublist.cons_cons a, ?_⟩
      rw [algorithms, last, List.append_assoc, List.singleton_append]

/-- The supported algorithms are registered one after the other, and none is refused. -/
theorem standard_eq_registerAll : standard = empty.registerAll supported := by
  decide +kernel

theorem consistent_standard : standard.Consistent :=
  standard_eq_registerAll ▸ (consistent_empty.registerAll supported).1

/-! ## Identifiers -/

/-- What is no identifier of a registered algorithm: an algorithm that differs from all of them,
a truth value, and a name or an integer that none of them has. Integers beyond the longest numeral
are left out, since they cannot be reported. -/
inductive Unregistered (r : Registry) : Value → Prop
  | algorithm {a : Algorithm} (other : a ∉ r.algorithms) : Unregistered r (.algorithm a)
  | bool (b : Bool) : Unregistered r (.bool b)
  | name {s : String} (other : ∀ a ∈ r.algorithms, a.name ≠ s) : Unregistered r (.text s)
  | value {n : Int} (short : n.natAbs < 10 ^ Text.maxDigits) (other : ∀ a ∈ r.algorithms, a.value ≠ n) :
      Unregistered r (.int n)

namespace Consistent

variable (h : r.Consistent) {id : Value}

include h

/-- An algorithm is found under its name, its identifier, and itself. -/
theorem lookup_of_mem (mem : a ∈ r.algorithms) :
    r.lookup (.text a.name) = .ok a ∧ r.lookup (.int a.value) = .ok a ∧
      r.lookup (.algorithm a) = .ok a := by
  have named := h.findName?_eq_some_iff.mpr ⟨mem, rfl⟩
  have numbered := h.findValue?_eq_some_iff.mpr ⟨mem, rfl⟩
  simp only [lookup, named, numbered, if_pos, and_self]

/-- What is found is registered. -/
theorem mem_of_lookup (found : r.lookup id = .ok a) : a ∈ r.algorithms := by
  unfold lookup at found
  split at found
  · split at found
    · next itself =>
      cases found
      exact (h.findValue?_eq_some_iff.mp itself).1
    · cases found
  · cases found
  · split at found
    · next numbered =>
      cases found
      exact (h.findValue?_eq_some_iff.mp numbered).1
    · cases found
  · split at found
    · next named =>
      cases found
      exact (h.findName?_eq_some_iff.mp named).1
    · cases found
  · cases found

/-- What identifies no registered algorithm is unknown. -/
theorem lookup_of_unregistered (unregistered : r.Unregistered id) :
    ∃ fault, r.lookup id = .error (.unknownAlgorithm fault) := by
  cases unregistered with
  | @algorithm a other =>
    refine ⟨.unregistered a.name, if_neg fun itself => ?_⟩
    exact other (h.findValue?_eq_some_iff.mp itself).1
  | bool b => exact ⟨.ambiguous b, rfl⟩
  | @name s other =>
    refine ⟨unknownName s, ?_⟩
    simp only [lookup, h.findName?_eq_none_iff.mpr other]
  | @value n short other =>
    refine ⟨unknownValue n, ?_⟩
    have writable : Text.isWritable n = true := decide_eq_true short
    simp only [lookup, h.findValue?_eq_none_iff.mpr other, writable]
    rfl

end Consistent

/-- What is looked up among the supported algorithms is one of them. -/
theorem mem_of_lookup {id : Value} (found : standard.lookup id = .ok a) :
    a ∈ standard.algorithms :=
  consistent_standard.mem_of_lookup found

/-! ## All of it -/

/-- **The registry is one-to-one.** Let any algorithms be registered one after the other, starting
from the empty registry. Then both indexes hold the same algorithms, each once, in the order of
registration, under its own name and its own identifier. A further algorithm that clashes with one of
them is refused as a wrong value, and the registry stays as it is; any other goes to the end. What is
registered is found under its name, its identifier and itself, and what identifies nothing that is
registered is unknown. -/
theorem registered_one_to_one (as : List Algorithm) :
    let r := empty.registerAll as
    (r.byName = indexBy Algorithm.name r.algorithms ∧
      r.byValue = indexBy Algorithm.value r.algorithms ∧ r.algorithms.Sublist as ∧
      r.algorithms.Pairwise fun a b => a.name ≠ b.name ∧ a.value ≠ b.value) ∧
    (∀ a, (∃ b ∈ r.algorithms, b.Clashes a) →
      (∃ e, r.register a = .error e ∧ e.kind = .value) ∧ empty.registerAll (as ++ [a]) = r) ∧
    (∀ a, (∀ b ∈ r.algorithms, ¬ b.Clashes a) →
      ∃ r', r.register a = .ok r' ∧ empty.registerAll (as ++ [a]) = r' ∧
        r'.algorithms = r.algorithms ++ [a]) ∧
    (∀ a ∈ r.algorithms, r.lookup (.text a.name) = .ok a ∧ r.lookup (.int a.value) = .ok a ∧
      r.lookup (.algorithm a) = .ok a) ∧
    ∀ id, r.Unregistered id → ∃ fault, r.lookup id = .error (.unknownAlgorithm fault) := by
  intro r
  obtain ⟨consistent, added, sublist, algorithms⟩ := consistent_empty.registerAll as
  have inOrder : r.algorithms.Sublist as := algorithms ▸ sublist
  refine ⟨⟨consistent.byName, consistent.byValue, inOrder, ?_⟩, fun a clash => ?_, fun a fresh => ?_,
    fun a mem => consistent.lookup_of_mem mem, fun id => consistent.lookup_of_unregistered⟩
  · exact consistent.apart.imp fun apart => not_or.mp apart
  · obtain ⟨e, refused, value⟩ := consistent.register_of_clashes clash
    exact ⟨⟨e, refused, value⟩, by rw [registerAll_append, registerAll_of_error refused]; rfl⟩
  · obtain ⟨r', registered, -, last⟩ := consistent.register_of_fresh fresh
    exact ⟨r', registered, by rw [registerAll_append, registerAll_of_ok registered]; rfl, last⟩

/-- Of four algorithms two are registered. One that has the name of the first and the identifier of
the second is refused, and one like the first with another key size is unknown. -/
theorem registered_one_to_one_clashing :
    let as : List Algorithm := [.es256, ⟨"ES256", 1, .hmac, none, none, none⟩,
      ⟨"ES", -7, .ecdsa, none, none, none⟩, .edDSA]
    let between : Algorithm := ⟨"ES256", -8, .ecdsa, none, none, none⟩
    let alike : Algorithm := { Algorithm.es256 with keySize := some 48 }
    let r := empty.registerAll as
    r.algorithms = [.es256, .edDSA] ∧ empty.registerAll (as ++ [between]) = r ∧
      (∃ r', r.register .ps256 = .ok r' ∧ r'.algorithms = [.es256, .edDSA, .ps256]) ∧
      r.lookup (.text "EdDSA") = .ok .edDSA ∧
      ∃ fault, r.lookup (.algorithm alike) = .error (.unknownAlgorithm fault) := by
  intro as between alike r
  have algorithms : r.algorithms = [.es256, .edDSA] := by decide +kernel
  obtain ⟨-, refused, last, found, unknown⟩ := registered_one_to_one as
  refine ⟨algorithms, ?_, ?_, ?_, unknown _ (.algorithm ?_)⟩
  · exact (refused between ⟨.es256, algorithms ▸ List.mem_cons_self, .inl rfl⟩).2
  · obtain ⟨r', registered, -, all⟩ := last .ps256 <| by
      rw [show (empty.registerAll as).algorithms = [.es256, .edDSA] from algorithms]
      simp [Algorithm.Clashes, Algorithm.es256, Algorithm.edDSA, Algorithm.ps256]
    exact ⟨r', registered, all.trans (congrArg (· ++ [.ps256]) algorithms)⟩
  · exact (found .edDSA (algorithms ▸ by decide)).1
  · show alike ∉ r.algorithms
    rw [algorithms]
    decide

end Registry

end Cose
