import Cose.Message.Certified
import Cose.Proofs.Header.WellFormed

/-!
# Headers for certificates

The protected bucket of a message for a certificate is made from a map: the algorithm of the key and
the fingerprint, merged with what the caller adds. Whatever is added, with labels that replace an
entry or stand beside it, the values of the bucket are those that were given, or identifiers of
algorithms. So they are plain data if what is added is, and what the bucket is encoded as can be
read back.

## Main definitions

* `PlainParameter`: an entry of the map that leaves plain data in a bucket

## Main results

* `Bucket.Plain.set`, `Bucket.plain_ofSource`: buckets made of such entries have plain values
* `plainParameter_of_certifiedHeader`: the header for a certificate has such entries
-/

namespace Cose

variable {keys : List Value → Prop} {n : Nat}

theorem mem_storeEntry {l : Label} {v : Value} {es : List (Label × Value)} {e : Label × Value}
    (mem : e ∈ storeEntry l v es) : e = (l, v) ∨ e ∈ es := by
  induction es with
  | nil => exact .inl (List.mem_singleton.mp mem)
  | cons d es ih =>
    rw [storeEntry] at mem
    split at mem
    · exact (List.mem_cons.mp mem).imp_right (List.mem_cons_of_mem d)
    · rcases List.mem_cons.mp mem with rfl | mem
      · exact .inr (List.mem_cons_self ..)
      · exact (ih mem).imp_right (List.mem_cons_of_mem d)

/-- What is stored for an algorithm is an integer or a text. -/
theorem plain_of_normalizeAlgorithm {value v : Value} (h : normalizeAlgorithm value = .ok v) :
    v.Plain keys (n + 2) := by
  unfold normalizeAlgorithm at h
  split at h
  · cases h
    exact .bigInt n _
  · cases h
    exact .bigInt n _
  · split at h
    · cases h
      exact .bigInt n _
    · cases h
      exact .text _ _
  · cases h

/-- **An entry that leaves plain data in a bucket**: its value is plain, or it is an algorithm under
its label. -/
def PlainParameter (keys : List Value → Prop) (n : Nat) (e : Value × Value) : Prop :=
  e.2.Plain keys n ∨ ∃ a, e = (Label.alg.toValue, .algorithm a)

namespace Bucket

variable {b b' : Bucket}

/-- **Setting a parameter** keeps the values plain. -/
theorem Plain.set {label value : Value} (plain : b.Plain keys (n + 2))
    (parameter : PlainParameter keys (n + 2) (label, value)) (hs : b.set label value = .ok b') :
    b'.Plain keys (n + 2) := by
  obtain ⟨-, l, v, spelled, rfl, stored⟩ := set_cases hs
  intro e mem
  rcases mem_storeEntry mem with rfl | old
  · rcases stored with ⟨-, normal⟩ | ⟨other, rfl⟩
    · exact plain_of_normalizeAlgorithm normal
    · refine parameter.resolve_right ?_
      rintro ⟨a, ⟨⟩⟩
      cases spelled
      exact other rfl
  · exact plain e old

theorem Plain.update {ps : List (Value × Value)} (plain : b.Plain keys (n + 2))
    (parameters : ∀ e ∈ ps, PlainParameter keys (n + 2) e) :
    (b.update (ps.map .ok)).1.Plain keys (n + 2) := by
  induction ps generalizing b with
  | nil => exact plain
  | cons p ps ih =>
    rw [List.forall_mem_cons] at parameters
    rw [List.map_cons, Bucket.update]
    split
    next hs => exact ih (plain.set parameters.1 hs) parameters.2
    · exact plain

theorem update_fixed (b : Bucket) (ps : List (Except Error (Value × Value))) :
    (b.update ps).1.fixed = b.fixed := by
  induction ps generalizing b with
  | nil => rfl
  | cons p ps ih =>
    rcases p with e | ⟨label, value⟩
    · rfl
    rw [Bucket.update]
    split
    · next c hs =>
      obtain ⟨-, l, v, -, rfl⟩ := set_eq_ok hs
      exact ih (b.store l v)
    · rfl

/-- **A bucket made from a map** of such entries has plain values, and its bytes are not fixed. -/
theorem plain_ofSource {isProtected : Bool} {es : List (Value × Value)}
    (parameters : ∀ e ∈ es, PlainParameter keys (n + 2) e)
    (h : ofSource isProtected (.value (.map es)) = .ok b) :
    b.Plain keys (n + 2) ∧ b.fixed = none := by
  have fresh : Plain keys (n + 2) { isProtected := isProtected } :=
    fun e mem => absurd mem List.not_mem_nil
  have plain := fresh.update parameters
  have unfixed := update_fixed { isProtected := isProtected } (es.map .ok)
  rw [ofSource] at h
  split at h
  · simp only [updateFrom, Source.parameters, Value.parameters] at h
    split at h
    next hu =>
      cases h
      rw [hu] at plain unfixed
      exact ⟨plain, unfixed⟩
    · cases h
  · cases h
    exact ⟨fresh, rfl⟩

end Bucket

/-! ## Merging -/

/-- A merged value is one of those that were there, or one of those that were added. -/
theorem mem_mergeParameters {base merged es : List (Value × Value)}
    (h : mergeParameters base (.map es) = .ok merged) :
    ∀ e ∈ merged, e ∈ base ∨ ∃ d ∈ es, e.2 = d.2 := by
  rw [mergeParameters] at h
  split at h
  · cases h
    exact fun e mem => .inl mem
  next nonempty =>
  clear nonempty
  simp only [Value.parameters, Except.ok_bind] at h
  induction es generalizing base with
  | nil =>
    cases h
    exact fun e mem => .inl mem
  | cons d es ih =>
    rw [List.map_cons, List.foldlM_cons, Except.ok_bind] at h
    obtain ⟨entries, step, h⟩ := Except.bind_eq_ok.mp h
    split at step
    · cases step
      intro e mem
      rcases ih h e mem with old | ⟨d', hd', same⟩
      · rcases Value.mem_insert old with old | ⟨same, -⟩
        · exact .inl old
        · exact .inr ⟨d, List.mem_cons_self .., same⟩
      · exact .inr ⟨d', List.mem_cons_of_mem d hd', same⟩
    · cases step

/-- **The header for a certificate** has plain entries if what is added is plain. -/
theorem plainParameter_of_certifiedHeader [Key.Loader] {certificate : String}
    {es : List (Value × Value)} {header : Value} (plain : ∀ e ∈ es, e.2.Plain keys (n + 2))
    (h : certifiedHeader certificate (.map es) = .ok header) :
    ∃ entries, header = .map entries ∧ ∀ e ∈ entries, PlainParameter keys (n + 2) e := by
  obtain ⟨key, -, h⟩ := Except.bind_eq_ok.mp h
  obtain ⟨name, -, h⟩ := Except.bind_eq_ok.mp h
  obtain ⟨kid, -, h⟩ := Except.bind_eq_ok.mp h
  obtain ⟨a, -, h⟩ := Except.bind_eq_ok.mp h
  obtain ⟨entries, merged, ⟨⟩⟩ := Except.bind_eq_ok.mp h
  refine ⟨entries, rfl, fun e mem => ?_⟩
  rcases mem_mergeParameters merged e mem with given | ⟨d, hd, same⟩
  · rcases List.mem_cons.mp given with rfl | given
    · exact .inr ⟨a, rfl⟩
    · rw [List.mem_singleton.mp given]
      exact .inl (.bytes _ _)
  · exact .inl (same ▸ plain d hd)

end Cose
