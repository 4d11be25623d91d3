import Cose.Proofs.Header.Certified
import Cose.Proofs.Header.FiniteMap
import Cose.Proofs.Value.Storing

/-!
# Parameters that are given repeatedly

A map keeps of equal keys the first place and the last value. It does not know that an integer and
an alias spell one label, but the bucket that is made from it does, and takes the last place of the
two. So of all pairs that are given for a label, the one that rules is the last one if all spell the
label alike, but otherwise the last one of those that do not spell it like the first.

## Main definitions

* `Label.given`: the pairs that are given for a label
* `Label.ruling?`: the pair that rules the label
* `Label.Holds`: what a label holds for a pair
* `CertifiedBy`, `certifiedDefaults`: what a certificate gives by default

## Main results

* `Value.Spells.eq_of_ne`: a label has two spellings at most
* `Label.getLast?_given_ofEntries`: the last place for a label in a map
* `Label.ruling?_of_alike`: the last pair rules if all spell the label alike
* `Bucket.holds_of_ofEntries`: what a bucket has that is made from a map of pairs
* `CertifiedBy.holds`: what the protected bucket has of a message for a certificate
-/

namespace Cose

/-! ## Spellings -/

theorem Value.Spells.isLabel {v : Value} {l : Label} (h : v.Spells l) : v.IsLabel := by
  cases h with
  | int n => exact .int n
  | common | text => exact .text _

theorem Value.IsLabel.exists_spells {v : Value} (h : v.IsLabel) : ∃ l, v.Spells l := by
  cases h with
  | int n => exact ⟨_, .int n⟩
  | text s => exact ⟨_, Label.ofValue_eq_ok_iff.mp rfl⟩

/-- Integers and texts are stored under any label. -/
theorem Value.IsLabel.exists_stores {v : Value} (h : v.IsLabel) (l : Label) :
    ∃ w, l.Stores v w := by
  by_cases isAlg : l = .alg
  · subst isAlg
    cases h with
    | int n => exact ⟨_, .int n⟩
    | text s =>
      by_cases registered : ∃ a ∈ Registry.standard.algorithms, a.name = s
      · obtain ⟨a, mem, rfl⟩ := registered
        exact ⟨_, .name mem⟩
      · exact ⟨_, .text fun a mem same => registered ⟨a, mem, same⟩⟩
  · exact ⟨v, .other isAlg v⟩

/-- **A label has two spellings at most**: what spells it unlike a first one is one value. -/
theorem Value.Spells.eq_of_ne {l : Label} {k k' first : Value} (h₀ : first.Spells l)
    (h : k.Spells l) (h' : k'.Spells l) (other : k ≠ first) (other' : k' ≠ first) : k = k' := by
  have aliases : ∀ e ∈ Label.common, ∀ d ∈ Label.common, e.2 = d.2 → e.1 = d.1 := by decide
  have numbers : ∀ e ∈ Label.common, ∀ s, e.2 ≠ .text s := by
    simp [Label.common, Label.alg, Label.crit, Label.contentType, Label.kid, Label.iv,
      Label.partialIv, Label.counterSignature]
  cases h with
  | int n =>
    cases h' with
    | int => rfl
    | common named' =>
      cases h₀ with
      | int => exact absurd rfl other
      | common named => exact absurd (congrArg _ (aliases _ named' _ named rfl)) other'
  | common named =>
    cases h' with
    | int n =>
      cases h₀ with
      | int => exact absurd rfl other'
      | common named' => exact absurd (congrArg _ (aliases _ named _ named' rfl)) other
    | common named' => exact congrArg _ (aliases _ named _ named' rfl)
    | text => exact absurd rfl (numbers _ named _)
  | text =>
    cases h' with
    | common named' => exact absurd rfl (numbers _ named' _)
    | text => rfl

namespace Label

variable {l : Label} {v : Value} {p first : Value × Value} {ps ds rest : List (Value × Value)}

/-- Whether a value spells a label. -/
def isSpelledBy (l : Label) (v : Value) : Bool :=
  match ofValue v with
  | .ok k => k = l
  | .error _ => false

theorem isSpelledBy_iff : l.isSpelledBy v = true ↔ v.Spells l := by
  rw [isSpelledBy, ← ofValue_eq_ok_iff]
  cases ofValue v <;> simp

/-! ## The pair that rules -/

/-- **The pairs that are given for a label**, under any spelling. -/
def given (l : Label) (ps : List (Value × Value)) : List (Value × Value) :=
  ps.filter fun p => l.isSpelledBy p.1

/-- The pair that rules a label: of the pairs that are given for it, the last one of those that
do not spell it like the first, or the last one if all spell it alike. -/
def ruling? (l : Label) (ps : List (Value × Value)) : Option (Value × Value) :=
  match l.given ps with
  | [] => none
  | first :: rest =>
    (rest.filter fun p => !Value.same first.1 p.1).getLast?.or (first :: rest).getLast?

/-- A label holds what a pair stores, or nothing where there is no pair. -/
def Holds (l : Label) (pair : Option (Value × Value)) (found : Option Value) : Prop :=
  Option.Rel (fun p w => l.Stores p.2 w) pair found

/-- What a label holds is the one thing that is stored for a pair. -/
theorem Holds.eq_some {pair : Option (Value × Value)} {found : Option Value} {w : Value}
    (held : l.Holds pair found) (ruling : pair = some p) (stores : l.Stores p.2 w) :
    found = some w := by
  cases held with
  | none => cases ruling
  | some stored =>
    cases ruling
    rw [stored.unique stores]

theorem Holds.isSome_eq {pair : Option (Value × Value)} {found : Option Value}
    (held : l.Holds pair found) : found.isSome = pair.isSome := by
  cases held <;> rfl

theorem mem_given : p ∈ l.given ps ↔ p ∈ ps ∧ p.1.Spells l := by
  rw [given, List.mem_filter, isSpelledBy_iff]

theorem given_cons (l : Label) (p : Value × Value) (ps : List (Value × Value)) :
    l.given (p :: ps) = if l.isSpelledBy p.1 then p :: l.given ps else l.given ps :=
  List.filter_cons

theorem given_append (l : Label) (ds ps : List (Value × Value)) :
    l.given (ds ++ ps) = l.given ds ++ l.given ps :=
  List.filter_append ..

/-- A map of pairs for one label has one place, or two of them. -/
theorem exists_ofEntries_cons (spells : ∀ p ∈ first :: rest, p.1.Spells l) :
    ∃ v, let others := (rest.filter fun p => !Value.same first.1 p.1).getLast?
      Value.ofEntries (first :: rest) = (first.1, v) :: others.toList ∧
        (others = none → (first :: rest).getLast? = some (first.1, v)) := by
  rw [List.forall_mem_cons] at spells
  obtain ⟨spells₀, spells⟩ := spells
  have label := spells₀.isLabel
  induction rest using List.reverseRecOn with
  | nil => exact ⟨first.2, rfl, fun _ => rfl⟩
  | append_singleton rest p ih =>
    rw [List.forall_mem_append, List.forall_mem_singleton] at spells
    obtain ⟨v, kept, last⟩ := ih spells.1
    have spelled := spells.2.isLabel
    simp only [← List.cons_append, Value.ofEntries_concat, kept, List.filter_append,
      List.filter_singleton, List.getLast?_append, List.getLast?_singleton, Option.some_or]
    by_cases same : p.1 = first.1
    · refine ⟨p.2, ?_, fun _ => by rw [← same]⟩
      rw [← same, Value.insert_cons_self spelled, spelled.same_self]
      rfl
    · refine ⟨v, ?_, ?_⟩
      · rw [Value.insert_cons_of_ne spelled label same,
          label.same_eq_false spelled (Ne.symm same)]
        cases others : (rest.filter fun p => !Value.same first.1 p.1).getLast? with
        | none => rfl
        | some d =>
          -- What stands at the second place is spelled like this pair.
          have mem := List.mem_of_getLast? others
          rw [List.mem_filter, Bool.not_eq_true'] at mem
          have apart : d.1 ≠ first.1 := by
            intro eq
            rw [eq, label.same_self] at mem
            cases mem.2
          have eq := spells₀.eq_of_ne spells.2 (spells.1 d mem.1) same apart
          show (first.1, v) :: Value.insert p.1 p.2 [(d.1, d.2)] = _
          rw [← eq, Value.insert_cons_self spelled]
          rfl
      · rw [label.same_eq_false spelled (Ne.symm same)]
        rintro ⟨⟩

/-- **The last place for a label** in a map of pairs is that of the pair that rules. -/
theorem getLast?_given_ofEntries (labels : ∀ p ∈ ps, p.1.IsLabel) :
    (l.given (Value.ofEntries ps)).getLast? = l.ruling? ps := by
  have spells : ∀ p ∈ l.given ps, p.1.Spells l := fun p hp => (mem_given.mp hp).2
  rw [given, Value.filter_ofEntries labels, ← given, ruling?]
  split
  · next none_given => rw [none_given]; rfl
  · next first rest given =>
    rw [given] at spells ⊢
    obtain ⟨v, kept, last⟩ := exists_ofEntries_cons spells
    rw [kept]
    cases others : (rest.filter fun p => !Value.same first.1 p.1).getLast? with
    | none =>
      rw [last others]
      rfl
    | some d => rfl

/-- **The last pair rules** if all pairs spell the label alike, but for one that may stand before
them. -/
theorem ruling?_of_alike (few : (l.given ds).length ≤ 1)
    (alike : ∀ p ∈ l.given ps, ∀ q ∈ l.given ps, p.1 = q.1) :
    l.ruling? (ds ++ ps) = (l.given ps).getLast?.or (l.given ds).getLast? := by
  have label : ∀ p ∈ l.given ps, p.1.IsLabel := fun p hp => (mem_given.mp hp).2.isLabel
  have default_label : ∀ d ∈ l.given ds, d.1.IsLabel := fun d hd => (mem_given.mp hd).2.isLabel
  rw [ruling?, given_append]
  generalize l.given ds = ds at few default_label ⊢
  generalize l.given ps = ps at alike label ⊢
  match ds, few with
  | [], _ =>
    cases ps with
    | nil => rfl
    | cons first rest =>
      have none_other : (rest.filter fun p => !Value.same first.1 p.1) = [] := by
        rw [List.filter_eq_nil_iff]
        intro p hp
        have eq := alike first (List.mem_cons_self ..) p (List.mem_cons_of_mem _ hp)
        rw [← eq, (label first (List.mem_cons_self ..)).same_self]
        exact Bool.false_ne_true
      simp only [List.nil_append, none_other, List.getLast?_nil, Option.none_or, Option.or_none]
  | [d], _ =>
    have isLabel := default_label d (List.mem_cons_self ..)
    simp only [List.singleton_append]
    cases ps with
    | nil => rfl
    | cons first rest =>
      have last : (d :: first :: rest).getLast? = (first :: rest).getLast? :=
        List.getLast?_cons_cons
      by_cases same : first.1 = d.1
      · have none_other : ((first :: rest).filter fun p => !Value.same d.1 p.1) = [] := by
          rw [List.filter_eq_nil_iff]
          intro p hp
          rw [← alike first (List.mem_cons_self ..) p hp, same, isLabel.same_self]
          exact Bool.false_ne_true
        rw [none_other, last, List.getLast?_nil, Option.none_or, List.getLast?_cons,
          Option.some_or]
      · have all_other : ((first :: rest).filter fun p => !Value.same d.1 p.1) = first :: rest := by
          rw [List.filter_eq_self]
          intro p hp
          rw [← alike first (List.mem_cons_self ..) p hp,
            isLabel.same_eq_false (label first (List.mem_cons_self ..)) (Ne.symm same)]
          rfl
        rw [all_other, List.getLast?_cons, Option.some_or, Option.some_or]

end Label

/-! ## The bucket -/

namespace Edit

variable {l : Label} {w : Value} {p : Value × Value} {ps : List (Value × Value)}

theorem assign_writes_iff : (assign p).Writes l w ↔ p.1.Spells l ∧ l.Stores p.2 w := by
  constructor
  · rintro ⟨spells, stores⟩
    exact ⟨spells, stores⟩
  · rintro ⟨spells, stores⟩
    exact .set spells stores

theorem touches_assign_iff (writes : ∃ l w, (assign p).Writes l w) :
    (assign p).Touches l ↔ p.1.Spells l := by
  obtain ⟨k, w, written⟩ := writes
  obtain ⟨spells, stores⟩ := assign_writes_iff.mp written
  constructor
  · intro touches
    cases touches.unique (.inl ⟨w, written⟩)
    exact spells
  · intro spells'
    cases spells.unique spells'
    exact .inl ⟨w, written⟩

/-- The last of some pairs that can be set is the last one that is given for the label. -/
theorem writesLast_assign_iff (writes : ∀ p ∈ ps, ∃ l w, (assign p).Writes l w) :
    WritesLast (ps.map assign) l w ↔ ∃ p, (l.given ps).getLast? = some p ∧ l.Stores p.2 w := by
  induction ps with
  | nil => simp [not_writesLast_nil, Label.given]
  | cons p ps ih =>
    rw [List.forall_mem_cons] at writes
    have untouched : (∀ o ∈ ps.map assign, ¬ o.Touches l) ↔ l.given ps = [] := by
      rw [List.forall_mem_map, Label.given, List.filter_eq_nil_iff]
      refine forall₂_congr fun q hq => ?_
      rw [touches_assign_iff (writes.2 q hq), Label.isSpelledBy_iff]
    rw [List.map_cons, writesLast_cons, ih writes.2, untouched, assign_writes_iff,
      Label.given_cons]
    by_cases spells : p.1.Spells l
    · rw [if_pos (Label.isSpelledBy_iff.mpr spells), List.getLast?_cons]
      cases last : (l.given ps).getLast? with
      | none => simp [List.getLast?_eq_none_iff.mp last, spells]
      | some q =>
        have some_given : l.given ps ≠ [] := by
          intro none_given
          rw [none_given] at last
          cases last
        simp [some_given]
    · rw [if_neg (mt Label.isSpelledBy_iff.mp spells)]
      simp [spells]

end Edit

namespace Bucket

variable {b : Bucket} {l : Label} {w : Value} {ps : List (Value × Value)}

/-- Pairs that can all be set are set in order. -/
theorem Editable.update_of_writes (h : b.Editable)
    (writes : ∀ p ∈ ps, ∃ l w, (Edit.assign p).Writes l w) :
    b.update (ps.map .ok) = (b.edited (ps.map .assign), .ok ()) := by
  induction ps generalizing b with
  | nil => rfl
  | cons p ps ih =>
    rw [List.forall_mem_cons] at writes
    obtain ⟨⟨l, w, writes₀⟩, writes⟩ := writes
    have stored : (Edit.assign p).applyTo b = .ok (b.store l w) :=
      h.applyTo_eq_ok_iff.mpr (.inl ⟨l, w, writes₀, rfl⟩)
    have set : b.set p.1 p.2 = .ok (b.store l w) := stored
    rw [List.map_cons, List.map_cons, edited_cons, edit_of_ok stored, update, set]
    exact ih (h.applyTo stored) writes

/-- A bucket is made from a map whose entries can all be set. -/
theorem ofSource_map (isProtected : Bool)
    (writes : ∀ p ∈ ps, ∃ l w, (Edit.assign p).Writes l w) :
    ofSource isProtected (.value (.map ps)) =
      .ok (edited { isProtected := isProtected } (ps.map .assign)) := by
  rw [ofSource]
  split
  · have done := (editable_empty isProtected).update_of_writes writes
    simp only [updateFrom, Source.parameters, Value.parameters, done]
  next absent =>
    have empty : ps = [] := by simpa [Source.isTruthy, Value.isTruthy] using absent
    rw [empty]
    rfl

/-- What a bucket has that was made from a map: for each label, what is stored for the last
entry that spells it, and nothing where there is none. -/
theorem holds_of_ofSource {isProtected : Bool}
    (made : ofSource isProtected (.value (.map ps)) = .ok b) (l : Label) :
    l.Holds (l.given ps).getLast? (b.find? l) := by
  obtain ⟨pairs, lists, rfl, writes⟩ := edited_of_ofSource made
  obtain rfl : pairs = ps := by
    rcases lists with ⟨absent, rfl⟩ | ⟨-, listed⟩
    · have empty : ps = [] := by simpa [Source.isTruthy, Value.isTruthy] using absent
      exact empty.symm
    · exact (List.map_injective_iff.mpr (fun _ _ => Except.ok.inj) (Except.ok.inj listed)).symm
  have found (w : Value) : (edited { isProtected := isProtected } (pairs.map .assign)).find? l =
      some w ↔ ∃ p, (l.given pairs).getLast? = some p ∧ l.Stores p.2 w := by
    rw [← lookup_table, (editable_empty isProtected).lookup_edited_iff,
      Edit.writesLast_assign_iff writes]
    have empty : (Bucket.table { isProtected := isProtected }).lookup l = none := rfl
    rw [empty]
    simp
  cases last : (l.given pairs).getLast? with
  | none =>
    have nothing : (edited { isProtected := isProtected } (pairs.map .assign)).find? l = none := by
      rw [Option.eq_none_iff_forall_ne_some]
      intro w there
      obtain ⟨p, given, -⟩ := (found w).mp there
      cases last.symm.trans given
    rw [nothing]
    exact Option.Rel.none
  | some p =>
    obtain ⟨mem, spells⟩ := Label.mem_given.mp (List.mem_of_getLast? last)
    obtain ⟨k, w, written⟩ := writes p mem
    obtain ⟨spells', stores⟩ := Edit.assign_writes_iff.mp written
    cases spells.unique spells'
    rw [(found w).mpr ⟨p, last, stores⟩]
    exact Option.Rel.some stores

/-- **A bucket made from a map of pairs** has for each label what is stored for the pair that
rules. -/
theorem holds_of_ofEntries {isProtected : Bool} (labels : ∀ p ∈ ps, p.1.IsLabel)
    (made : ofSource isProtected (.value (.map (Value.ofEntries ps))) = .ok b) (l : Label) :
    l.Holds (l.ruling? ps) (b.find? l) := by
  rw [← Label.getLast?_given_ofEntries labels]
  exact holds_of_ofSource made l

end Bucket

/-! ## The header for a certificate -/

/-- Labels may be keys. -/
theorem Value.IsLabel.isHashable {v : Value} (h : v.IsLabel) : v.isHashable = true := by
  cases h <;> rfl

/-- Entries under labels are merged by storing them in order. -/
theorem mergeParameters_eq {ds es : List (Value × Value)} (labels : ∀ e ∈ es, e.1.IsLabel) :
    mergeParameters ds (.map es) = .ok (Value.merge ds es) := by
  rw [mergeParameters]
  split
  next empty =>
    have none_given : es = [] := by simpa [Value.isTruthy] using empty
    rw [none_given]
    rfl
  next nonempty =>
    clear nonempty
    simp only [Value.parameters, Except.ok_bind]
    induction es generalizing ds with
    | nil => rfl
    | cons e es ih =>
      rw [List.forall_mem_cons] at labels
      rw [List.map_cons, List.foldlM_cons, Except.ok_bind]
      simp only [labels.1.isHashable, if_true]
      exact ih labels.2

/-- What the protected header for a certificate holds by default: the algorithm of the key, and
the fingerprint. -/
def certifiedDefaults (a : Algorithm) (kid : Bytes) : List (Value × Value) :=
  [(Label.alg.toValue, .algorithm a), (Label.kid.toValue, .bytes kid)]

/-- A certificate gives defaults: the registered algorithm of its key, and its fingerprint. -/
structure CertifiedBy [Key.Loader] (certificate : String) (key : Key) (a : Algorithm)
    (kid : Bytes) : Prop where
  loaded : Key.Loader.loadPublic certificate = .ok key
  algorithm : (do Algorithm.lookup (.text (← key.defaultAlgorithm))) = .ok a
  fingerprint : Key.Loader.fingerprint certificate = .ok kid

section

variable {certificate : String} {key : Key} {a : Algorithm} {kid : Bytes}
  {ps : List (Value × Value)}

theorem certifiedDefaults_isLabel : ∀ p ∈ certifiedDefaults a kid, p.1.IsLabel := by
  simp only [certifiedDefaults, List.forall_mem_cons, List.not_mem_nil, false_implies,
    implies_true, and_true]
  exact ⟨.int 1, .int 4⟩

/-- A certificate with a header has defaults. -/
theorem exists_certifiedBy [Key.Loader] {extra header : Value}
    (loaded : Key.Loader.loadPublic certificate = .ok key)
    (made : certifiedHeader certificate extra = .ok header) :
    ∃ a kid, CertifiedBy certificate key a kid := by
  obtain ⟨key', loaded', made⟩ := Except.bind_eq_ok.mp made
  cases loaded.symm.trans loaded'
  obtain ⟨name, named, made⟩ := Except.bind_eq_ok.mp made
  obtain ⟨kid, fingerprint, made⟩ := Except.bind_eq_ok.mp made
  obtain ⟨a, found, -⟩ := Except.bind_eq_ok.mp made
  exact ⟨a, kid, loaded, Except.bind_eq_ok.mpr ⟨name, named, found⟩, fingerprint⟩

/-- No label has two defaults. -/
theorem length_given_certifiedDefaults (l : Label) :
    (l.given (certifiedDefaults a kid)).length ≤ 1 := by
  by_cases isAlg : l = .alg
  · subst isAlg
    exact le_of_eq rfl
  · have other : l.isSpelledBy Label.alg.toValue = false :=
      Bool.eq_false_iff.mpr fun spelled =>
        isAlg ((Label.isSpelledBy_iff.mp spelled).unique (.int 1))
    rw [certifiedDefaults, Label.given_cons, other, if_neg Bool.false_ne_true]
    exact List.length_filter_le ..

/-- The two defaults do not replace each other. -/
theorem ofEntries_certifiedDefaults :
    Value.ofEntries (certifiedDefaults a kid) = certifiedDefaults a kid := by
  rw [certifiedDefaults, ← List.singleton_append, Value.ofEntries_concat]
  exact Value.insert_cons_of_ne (.int 4) (.int 1) nofun _ _ []

theorem certifiedDefaults_writes :
    ∀ p ∈ certifiedDefaults a kid, ∃ l w, (Edit.assign p).Writes l w := by
  simp only [certifiedDefaults, List.forall_mem_cons, List.not_mem_nil, false_implies,
    implies_true, and_true]
  exact ⟨⟨_, _, .set (.int 1) (.algorithm a)⟩, ⟨_, _, .set (.int 4) (.other (by decide) _)⟩⟩

/-- The header for a certificate is made from the defaults and the pairs that are added. -/
theorem CertifiedBy.certifiedHeader_eq [Key.Loader] (h : CertifiedBy certificate key a kid)
    (labels : ∀ p ∈ ps, p.1.IsLabel) :
    certifiedHeader certificate (.map (Value.ofEntries ps)) =
      .ok (.map (Value.ofEntries (certifiedDefaults a kid ++ ps))) := by
  obtain ⟨name, named, found⟩ := Except.bind_eq_ok.mp h.algorithm
  have merged : mergeParameters (certifiedDefaults a kid) (.map (Value.ofEntries ps)) =
      .ok (Value.ofEntries (certifiedDefaults a kid ++ ps)) := by
    rw [mergeParameters_eq (Value.isLabel_ofEntries labels),
      Value.merge_ofEntries labels certifiedDefaults_isLabel, Value.ofEntries_append,
      ofEntries_certifiedDefaults]
  rw [certifiedHeader, h.loaded, h.fingerprint, Except.ok_bind, named]
  simp only [Except.ok_bind, found]
  rw [certifiedDefaults] at merged
  rw [merged]
  rfl

/-- An unsigned message with a protected bucket and a payload. -/
def Sign1.fresh (prot : Bucket) (payload : Value) : Sign1 where
  prot := prot
  unprot := { isProtected := false }
  payload := payload
  signature := .bytes []
  state := .unsigned

/-- A message for a certificate is a fresh one, with a protected bucket that is made from the
defaults and the pairs that are added. -/
theorem CertifiedBy.forCertificate_eq [Key.Loader] (h : CertifiedBy certificate key a kid)
    (labels : ∀ p ∈ ps, p.1.IsLabel) (payload : Value) :
    Sign1.forCertificate payload certificate (.map (Value.ofEntries ps)) = (do
      let prot ← Bucket.ofSource true
        (.value (.map (Value.ofEntries (certifiedDefaults a kid ++ ps))))
      return .fresh prot (← checkPayload payload)) := by
  rw [Sign1.forCertificate, h.certifiedHeader_eq labels, Except.ok_bind, Sign1.ofSources,
    Layer.ofSources_eq]
  cases made : Bucket.ofSource true
    (.value (.map (Value.ofEntries (certifiedDefaults a kid ++ ps)))) with
  | error e =>
    have taken : (Source.value (.map (Value.ofEntries (certifiedDefaults a kid ++ ps)))).taken
        true = .error e := made
    rw [taken]
    rfl
  | ok prot =>
    have taken : (Source.value (.map (Value.ofEntries (certifiedDefaults a kid ++ ps)))).taken
        true = .ok prot := made
    rw [taken]
    rfl

/-- **What the protected bucket has** of a message for a certificate: for each label, what is stored
for the pair that rules, of the defaults and the pairs that are added behind them. Its payload is
the one that was given. -/
theorem CertifiedBy.holds [Key.Loader] (h : CertifiedBy certificate key a kid)
    (labels : ∀ p ∈ ps, p.1.IsLabel) {payload : Value} {m : Sign1}
    (made : Sign1.forCertificate payload certificate (.map (Value.ofEntries ps)) = .ok m) :
    checkPayload payload = .ok m.payload ∧
      ∀ l : Label, l.Holds (l.ruling? (certifiedDefaults a kid ++ ps)) (m.prot.find? l) := by
  rw [h.forCertificate_eq labels] at made
  obtain ⟨prot, taken, made⟩ := Except.bind_eq_ok.mp made
  obtain ⟨content, checked, ⟨⟩⟩ := Except.bind_eq_ok.mp made
  have all_labels := List.forall_mem_append.mpr ⟨@certifiedDefaults_isLabel a kid, labels⟩
  exact ⟨checked, Bucket.holds_of_ofEntries all_labels taken⟩

/-- A message for a certificate is made if the pairs that are added can be set. -/
theorem CertifiedBy.exists_forCertificate [Key.Loader] (h : CertifiedBy certificate key a kid)
    (labels : ∀ p ∈ ps, p.1.IsLabel) (writes : ∀ p ∈ ps, ∃ l w, (Edit.assign p).Writes l w)
    (payload : Bytes) :
    ∃ prot, Sign1.forCertificate (.bytes payload) certificate (.map (Value.ofEntries ps)) =
      .ok (.fresh prot (.bytes payload)) := by
  have all_labels := List.forall_mem_append.mpr ⟨@certifiedDefaults_isLabel a kid, labels⟩
  have all_writes := List.forall_mem_append.mpr ⟨@certifiedDefaults_writes a kid, writes⟩
  have kept : ∀ p ∈ Value.ofEntries (certifiedDefaults a kid ++ ps),
      ∃ l w, (Edit.assign p).Writes l w :=
    fun p hp => all_writes p (Value.mem_of_mem_ofEntries all_labels hp)
  rw [h.forCertificate_eq labels, Bucket.ofSource_map true kept]
  exact ⟨_, rfl⟩

end

end Cose
