import Cose.Proofs.Cbor.Written
import Cose.Proofs.Errors
import Cose.Proofs.Header.WellFormed
import Cose.Proofs.Value.Merging

/-!
# Labels that are received twice

A received bucket is made from a map of which the reader has merged equal keys already. So the
labels that are found twice are those that are spelled in two ways, as an integer and by its alias;
and a key that is no label is not found when it is equal to a label before it. Of equal keys the
last value counts. This is so for every reader that makes maps of what is written, whatever else it
takes to be equal.

## Main definitions

* `Cbor.MergesKeys`: readers that merge equal keys
* `Clash`: the keys for which a received map is refused
* `Layer.Clashes`: headers of which one map is refused for its keys

## Main results

* `Cbor.mergesKeys_same`: the reader that is used
* `Bucket.load_of_clash`, `Bucket.load_of_not_clash`: a received map is refused exactly for a clash of
  its keys
* `Bucket.decodeProtected_of_read`, `Bucket.decodeUnprotected_of_clash`: the same of buckets
* `Layer.decode_of_clashes`: layers that are refused
-/

namespace Cose

/-! ## Labels and their aliases -/

theorem Value.isLabel_iff {k : Value} : k.IsLabel ↔ ∃ l, Label.ofValue k = .ok l := by
  constructor
  · rintro (n | s)
    · exact ⟨_, rfl⟩
    · exact ⟨_, rfl⟩
  · rintro ⟨l, h⟩
    cases k with
    | int n => exact .int n
    | text s => exact .text s
    | _ => cases h

/-- An integer with fewer units than there may be digits can be written. -/
theorem Text.isWritable_of_lt {n : Int} (h : n.natAbs < maxDigits) : isWritable n = true := by
  rw [isWritable, decide_eq_true_iff]
  calc n.natAbs < 10 ^ n.natAbs := Nat.lt_pow_self (by decide)
    _ ≤ 10 ^ maxDigits := Nat.pow_le_pow_right (by decide) h.le

namespace Label

theorem ofText_cases (s : String) :
    ofText s = .text s ∨ ∃ l, (s, l) ∈ common ∧ ofText s = l := by
  rw [ofText]
  cases spelled : common.lookup s with
  | none => exact .inl rfl
  | some l =>
    obtain ⟨before, after, split, -⟩ := List.lookup_eq_some_iff.mp spelled
    exact .inr ⟨l, by simp [split], rfl⟩

/-- Different texts spell different labels. -/
theorem ofText_inj {s t : String} (h : ofText s = ofText t) : s = t := by
  have aliases : ∀ e ∈ common, ∀ e' ∈ common, e.2 = e'.2 → e.1 = e'.1 := by decide
  have numbers : ∀ e ∈ common, ∀ s, e.2 ≠ .text s := by
    simp [common, alg, crit, contentType, kid, iv, partialIv, counterSignature]
  rcases ofText_cases s with hs | ⟨l, hl, hs⟩ <;> rcases ofText_cases t with ht | ⟨l', hl', ht⟩
  · rw [hs, ht] at h
    cases h
    rfl
  · exact absurd (ht.symm.trans (h.symm.trans hs)) (numbers _ hl' s)
  · exact absurd (hs.symm.trans (h.trans ht)) (numbers _ hl t)
  · exact aliases _ hl _ hl' (hs.symm.trans (h.trans ht))

/-- Every label that a text spells can be written in a message. -/
theorem isWritable_ofText (s : String) : (ofText s).isWritable = true := by
  have short : ∀ e ∈ common, ∀ n, e.2 = .int n → n.natAbs < Text.maxDigits := by
    simp [common, alg, crit, contentType, kid, iv, partialIv, counterSignature, Text.maxDigits]
  rcases ofText_cases s with h | ⟨l, hl, h⟩
  · rw [h]
    rfl
  · rw [h]
    cases l with
    | int n => exact Text.isWritable_of_lt (short _ hl n rfl)
    | text t => rfl

/-- Only an alias spells a label once more, so that label can be written. -/
theorem isWritable_of_two {k k' : Value} {l : Label} (h : ofValue k = .ok l)
    (h' : ofValue k' = .ok l) (apart : k ≠ k') : l.isWritable = true := by
  have text (s : String) (h : ofValue (.text s) = .ok l) : l.isWritable = true :=
    Except.ok.inj h ▸ isWritable_ofText s
  rcases Value.isLabel_iff.mpr ⟨l, h⟩ with n | s
  · rcases Value.isLabel_iff.mpr ⟨l, h'⟩ with m | s
    · have equal : Label.int n = .int m := (Except.ok.inj h).trans (Except.ok.inj h').symm
      cases equal
      exact absurd rfl apart
    · exact text s h'
  · exact text s h

end Label

/-! ## Loading -/

namespace Bucket

/-- An entry is loaded: its key spells the label, and its value stays. -/
def Loaded (p : Value × Value) (e : Label × Value) : Prop :=
  Label.ofValue p.1 = .ok e.1 ∧ p.2 = e.2

variable {es loaded : List (Label × Value)} {pairs : List (Value × Value)}

theorem isSome_lookup_iff {l : Label} : (es.lookup l).isSome = true ↔ l ∈ es.map Prod.fst := by
  rw [List.lookup_isSome_iff]
  simp

/-- Loading answers exactly if all keys are labels, and none of them was there before. -/
theorem load_eq_ok_iff (nodup : (es.map Prod.fst).Nodup) :
    load es pairs = .ok loaded ↔ ∃ rest, loaded = es ++ rest ∧
      List.Forall₂ Loaded pairs rest ∧
      ((es ++ rest).map Prod.fst).Nodup := by
  induction pairs generalizing es with
  | nil =>
    constructor
    · rintro ⟨⟩
      exact ⟨[], by simp, .nil, by simpa using nodup⟩
    · rintro ⟨rest, rfl, h, -⟩
      cases h
      simp [load]
  | cons p pairs ih =>
    obtain ⟨k, v⟩ := p
    rw [load]
    cases spelled : Label.ofValue k with
    | error e =>
      refine iff_of_false (by cases e <;> simp) ?_
      rintro ⟨_, -, _ | ⟨⟨first, -⟩, -⟩, -⟩
      exact absurd (spelled.symm.trans first) (by simp)
    | ok l =>
      simp only
      by_cases there : l ∈ es.map Prod.fst
      · rw [if_pos (isSome_lookup_iff.mpr there)]
        refine iff_of_false (by simp) ?_
        rintro ⟨_, -, answers, distinct⟩
        obtain ⟨d, rest, ⟨first, -⟩, -, rfl⟩ := List.forall₂_cons_left_iff.mp answers
        cases spelled.symm.trans first
        rw [List.map_append, List.nodup_append] at distinct
        exact distinct.2.2 d.1 there d.1 (by simp) rfl
      have extended : ((es ++ [(l, v)]).map Prod.fst).Nodup := by
        rw [List.map_append, List.nodup_append]
        refine ⟨nodup, List.nodup_singleton l, fun l' hl' m hm => ?_⟩
        cases List.mem_singleton.mp hm
        rintro rfl
        exact there hl'
      rw [if_neg fun h => there (isSome_lookup_iff.mp h), ih extended]
      constructor
      · rintro ⟨rest, rfl, others, distinct⟩
        exact ⟨(l, v) :: rest, by simp, .cons ⟨spelled, rfl⟩ others, by simpa using distinct⟩
      · rintro ⟨_, rfl, answers, distinct⟩
        obtain ⟨⟨m, w⟩, rest, ⟨first, rfl⟩, others, rfl⟩ := List.forall₂_cons_left_iff.mp answers
        cases spelled.symm.trans first
        exact ⟨rest, by simp, others, by simpa using distinct⟩

theorem load_nil_eq_ok_iff :
    load [] pairs = .ok loaded ↔
      List.Forall₂ Loaded pairs loaded ∧ (loaded.map Prod.fst).Nodup := by
  have nodup : (([] : List (Label × Value)).map Prod.fst).Nodup := List.nodup_nil
  rw [load_eq_ok_iff nodup]
  simp

/-- Loading entries whose keys are told apart fails with an error about what was received. -/
theorem load_eq_error {seen : List Value} {e : Error} {eq : Value → Value → Bool}
    (equality : Value.KeyEquality eq)
    (before : List.Forall₂ (fun k d => Label.ofValue k = .ok d.1) seen es)
    (apart : (seen ++ pairs.map Prod.fst).Pairwise fun d k => eq k d = false)
    (h : load es pairs = .error e) : ∃ fault, e = .decode fault := by
  induction pairs generalizing es seen with
  | nil => cases h
  | cons p pairs ih =>
    obtain ⟨k, v⟩ := p
    rw [load] at h
    cases spelled : Label.ofValue k with
    | error e' =>
      rw [spelled] at h
      cases k <;> cases spelled <;> cases h <;> exact ⟨_, rfl⟩
    | ok l =>
      simp only [spelled] at h
      split at h
      · next there =>
        obtain ⟨d, hd, rfl⟩ := List.mem_map.mp (isSome_lookup_iff.mp there)
        obtain ⟨k', hk', spelled'⟩ := Forall₂.exists_left before hd
        have other : eq k k' = false := (List.pairwise_append.mp apart).2.2 k' hk' k (by simp)
        have differ : k ≠ k' := by
          rintro rfl
          rw [equality.refl (Value.isLabel_iff.mpr ⟨_, spelled⟩)] at other
          cases other
        rw [Label.isWritable_of_two spelled spelled' differ] at h
        cases h
        exact ⟨_, rfl⟩
      · refine @ih (es ++ [(l, v)]) (seen ++ [k]) ?_ (by simpa using apart) h
        exact List.rel_append before (.cons spelled .nil)

end Bucket

/-! ## Readers that merge keys -/

/-- **A reader merges equal keys**: a map that it reads is made of pairs, for an equality of keys that
tells labels apart. -/
structure Cbor.MergesKeys [Cbor.Reader] (eq : Value → Value → Bool) : Prop where
  equality : Value.KeyEquality eq
  merged {b : Bytes} {es : List (Value × Value)} : Cbor.Reader.read b = .ok (.map es) →
    ∃ pairs, es = Value.entriesBy eq pairs

/-- A map that is written is read with its keys merged. -/
theorem Cbor.read_of_written {b : Bytes} {pairs : List (Value × Value)}
    (written : written? b = some (.map pairs)) :
    Reader.read b = .ok (.map (Value.entriesBy Value.same (Value.mergedEntries pairs))) := by
  rw [Reader.read_eq_ok, decode?_eq_merged, written, ← Value.ofEntries_eq_entriesBy]
  rfl

/-- The reader that is used merges keys that are equal as values. -/
theorem Cbor.mergesKeys_same : MergesKeys Value.same where
  equality := Value.keyEquality_same
  merged read := by
    obtain ⟨pairs, -, rfl⟩ := written?_of_decode? (Reader.read_eq_ok.mp read)
    exact ⟨_, Value.ofEntries_eq_entriesBy _⟩

/-! ## Keys that clash -/

/-- The keys for which a received map is refused: one is no label, and equal to no label before
it; or an integer and a text spell the same label. -/
inductive Clash (eq : Value → Value → Bool) (ks : List Value) : Prop
  | type {before after : List Value} {k : Value} (place : ks = before ++ k :: after)
      (other : ¬ k.IsLabel) (alone : ∀ l ∈ before, l.IsLabel → eq k l = false) : Clash eq ks
  | spelling {n : Int} {s : String} (int : .int n ∈ ks) (text : .text s ∈ ks)
      (same : Label.ofText s = .int n) : Clash eq ks

section Clash

open Value (keysBy entriesBy IsLabel KeyEquality)

variable {eq : Value → Value → Bool} {ks : List Value}

theorem Clash.append (h : Clash eq ks) (ls : List Value) : Clash eq (ks ++ ls) := by
  cases h with
  | @type before after k place other alone =>
    exact .type (by rw [place, List.append_assoc, List.cons_append]) other alone
  | spelling int text same =>
    exact .spelling (List.mem_append_left _ int) (List.mem_append_left _ text) same

/-- Without a clash all keys that are kept are labels. -/
theorem isLabel_of_not_clash (equality : KeyEquality eq) (h : ¬ Clash eq ks) :
    ∀ k ∈ keysBy eq ks, k.IsLabel := by
  -- The first key that is kept and is no label has only labels before it that are kept.
  induction ks using List.reverseRecOn with
  | nil => exact fun k hk => absurd hk List.not_mem_nil
  | append_singleton ks k ih =>
    have labels := ih fun clash => h (clash.append [k])
    rw [Value.keysBy_concat]
    split
    · exact labels
    next fresh =>
    rw [List.forall_mem_append, List.forall_mem_singleton]
    refine ⟨labels, not_not.mp fun other => h (.type rfl other fun l hl label => ?_)⟩
    have kept := label.mem_keysBy equality labels hl
    exact Bool.eq_false_iff.mpr fun equal => fresh (List.any_eq_true.mpr ⟨l, kept, equal⟩)

theorem exists_not_isLabel {before after : List Value} {k : Value} (other : ¬ k.IsLabel)
    (alone : ∀ l ∈ before, l.IsLabel → eq k l = false) :
    ∃ d ∈ keysBy eq (before ++ k :: after), ¬ d.IsLabel := by
  rcases Value.mem_or_equal_of_split before k after with kept | ⟨d, hd, equal⟩
  · exact ⟨k, kept, other⟩
  · refine ⟨d, Value.keysBy_subset_append before (k :: after) hd, fun label => ?_⟩
    exact absurd equal (by simp [alone d (Value.mem_of_mem_keysBy hd) label])

/-- Without a clash no two keys that are kept spell the same label. -/
theorem ofValue_inj_of_not_clash (equality : KeyEquality eq) (h : ¬ Clash eq ks) {k k' : Value}
    {l : Label} (hk : k ∈ keysBy eq ks) (hk' : k' ∈ keysBy eq ks)
    (spelled : Label.ofValue k = .ok l) (spelled' : Label.ofValue k' = .ok l) : k = k' := by
  have mem := Value.mem_of_mem_keysBy hk
  have mem' := Value.mem_of_mem_keysBy hk'
  rcases isLabel_of_not_clash equality h k hk with n | s <;>
    rcases isLabel_of_not_clash equality h k' hk' with m | t
  · have equal : Label.int n = .int m := (Except.ok.inj spelled).trans (Except.ok.inj spelled').symm
    cases equal
    rfl
  · exact absurd (.spelling mem mem' ((Except.ok.inj spelled').trans (Except.ok.inj spelled).symm)) h
  · exact absurd (.spelling mem' mem ((Except.ok.inj spelled).trans (Except.ok.inj spelled').symm)) h
  · rw [Label.ofText_inj ((Except.ok.inj spelled).trans (Except.ok.inj spelled').symm)]

end Clash

namespace Bucket

variable {eq : Value → Value → Bool}

theorem lookup_loaded {pairs : List (Value × Value)} {loaded : List (Label × Value)} {k : Value}
    {l : Label} (h : List.Forall₂ Loaded pairs loaded)
    (spells : ∀ p ∈ pairs, eq k p.1 = true ↔ Label.ofValue p.1 = .ok l) :
    loaded.lookup l = (pairs.find? fun e => eq k e.1).map Prod.snd := by
  induction h with
  | nil => rfl
  | @cons p e pairs loaded first others ih =>
    obtain ⟨l', v⟩ := e
    obtain ⟨spelled, value⟩ := first
    rw [List.forall_mem_cons] at spells
    rw [List.lookup_cons, List.find?_cons, ih spells.2]
    by_cases equal : l = l'
    · subst equal
      rw [beq_self_eq_true, spells.1.mpr spelled, Option.map_some, value]
    · have other : eq k p.1 = false := Bool.eq_false_iff.mpr fun same =>
        equal (Except.ok.inj ((spells.1.mp same).symm.trans spelled))
      rw [beq_false_of_ne equal, other]

/-- The labels that are loaded are those that the keys of the map spell. -/
theorem spelled_of_loaded {pairs : List (Value × Value)} {loaded : List (Label × Value)}
    (answers : List.Forall₂ Loaded (Value.entriesBy eq pairs) loaded) :
    List.Forall₂ (fun k l => Label.ofValue k = .ok l) (Value.keysBy eq (pairs.map Prod.fst))
      (loaded.map Prod.fst) := by
  rw [← Value.keys_entriesBy pairs, List.forall₂_map_left_iff, List.forall₂_map_right_iff]
  exact answers.imp fun _ _ h => h.1

/-- **A received map is refused** for a clash of its keys, as they were before equal ones were
merged. -/
theorem load_of_clash (equality : Value.KeyEquality eq) {pairs : List (Value × Value)}
    (clash : Clash eq (pairs.map Prod.fst)) :
    ∃ fault, load [] (Value.entriesBy eq pairs) = .error (.decode fault) := by
  rcases loads : load [] (Value.entriesBy eq pairs) with e | loaded
  · have apart : ((Value.entriesBy eq pairs).map Prod.fst).Pairwise fun d k => eq k d = false :=
      Value.keys_entriesBy pairs ▸ Value.pairwise_keysBy _
    obtain ⟨fault, rfl⟩ := load_eq_error equality .nil apart loads
    exact ⟨fault, rfl⟩
  · obtain ⟨answers, distinct⟩ := load_nil_eq_ok_iff.mp loads
    have spelled := spelled_of_loaded answers
    have labels : ∀ k ∈ Value.keysBy eq (pairs.map Prod.fst), k.IsLabel := fun k hk => by
      obtain ⟨i, hi⟩ := List.getElem?_of_mem hk
      obtain ⟨l, -, h⟩ := Forall₂.exists_getElem? spelled hi
      exact Value.isLabel_iff.mpr ⟨l, h⟩
    cases clash with
    | type place other alone =>
      obtain ⟨d, hd, other⟩ := exists_not_isLabel other alone
      exact absurd (labels d (place ▸ hd)) other
    | @spelling n s int text same =>
      have equal := Forall₂.inj_of_nodup spelled distinct
        (fun _ _ _ h h' => Except.ok.inj (h.symm.trans h'))
        (Value.IsLabel.mem_keysBy (.int n) equality labels int)
        (Value.IsLabel.mem_keysBy (.text s) equality labels text) (y := .int n) rfl
        (congrArg _ same)
      cases equal

/-- **A received map without a clash is accepted**: each label has the value of the last pair with an
equal key. -/
theorem load_of_not_clash (equality : Value.KeyEquality eq) {pairs : List (Value × Value)}
    (free : ¬ Clash eq (pairs.map Prod.fst)) :
    ∃ loaded, load [] (Value.entriesBy eq pairs) = .ok loaded ∧
      ∀ k ∈ pairs.map Prod.fst, ∀ l, Label.ofValue k = .ok l →
        loaded.lookup l = (pairs.reverse.find? fun e => eq e.1 k).map Prod.snd := by
  have labels := isLabel_of_not_clash equality free
  have kept {p : Value × Value} (hp : p ∈ Value.entriesBy eq pairs) :
      p.1 ∈ Value.keysBy eq (pairs.map Prod.fst) :=
    Value.keys_entriesBy pairs ▸ List.mem_map_of_mem hp
  obtain ⟨loaded, answers⟩ : ∃ loaded, List.Forall₂ Loaded (Value.entriesBy eq pairs) loaded := by
    refine Forall₂.exists_of_forall fun p hp => ?_
    obtain ⟨l, spelled⟩ := Value.isLabel_iff.mp (labels p.1 (kept hp))
    exact ⟨(l, p.2), spelled, rfl⟩
  have distinct : (loaded.map Prod.fst).Nodup :=
    Forall₂.nodup (spelled_of_loaded answers) (Value.nodup_keysBy_of_labels equality labels)
      fun k hk k' hk' l h h' => ofValue_inj_of_not_clash equality free hk hk' h h'
  refine ⟨loaded, load_nil_eq_ok_iff.mpr ⟨answers, distinct⟩, fun k hk l spelled => ?_⟩
  have label := Value.isLabel_iff.mpr ⟨l, spelled⟩
  have mem := label.mem_keysBy equality labels hk
  rw [← Value.find?_entriesBy equality label labels, lookup_loaded answers fun p hp => ?_]
  rw [equality.iff label (labels p.1 (kept hp))]
  constructor
  · intro equal
    exact equal ▸ spelled
  · exact ofValue_inj_of_not_clash equality free mem (kept hp) spelled

/-! ## Buckets -/

variable [Cbor.Reader]

/-- Of a protected bucket what is received fails with an error about that, or with an error of the
reader. -/
theorem decodeProtected_eq_error (reader : Cbor.MergesKeys eq) {v : Value} {e : Error}
    (h : decodeProtected v = .error e) :
    (∃ fault, e = .decode fault) ∨
      ∃ b fault, v = .bytes b ∧ b ≠ [] ∧ Cbor.Raises b fault ∧ e = .fault fault := by
  unfold decodeProtected at h
  split at h
  · cases h
  · next b nonempty =>
    split at h
    · cases h
      exact .inl ⟨_, rfl⟩
    · next fault raised =>
      cases h
      exact .inr ⟨b, fault, rfl, nonempty, raised, rfl⟩
    · next es read =>
      obtain ⟨pairs, rfl⟩ := reader.merged read
      by_cases clash : Clash eq (pairs.map Prod.fst)
      · obtain ⟨fault, failed⟩ := load_of_clash reader.equality clash
        rw [failed] at h
        cases h
        exact .inl ⟨fault, rfl⟩
      · obtain ⟨loaded, ok, -⟩ := load_of_not_clash reader.equality clash
        rw [ok] at h
        cases h
    · cases h
      exact .inl ⟨_, rfl⟩
  · cases h
    exact .inl ⟨_, rfl⟩

/-- **A protected bucket is refused** exactly for a clash of the keys that are written. -/
theorem decodeProtected_of_read (equality : Value.KeyEquality eq) {b : Bytes}
    {pairs : List (Value × Value)} (nonempty : b ≠ [])
    (read : Cbor.Reader.read b = .ok (.map (Value.entriesBy eq pairs))) :
    (Clash eq (pairs.map Prod.fst) →
        ∃ fault, decodeProtected (.bytes b) = .error (.decode fault)) ∧
      (¬ Clash eq (pairs.map Prod.fst) →
        ∃ bucket, decodeProtected (.bytes b) = .ok bucket ∧
          ∀ k ∈ pairs.map Prod.fst, ∀ l, Label.ofValue k = .ok l →
            bucket.find? l = (pairs.reverse.find? fun e => eq e.1 k).map Prod.snd) := by
  have decodes : decodeProtected (.bytes b) =
      (load [] (Value.entriesBy eq pairs)).map fun entries =>
        { isProtected := true, entries := entries, fixed := some b } := by
    cases b with
    | nil => exact absurd rfl nonempty
    | cons x b => simp only [decodeProtected, read]
  rw [decodes]
  constructor
  · intro clash
    obtain ⟨fault, failed⟩ := load_of_clash equality clash
    rw [failed]
    exact ⟨fault, rfl⟩
  · intro free
    obtain ⟨loaded, ok, last⟩ := load_of_not_clash equality free
    rw [ok]
    exact ⟨_, rfl, last⟩

omit [Cbor.Reader] in
theorem decodeUnprotected_of_clash (equality : Value.KeyEquality eq) {pairs : List (Value × Value)}
    (clash : Clash eq (pairs.map Prod.fst)) :
    ∃ fault, decodeUnprotected (.map (Value.entriesBy eq pairs)) = .error (.decode fault) := by
  obtain ⟨fault, failed⟩ := load_of_clash equality clash
  rw [decodeUnprotected, failed]
  exact ⟨fault, rfl⟩

end Bucket

/-! ## Layers -/

section Layer

variable [Cbor.Reader] {eq : Value → Value → Bool} {prot unprot : Value}

/-- The headers that are received clash: the pairs of the protected bucket or those of the
unprotected one. -/
inductive Layer.Clashes (eq : Value → Value → Bool) (prot unprot : Value) : Prop
  | prot {b : Bytes} {pairs : List (Value × Value)} (bytes : prot = .bytes b) (nonempty : b ≠ [])
      (read : Cbor.Reader.read b = .ok (.map (Value.entriesBy eq pairs)))
      (clash : Clash eq (pairs.map Prod.fst)) : Clashes eq prot unprot
  | unprot {pairs : List (Value × Value)} (map : unprot = .map (Value.entriesBy eq pairs))
      (clash : Clash eq (pairs.map Prod.fst)) : Clashes eq prot unprot

/-- **A layer whose headers clash is refused**, unless the reader fails over the protected ones. -/
theorem Layer.decode_of_clashes (reader : Cbor.MergesKeys eq) (h : Clashes eq prot unprot) :
    (∃ fault, Layer.decode prot unprot = .error (.decode fault)) ∨
      ∃ b fault, prot = .bytes b ∧ b ≠ [] ∧ Cbor.Raises b fault ∧
        Layer.decode prot unprot = .error (.fault fault) := by
  rw [Layer.decode]
  cases h with
  | prot bytes nonempty read clash =>
    obtain ⟨fault, failed⟩ := (Bucket.decodeProtected_of_read reader.equality nonempty read).1 clash
    rw [bytes, failed]
    exact .inl ⟨fault, rfl⟩
  | unprot map clash =>
    rcases decodes : Bucket.decodeProtected prot with e | p
    · rcases Bucket.decodeProtected_eq_error reader decodes with
        ⟨fault, rfl⟩ | ⟨b, fault, bytes, nonempty, raised, rfl⟩
      · exact .inl ⟨fault, rfl⟩
      · exact .inr ⟨b, fault, bytes, nonempty, raised, rfl⟩
    · obtain ⟨fault, failed⟩ := Bucket.decodeUnprotected_of_clash reader.equality clash
      rw [map, Except.ok_bind, failed]
      exact .inl ⟨fault, rfl⟩

end Layer

end Cose
