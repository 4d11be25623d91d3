import Cose.Proofs.Header.Reread

/-!
# Well-formed buckets and layers

The bytes of a finalized bucket are bytes of its entries: it was decoded from them, or they are its
own encoding. All operations on buckets keep that, since none changes the entries of a finalized
one. So a well-formed layer comes back from its encoded form whether it is finalized or not.

## Main definitions

* `Bucket.WellFormed`, `Layer.WellFormed`: fixed bytes belong to the entries
* `Layer.ReadBack`: a layer that has come back from its encoded form

## Main results

* `Bucket.WellFormed.set`, `Bucket.WellFormed.updateFrom`, `Bucket.WellFormed.finalize`: setting
  parameters and fixing the bytes keep it
* `Bucket.wellFormed_of_decodeProtected`, `Layer.wellFormed_of_decode`: decoding establishes it
* `Layer.WellFormed.decode_received`: encoded layers come back
-/

namespace Cose

open Cbor (Form received)

namespace Bucket

variable {b b' : Bucket}

/-- The bucket with the same entries whose bytes are not fixed. -/
def unfixed (b : Bucket) : Bucket :=
  { isProtected := b.isProtected, entries := b.entries }

theorem unfixed_of_fixed (h : b.fixed = none) : b.unfixed = b :=
  eq_of_fields rfl rfl h.symm

/-- **The fixed bytes of a bucket belong to its entries**: it is what they are decoded to, or they
are what it is encoded as. -/
structure WellFormed [Cbor.Reader] (b : Bucket) : Prop where
  labelled : b.Labelled
  fixed : ∀ p, b.fixed = some p → b.isProtected = true ∧
    (decodeProtected (.bytes p) = .ok b ∨ b.unfixed.encode = .ok p)

theorem Labelled.wellFormed [Cbor.Reader] (h : b.Labelled) (unfixed : b.fixed = none) : b.WellFormed :=
  ⟨h, fun p fixed => by rw [unfixed] at fixed; cases fixed⟩

/-! ## Changes -/

theorem WellFormed.set [Cbor.Reader] {label value : Value} (h : b.WellFormed) (hs : b.set label value = .ok b') :
    b'.WellFormed := by
  refine (h.labelled.set hs).wellFormed ?_
  obtain ⟨unfixed, l, v, -, rfl⟩ := set_eq_ok hs
  exact isFinalized_eq_false_iff.mp unfixed

theorem WellFormed.update [Cbor.Reader] (h : b.WellFormed) (ps : List (Except Error (Value × Value))) :
    (b.update ps).1.WellFormed := by
  induction ps generalizing b with
  | nil => exact h
  | cons p ps ih =>
    rcases p with e | ⟨label, value⟩
    · exact h
    rw [Bucket.update]
    split
    · next hs => exact ih (h.set hs)
    · exact h

theorem WellFormed.updateFrom [Cbor.Reader] (h : b.WellFormed) (s : Source) : (b.updateFrom s).1.WellFormed := by
  rw [Bucket.updateFrom]
  split
  · exact h.update _
  · exact h

theorem update_isProtected (b : Bucket) (ps : List (Except Error (Value × Value))) :
    (b.update ps).1.isProtected = b.isProtected := by
  induction ps generalizing b with
  | nil => rfl
  | cons p ps ih =>
    rcases p with e | ⟨label, value⟩
    · rfl
    rw [Bucket.update]
    split
    · next c hs =>
      obtain ⟨-, l, v, -, rfl⟩ := set_eq_ok hs
      exact ih (b.store l v)
    · rfl

theorem ofSource_isProtected {isProtected : Bool} {s : Source}
    (h : ofSource isProtected s = .ok b) : b.isProtected = isProtected := by
  rw [ofSource] at h
  split at h
  · split at h
    · next hu =>
      cases h
      rw [updateFrom] at hu
      split at hu
      · next ps _ =>
        have kept := update_isProtected { isProtected := isProtected } ps
        rwa [hu] at kept
      · cases hu
    · cases h
  · cases h
    rfl

/-- A new bucket is well formed. -/
theorem wellFormed_ofSource [Cbor.Reader] {isProtected : Bool} {s : Source} (h : ofSource isProtected s = .ok b) :
    b.WellFormed := by
  have fresh : WellFormed { isProtected := isProtected } := (labelled_empty _ _).wellFormed rfl
  rw [ofSource] at h
  split at h
  · have kept := fresh.updateFrom s
    split at h
    · next hu =>
      cases h
      rwa [hu] at kept
    · cases h
  · cases h
    exact fresh

/-- The bytes of a well-formed bucket stay when it is finalized. -/
theorem WellFormed.fixed_encode [Cbor.Reader] {p : Bytes} (h : b.WellFormed) (encoded : b.encode = .ok p) :
    WellFormed (b.fix p) := by
  refine ⟨⟨h.labelled.nodup, h.labelled.canonical⟩, fun q hq => ?_⟩
  cases hq
  obtain ⟨isProtected, fixed | ⟨unfixed, -⟩⟩ := encode_eq_ok encoded
  · rw [fix_of_fixed fixed]
    exact h.fixed p fixed
  · have same : (b.fix p).unfixed = b := unfixed_of_fixed unfixed
    exact ⟨isProtected, .inr (by rw [same, encoded])⟩

theorem WellFormed.finalize [Cbor.Reader] {p : Bytes} (h : b.WellFormed) (hf : b.finalize = .ok (b', p)) :
    b'.WellFormed := by
  obtain ⟨q, encoded, hq⟩ := Except.map_eq_ok.mp hf
  cases hq
  exact h.fixed_encode encoded

/-! ## Received buckets -/

theorem labelled_load {es : List (Label × Value)} {pairs : List (Value × Value)}
    (h : Labelled { isProtected := true, entries := es }) {loaded : List (Label × Value)}
    (hl : load es pairs = .ok loaded) : Labelled { isProtected := true, entries := loaded } := by
  induction pairs generalizing es with
  | nil =>
    cases hl
    exact h
  | cons p pairs ih =>
    obtain ⟨k, v⟩ := p
    rw [load] at hl
    split at hl
    · cases hl
    · cases hl
    next l spelled =>
    split at hl
    · cases hl
    next fresh =>
    -- A label that is there already is refused, so a loaded one is stored at the end.
    have absent : l ∉ es.map Prod.fst := by
      intro mem
      exact fresh (List.lookup_isSome_iff.mpr (by simpa using mem))
    refine ih ?_ hl
    have stored := h.store (Label.isCanonical_of_ofValue spelled) v
    rwa [store, storeEntry_of_not_mem absent] at stored

theorem wellFormed_of_decodeProtected [Cbor.Reader] {v : Value} (h : decodeProtected v = .ok b) :
    b.WellFormed ∧ b.isProtected = true ∧ ∃ p, v = .bytes p ∧ b.fixed = some p := by
  have received := h
  unfold decodeProtected at h
  split at h
  · cases h
    exact ⟨⟨labelled_empty _ _, fun p hp => by cases hp; exact ⟨rfl, .inl rfl⟩⟩, rfl, [], rfl, rfl⟩
  · split at h
    · cases h
    · cases h
    · obtain ⟨entries, loaded, rfl⟩ := Except.map_eq_ok.mp h
      have labelled := labelled_load (labelled_empty true none) loaded
      exact ⟨⟨⟨labelled.nodup, labelled.canonical⟩, fun p hp => by
        cases hp
        exact ⟨rfl, .inl received⟩⟩, rfl, _, rfl, rfl⟩
    · cases h
  · cases h

theorem wellFormed_of_decodeUnprotected [Cbor.Reader] {v : Value} (h : decodeUnprotected v = .ok b) :
    b.WellFormed ∧ b.isProtected = false := by
  unfold decodeUnprotected at h
  split at h
  · obtain ⟨entries, loaded, rfl⟩ := Except.map_eq_ok.mp h
    have labelled := labelled_load (labelled_empty true none) loaded
    have own : Labelled { isProtected := false, entries := entries } :=
      ⟨labelled.nodup, labelled.canonical⟩
    exact ⟨own.wellFormed rfl, rfl⟩
  · cases h

theorem rereads_id (b : Bucket) : Rereads id b b :=
  ⟨Value.rereading_id, rfl, by simp⟩

/-- A well-formed protected bucket comes back from its bytes. -/
theorem WellFormed.decodeProtected_encode {keys : List Value → Prop} {p : Bytes} (h : b.WellFormed)
    (plain : b.Plain keys (Cbor.maxDepth - 1)) (simple : ∀ ks, Value.SimpleKeys ks → keys ks)
    (encoded : b.encode = .ok p) (fits : p.length < 2 ^ 64) :
    ∃ f b', decodeProtected (.bytes p) = .ok b' ∧ Rereads f b b' := by
  have unfixed : b.unfixed.encode = .ok p → ∃ f b',
      decodeProtected (.bytes p) = .ok b' ∧ Rereads f b b' := by
    intro own
    have labelled : Labelled b.unfixed := ⟨h.labelled.nodup, h.labelled.canonical⟩
    have isProtected : b.isProtected = true := (encode_eq_ok own).1
    have rereads := b.rereads_readEntries .canonical (some p)
    rw [isProtected] at rereads
    exact ⟨_, _, labelled.decodeProtected_encode plain simple rfl own fits, rereads⟩
  obtain ⟨isProtected, fixed | ⟨unfinalized, -⟩⟩ := encode_eq_ok encoded
  · rcases (h.fixed p fixed).2 with received | own
    · exact ⟨id, b, received, rereads_id b⟩
    · exact unfixed own
  · refine unfixed ?_
    rw [unfixed_of_fixed unfinalized, encoded]

end Bucket

/-! ## Layers -/

namespace Source

/-- A source is well formed if a bucket that it holds is. -/
def WellFormed [Cbor.Reader] : Source → Prop
  | .bucket b => b.WellFormed
  | .value _ | .object => True

/-- The bucket of a kind that a layer takes from a source. -/
def taken (isProtected : Bool) (s : Source) : Except Error Bucket :=
  match s with
  | .bucket b => if b.isProtected = isProtected then .ok b else Bucket.ofSource isProtected s
  | _ => Bucket.ofSource isProtected s

theorem WellFormed.taken [Cbor.Reader] {isProtected : Bool} {s : Source} {b : Bucket} (h : s.WellFormed)
    (ht : s.taken isProtected = .ok b) : b.WellFormed ∧ b.isProtected = isProtected := by
  have fresh : Bucket.ofSource isProtected s = .ok b →
      b.WellFormed ∧ b.isProtected = isProtected := fun made =>
    ⟨Bucket.wellFormed_ofSource made, Bucket.ofSource_isProtected made⟩
  cases s with
  | bucket c =>
    rw [Source.taken] at ht
    split at ht
    · next own =>
      cases ht
      exact ⟨h, own⟩
    · exact fresh ht
  | value | object => exact fresh ht

end Source

theorem Layer.ofSources_eq (prot unprot : Source) :
    Layer.ofSources prot unprot = do
      let p ← prot.taken true
      let u ← unprot.taken false
      return ⟨p, u⟩ := by
  cases prot <;> cases unprot <;> simp only [ofSources, Source.taken] <;>
    split <;> simp_all <;> split <;> simp_all

namespace Layer

variable {h h' : Layer} {p : Bytes}

/-- **A well-formed layer** has a protected and an unprotected bucket that are well formed. -/
structure WellFormed [Cbor.Reader] (h : Layer) : Prop where
  prot : h.prot.WellFormed
  unprot : h.unprot.WellFormed
  isProtected : h.prot.isProtected = true
  isUnprotected : h.unprot.isProtected = false

/-- A layer of well-formed sources is well formed. -/
theorem wellFormed_of_ofSources [Cbor.Reader] {prot unprot : Source} (hp : prot.WellFormed)
    (hu : unprot.WellFormed) (hs : ofSources prot unprot = .ok h) : h.WellFormed := by
  rw [ofSources_eq] at hs
  obtain ⟨b, hb, hs⟩ := Except.bind_eq_ok.mp hs
  obtain ⟨u, hu', hs⟩ := Except.bind_eq_ok.mp hs
  cases hs
  obtain ⟨wb, isProtected⟩ := hp.taken hb
  obtain ⟨wu, isUnprotected⟩ := hu.taken hu'
  exact ⟨wb, wu, isProtected, isUnprotected⟩

/-- **A layer that is received** is well formed. -/
theorem wellFormed_of_decode [Cbor.Reader] {prot unprot : Value} (hd : decode prot unprot = .ok h) :
    h.WellFormed ∧ h.check = .ok () ∧ ∃ p, prot = .bytes p ∧ h.prot.encode = .ok p ∧
      Bucket.decodeProtected (.bytes p) = .ok h.prot := by
  obtain ⟨b, hb, hd⟩ := Except.bind_eq_ok.mp hd
  obtain ⟨u, hu, hd⟩ := Except.bind_eq_ok.mp hd
  obtain ⟨wb, isProtected, p, hp, fixed⟩ := Bucket.wellFormed_of_decodeProtected hb
  obtain ⟨wu, isUnprotected⟩ := Bucket.wellFormed_of_decodeUnprotected hu
  simp only at hd
  split at hd
  · next checked =>
    cases hd
    have encoded : b.encode = .ok p := by
      rw [Bucket.encode, isProtected, fixed]
      rfl
    exact ⟨⟨wb, wu, isProtected, isUnprotected⟩, checked, p, hp, encoded, hp ▸ hb⟩
  · cases hd
  · cases hd

/-- The two elements of an encoded layer. -/
theorem encode_eq_ok {elements : List Value} (he : h.encode = .ok elements) :
    h.check = .ok () ∧ ∃ p, h.prot.encode = .ok p ∧
      elements = [.bytes p, .map h.unprot.toEntries] := by
  obtain ⟨_, checked, he⟩ := Except.bind_eq_ok.mp he
  obtain ⟨p, encoded, he⟩ := Except.bind_eq_ok.mp he
  obtain ⟨u, map, he⟩ := Except.bind_eq_ok.mp he
  obtain ⟨_, -, rfl⟩ := Except.map_eq_ok.mp map
  cases he
  exact ⟨checked, p, encoded, rfl⟩

theorem encode_of_check (checked : h.check = .ok ()) (encoded : h.prot.encode = .ok p) :
    h.encode = .ok [.bytes p, .map h.unprot.toEntries] := by
  have valid := (checkBuckets_eq_ok.mp (check_eq_ok.mp checked).2).1
  rw [encode, checked, Except.ok_bind, encoded, Except.ok_bind, Bucket.toMap, valid]
  rfl

/-- A layer that has come back from its encoded form, with the bytes of its protected bucket. -/
structure ReadBack (p : Bytes) (h h' : Layer) : Prop where
  checked : h.check = .ok ()
  encoded : h.prot.encode = .ok p
  decoded : Bucket.decodeProtected (.bytes p) = .ok h'.prot
  prot : ∃ f, Bucket.Rereads f h.prot h'.prot
  unprot : h'.unprot = { isProtected := false, entries := h.unprot.readEntries .plain }

namespace ReadBack

theorem rereads_unprot (r : ReadBack p h h') (wf : h.WellFormed) :
    Bucket.Rereads (fun v => received .plain v false) h.unprot h'.unprot := by
  have rereads := h.unprot.rereads_readEntries .plain none
  rwa [wf.isUnprotected, ← r.unprot] at rereads

theorem check (r : ReadBack p h h') (wf : h.WellFormed) : h'.check = .ok () := by
  obtain ⟨f, prot⟩ := r.prot
  exact check_of_rereads r.checked prot (r.rereads_unprot wf)

theorem fixed (r : ReadBack p h h') : h'.prot.fixed = some p := by
  obtain ⟨-, -, q, hq, fixed⟩ := Bucket.wellFormed_of_decodeProtected r.decoded
  cases hq
  exact fixed

theorem prot_encode (r : ReadBack p h h') : h'.prot.encode = .ok p := by
  have isProtected := (Bucket.wellFormed_of_decodeProtected r.decoded).2.1
  rw [Bucket.encode, isProtected, r.fixed]
  rfl

theorem map_unprot (r : ReadBack p h h') (wf : h.WellFormed) :
    .map h'.unprot.toEntries = received .plain (.map h.unprot.toEntries) false := by
  rw [r.unprot, wf.unprot.labelled.received_toEntries, Bucket.toEntries]

end ReadBack

/-- **A layer comes back** from its encoded form. -/
theorem WellFormed.decode_received {keys : List Value → Prop} (wf : h.WellFormed)
    (checked : h.check = .ok ()) (plain : h.prot.Plain keys (Cbor.maxDepth - 1))
    (simple : ∀ ks, Value.SimpleKeys ks → keys ks) (encoded : h.prot.encode = .ok p)
    (fits : p.length < 2 ^ 64) :
    ∃ h', decode (.bytes p) (received .plain (.map h.unprot.toEntries) false) = .ok h' ∧
      ReadBack p h h' := by
  obtain ⟨f, prot, hp, rereads⟩ := wf.prot.decodeProtected_encode plain simple encoded fits
  have back : ReadBack p h
      ⟨prot, { isProtected := false, entries := h.unprot.readEntries .plain }⟩ :=
    ⟨checked, encoded, hp, ⟨f, rereads⟩, rfl⟩
  refine ⟨_, ?_, back⟩
  rw [decode, hp, Except.ok_bind, wf.unprot.labelled.decodeUnprotected_received, Except.ok_bind]
  simp only [back.check wf]
  rfl

end Layer

/-! ## What was received -/

namespace Bucket

variable {b : Bucket} {n levels : Nat}

/-- The values of a loaded bucket are values of the map. -/
theorem load_values {P : Value → Prop} {es loaded : List (Label × Value)}
    {pairs : List (Value × Value)} (h : load es pairs = .ok loaded) (hes : ∀ e ∈ es, P e.2)
    (hpairs : ∀ e ∈ pairs, P e.2) : ∀ e ∈ loaded, P e.2 := by
  induction pairs generalizing es with
  | nil =>
    cases h
    exact hes
  | cons p pairs ih =>
    obtain ⟨k, v⟩ := p
    rw [List.forall_mem_cons] at hpairs
    rw [load] at h
    split at h
    · cases h
    · cases h
    split at h
    · cases h
    refine ih h ?_ hpairs.2
    intro e he
    rcases List.mem_append.mp he with old | new
    · exact hes e old
    · rw [List.mem_singleton.mp new]
      exact hpairs.1

/-- The values of a protected bucket that was received are nested as deep as a reader goes. -/
theorem plain_of_decodeProtected {v : Value} (h : decodeProtected v = .ok b)
    (plain : b.Plain Value.SimpleKeys levels) : b.Plain Value.SimpleKeys (Cbor.maxDepth - 1) := by
  unfold decodeProtected at h
  split at h
  · cases h
    exact fun e he => absurd he List.not_mem_nil
  · next p _ =>
    split at h
    · cases h
    · cases h
    · next es decoded =>
      obtain ⟨entries, loaded, rfl⟩ := Except.map_eq_ok.mp h
      obtain ⟨⟨v, rest⟩, read, rfl⟩ :=
        Option.map_eq_some_iff.mp (Cbor.Reader.read_eq_ok.mp decoded)
      obtain ⟨k, lt, parts⟩ := Cbor.Gives.nests ⟨p, rest, read⟩
      have gives := load_values (P := fun v => Cbor.Gives (Cbor.decodeItem k false) v) loaded
        (fun e he => absurd he List.not_mem_nil) fun e he => (parts e he).2
      intro e he
      exact (Cbor.faithful k false levels e.2 (gives e he) (plain e he)).1.mono (by omega)
    · cases h
  · cases h

/-- The values of an unprotected bucket that was received are read back as they are. -/
theorem plain_of_decodeUnprotected {v : Value} (h : decodeUnprotected v = .ok b)
    (given : Cbor.Gives (Cbor.decodeItem n false) v) (plain : b.Plain Value.SimpleKeys levels) :
    b.Plain Value.SimpleKeys (n - 1) ∧ b.readEntries .plain = b.entries := by
  unfold decodeUnprotected at h
  split at h
  · next es =>
    obtain ⟨entries, loaded, rfl⟩ := Except.map_eq_ok.mp h
    obtain ⟨k, lt, parts⟩ := given.nests
    have gives := load_values (P := fun v => Cbor.Gives (Cbor.decodeItem k false) v) loaded
      (fun e he => absurd he List.not_mem_nil) fun e he => (parts e he).2
    have faithful := fun e he => Cbor.faithful k false levels e.2 (gives e he) (plain e he)
    refine ⟨fun e he => (faithful e he).1.mono (by omega), ?_⟩
    rw [readEntries, written]
    calc entries.map (fun e => (e.1, received .plain e.2 false))
      _ = entries.map id := List.map_congr_left fun e he => Prod.ext rfl (faithful e he).2
      _ = entries := List.map_id entries
  · cases h

end Bucket

namespace Layer

variable {h h' : Layer} {p : Bytes}

/-- The values of a layer are plain data: the protected ones as deep as a reader goes, the others
within a number of levels. -/
structure Plain (keys : List Value → Prop) (n : Nat) (h : Layer) : Prop where
  prot : h.prot.Plain keys (Cbor.maxDepth - 1)
  unprot : h.unprot.Plain keys n

/-- The plain values of a layer that was received are nested as deep as a reader goes, and come
back as they are. -/
theorem plain_of_decode {prot unprot : Value} {n levels : Nat}
    (hd : decode prot unprot = .ok h) (given : Cbor.Gives (Cbor.decodeItem n false) unprot)
    (plain_prot : h.prot.Plain Value.SimpleKeys levels)
    (plain_unprot : h.unprot.Plain Value.SimpleKeys levels) :
    h.Plain Value.SimpleKeys (n - 1) ∧ h.unprot.readEntries .plain = h.unprot.entries := by
  obtain ⟨b, hb, hd⟩ := Except.bind_eq_ok.mp hd
  obtain ⟨u, hu, hd⟩ := Except.bind_eq_ok.mp hd
  simp only at hd
  split at hd
  · cases hd
    obtain ⟨within, same⟩ := Bucket.plain_of_decodeUnprotected hu given plain_unprot
    exact ⟨⟨Bucket.plain_of_decodeProtected hb plain_prot, within⟩, same⟩
  · cases hd
  · cases hd

/-- A layer that was received comes back as itself. -/
theorem ReadBack.eq_of_decode {prot unprot : Value} (r : ReadBack p h h')
    (hd : decode prot unprot = .ok h) (same : h.unprot.readEntries .plain = h.unprot.entries) :
    h' = h := by
  obtain ⟨wf, -, q, rfl, encoded, decoded⟩ := wellFormed_of_decode hd
  have p_eq : p = q := Except.ok.inj (r.encoded.symm.trans encoded)
  have prot_eq : h'.prot = h.prot := Except.ok.inj (r.decoded.symm.trans (p_eq ▸ decoded))
  have unfixed : h.unprot.fixed = none := by
    by_contra some_fixed
    obtain ⟨u, hu⟩ := Option.ne_none_iff_exists'.mp some_fixed
    have isProtected := (wf.unprot.fixed u hu).1
    rw [wf.isUnprotected] at isProtected
    cases isProtected
  have unprot_eq : h'.unprot = h.unprot := by
    rw [r.unprot, same]
    exact Bucket.eq_of_fields wf.isUnprotected.symm rfl unfixed.symm
  calc h' = ⟨h'.prot, h'.unprot⟩ := rfl
    _ = ⟨h.prot, h.unprot⟩ := by rw [prot_eq, unprot_eq]
    _ = h := rfl

end Layer

end Cose
