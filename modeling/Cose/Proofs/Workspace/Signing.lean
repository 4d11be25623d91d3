import Cose.Proofs.Header.Rules
import Cose.Proofs.Message.Agreement
import Cose.Proofs.Message.Completeness
import Cose.Proofs.Workspace.Writing

/-!
# Signing messages whose parts are shared

A message with several signers is signed as a value and then written back to its store, where the
entries that it lists are objects. Signing is planned before anything is written: every bucket either
stays as it is or has its own bytes fixed, and a protected bucket that takes the place of another names
an algorithm that the other does not. So all that is written agrees, also where entries share buckets.
An entry that is listed more than once is signed as often, and keeps what was signed last.

## Main definitions

* `Bucket.settled`: the bucket that signing makes of a bucket that stays
* `Sign.Sided`: the buckets of a message are of the kinds that their places take
* `Store.OneAgentEach`: each entry of a message is given one agent
* `Store.SigningAgreesAt`: signing a message in a store signs an entry only if that agrees with its key

## Main results

* `Store.fits_signingPlan`: what is written for a signed layer was planned
* `Store.exists_read_of_sign`: what is read of a message that was signed
* `Store.signs_all_or_none`: all entries are signed, or nothing is changed
* `Store.accepted_of_signed`: what was signed is accepted
* `Store.keys_agree`: keys agree with the headers that they are used for
-/

namespace Cose

/-- **The bucket that signing makes of a protected bucket** that stays: the one with its bytes
fixed. -/
def Bucket.settled (b : Bucket) : Bucket :=
  match b.encode with
  | .ok bytes => b.fix bytes
  | .error _ => b

namespace Bucket

variable {b : Bucket} {p : Bytes}

theorem settled_of_encode (encoded : b.encode = .ok p) : b.settled = b.fix p := by
  rw [settled, encoded]

theorem settled_of_unprotected (isUnprotected : b.isProtected = false) : b.settled = b := by
  rw [settled, encode, isUnprotected]
  rfl

@[simp] theorem has_settled (b : Bucket) (l : Label) : b.settled.has l = b.has l := by
  rw [settled]
  split <;> rfl

end Bucket

/-- The bucket that is kept after signing is the one that was there, or it names an algorithm that
the other does not. -/
theorem Layer.Prepared.fixed_cases {h : Layer} {a : Algorithm} (p : h.Prepared a) :
    p.fixed = h.prot.settled ∨ h.prot.has .alg = false ∧ p.fixed.has .alg = true := by
  obtain ⟨-, ⟨-, same⟩ | ⟨copies, -, copy, set⟩⟩ := withAlgorithm_cases p.bucket_eq
  · rw [Prepared.fixed, ← same, Bucket.settled_of_encode p.bytes_eq]
    exact .inl rfl
  · refine .inr ⟨?_, ?_⟩
    · rw [keepsBucket, Bool.or_eq_false_iff] at copies
      exact copies.1
    · show p.bucket.has .alg = true
      rw [Bucket.has, Bucket.find?_setAlgorithm set, Option.isSome_some]

/-- The buckets of a message and of its entries are of the kinds that their places take. -/
structure Sign.Sided (m : Sign) : Prop where
  layer : m.toLayer.Sided
  entries : ∀ e ∈ m.entries, e.toLayer.Sided

theorem Sign.WellFormed.sided {m : Sign} (wf : m.WellFormed) : m.Sided :=
  ⟨wf.layer.sided, fun e mem => (wf.entries e mem).layer.sided⟩

open Cbor (maxDepth)

namespace Workspace.Store

variable {s : Store} {r : Ref} {l : LayerRef} {h h' : Layer} {m : Sign} {keys : Keys} {aad : Value}
  {i j : Nat} {e : Entry}

/-! ## What signing writes -/

/-- The buckets that a place has once what stays there is settled. -/
def signingPlan (s : Store) (p : Ref) : Option Bucket :=
  (s.bucketAt? p).map Bucket.settled

theorem signingPlan_of_cells {p : Ref} {b : Bucket} (there : s.cells[p]? = some (.bucket b)) :
    s.signingPlan p = some b.settled := by
  rw [signingPlan, bucketAt?_eq_some.mpr there, Option.map_some]

theorem lt_of_signingPlan (p : Ref) (b : Bucket) (planned : s.signingPlan p = some b) :
    p < s.cells.size := by
  obtain ⟨old, there, -⟩ := Option.map_eq_some_iff.mp planned
  exact lt_of_cells (bucketAt?_eq_some.mp there)

/-- **What is written for a layer is planned**, if its protected bucket is settled or takes the place
of the one that is there. -/
theorem fits_signingPlan (layer : s.layerAt? l = some h) (sided : h.Sided)
    (unprot_eq : h'.unprot = h.unprot)
    (prot_cases : h'.prot = h.prot.settled ∨ h.prot.has .alg = false ∧ h'.prot.has .alg = true) :
    Fits s.signingPlan s l h' := by
  obtain ⟨prot, unprot⟩ := layerAt?_eq_some.mp layer
  refine ⟨apart_of_kinds layer sided.isProtected sided.isUnprotected, ⟨_, unprot⟩, ?_, _, prot, ?_⟩
  · rw [signingPlan_of_cells unprot, Bucket.settled_of_unprotected sided.isUnprotected, unprot_eq]
  · rw [signingPlan_of_cells prot]
    rcases prot_cases with settled | ⟨absent, named⟩
    · refine .inl ⟨?_, by rw [settled]⟩
      rw [settled, isReplaced, Bucket.has_settled, Bool.not_and_self]
    · refine .inr ⟨by rw [isReplaced, absent, named]; rfl, ?_⟩
      rintro _ ⟨⟩
      rw [isReplaced, Bucket.has_settled, absent, named]
      rfl

/-- An entry is what it was wherever it is listed again. -/
theorem getElem?_of_lastListed (read : s.read? r = some (.sign m)) (last : s.LastListed r i j)
    (at_i : m.entries[i]? = some e) : m.entries[j]? = some e := by
  obtain ⟨l, places, there, -, all⟩ := read?_eq_sign.mp read
  have same := last.same
  rw [follow?_entry there, follow?_entry there] at same
  obtain ⟨inside, -⟩ := List.getElem?_eq_some_iff.mp at_i
  have at_place := List.getElem?_eq_getElem (all.length_eq ▸ inside)
  obtain ⟨e₁, first, read₁⟩ := Forall₂.exists_getElem? all at_place
  obtain ⟨e₂, second, read₂⟩ := Forall₂.exists_getElem? all (same.trans at_place)
  cases at_i.symm.trans first
  cases read₁.symm.trans read₂
  exact second

/-- **What is read of a message that was signed**: its own bucket is fixed, and in each entry stands
what was made for the last place where it is listed. -/
theorem exists_read_of_sign (read : s.read? r = some (.sign m)) (sided : m.Sided)
    (answered : (m.sign keys aad).result = .ok ()) :
    ∃ resolve body signed entries, keys.resolver m.entries.length = .ok resolve ∧
      m.prot.encode = .ok body ∧
      Sign.SignedFrom resolve (.bytes body) m.payload aad 0 m.entries signed ∧
      (m.sign keys aad).after = m.committed body signed ∧
      (s.write r (.sign (m.sign keys aad).after)).read? r =
        some (.sign (m.committed body entries)) ∧
      (∀ i, (s.write r (.sign (m.sign keys aad).after)).follow? r [.entry i] =
        s.follow? r [.entry i]) ∧
      entries.length = m.entries.length ∧
      ∀ i < m.entries.length, ∃ j, s.LastListed r i j ∧ entries[i]? = signed[j]? := by
  rcases Sign.sign_cases m keys aad with
    ⟨e, failed, -⟩ | ⟨-, -, -, -, resolve, body, signed, resolved, encoded, run, after⟩
  · exact absurd (failed.symm.trans answered) (by simp)
  have after : (m.sign keys aad).after = m.committed body signed := after
  rw [after]
  obtain ⟨entries, reads, kept, count, each⟩ := read_write (m.committed body signed) read
    run.length_eq lt_of_signingPlan
    (fun l layer => fits_signingPlan layer sided.layer rfl (.inl (Bucket.settled_of_encode encoded).symm))
    (by
      intro i e e' l at_i at_i' layer
      obtain ⟨agent, -, w, signed_i⟩ := run.getElem? at_i
      cases at_i'.symm.trans signed_i
      exact fits_signingPlan layer (sided.entries e (List.mem_of_getElem? at_i)) rfl
        w.prepared.fixed_cases)
  exact ⟨resolve, body, signed, entries, resolved, encoded, run, rfl, reads, kept, count, each⟩

/-- A message that could not be signed leaves its store as it was. -/
theorem write_of_sign_failed {err : Error} (read : s.read? r = some (.sign m))
    (failed : (m.sign keys aad).result = .error err) :
    s.write r (.sign (m.sign keys aad).after) = s := by
  rcases Sign.sign_cases m keys aad with ⟨-, -, after⟩ | ⟨-, -, -, answered, -⟩
  · rw [after, write_of_read read]
  · exact absurd (answered.symm.trans failed) (by simp)

/-! ## Every entry or none -/

/-- **All entries are signed, or nothing is changed.** If signing fails, wherever it does, the store is
as it was. If it answers, the message was not signed before. It is then read as signed, with its
protected bucket fixed and with the entries that it had, each at its place; and each entry has the
protected bucket that names the algorithm of its agent, and what the agent returned for the bytes to
be signed. The agent of an entry is the one at the last place where the message lists it. -/
theorem signs_all_or_none (read : s.read? r = some (.sign m)) (keys : Keys) (aad : Value) :
    (∀ e, (m.sign keys aad).result = .error e →
        s.write r (.sign (m.sign keys aad).after) = s) ∧
      ((m.sign keys aad).result = .ok () → m.state = .unsigned ∧ (m.Sided →
        ∃ resolve body entries, keys.resolver m.entries.length = .ok resolve ∧
          m.prot.encode = .ok body ∧
          (s.write r (.sign (m.sign keys aad).after)).read? r =
            some (.sign { m with prot := m.prot.fix body, entries, state := .signed }) ∧
          (∀ i, (s.write r (.sign (m.sign keys aad).after)).follow? r [.entry i] =
            s.follow? r [.entry i]) ∧
          entries.length = m.entries.length ∧
          ∀ i e, m.entries[i]? = some e → ∃ j agent, s.LastListed r i j ∧
            resolve j e = .ok agent ∧ ∃ w : e.Signing agent (.bytes body) m.payload aad,
              entries[i]? = some w.after ∧
              (e.prot.Labelled → w.prepared.bucket = e.signedBucket w.algorithm))) := by
  refine ⟨fun _ => write_of_sign_failed read, fun answered => ⟨?_, fun sided => ?_⟩⟩
  · rcases Sign.sign_cases m keys aad with ⟨e, failed, -⟩ | ⟨-, unsigned, -⟩
    · exact absurd (failed.symm.trans answered) (by simp)
    · exact unsigned
  obtain ⟨resolve, body, signed, entries, resolved, encoded, run, -, reads, kept, count, each⟩ :=
    exists_read_of_sign read sided answered
  refine ⟨resolve, body, entries, resolved, encoded, reads, kept, count, fun i e at_i => ?_⟩
  obtain ⟨j, last, made⟩ := each i (List.getElem?_eq_some_iff.mp at_i).1
  obtain ⟨agent, found, w, signed_j⟩ := run.getElem? (getElem?_of_lastListed read last at_i)
  rw [Nat.zero_add] at found
  exact ⟨j, agent, last, found, w, made.trans signed_j, w.prepared.bucket_eq_signedBucket⟩

/-- A store with a message for two signers. -/
def pair : Store × Ref :=
  ({} : Store).add (.sign Sign.unsignedPair)

theorem listsOnce_pair : pair.1.ListsOnce pair.2 :=
  listsOnce_of_nodup (by rfl) (by decide)

/-- An entry without headers that is not signed yet. -/
def blankEntry : Entry where
  prot := { isProtected := true }
  unprot := { isProtected := false }
  signature := .bytes []

/-- A message that has two entries without headers. -/
def blankPair : Sign :=
  { Sign.unsignedPair with entries := [blankEntry, blankEntry] }

/-- A store with a message that lists one entry twice. -/
def twice : Store × Ref :=
  let (s, r) := ({} : Store).addEntry none none blankEntry
  s.addSharing none none [r, r] (.sign blankPair)

theorem sided_unsignedPair : Sign.unsignedPair.Sided := by
  refine ⟨⟨rfl, rfl⟩, fun e mem => ?_⟩
  simp only [Sign.unsignedPair, List.mem_cons, List.not_mem_nil, or_false, or_self] at mem
  exact mem ▸ ⟨rfl, rfl⟩

/-- A message for two signers, once with a second one that fails. -/
theorem signs_all_or_none_pair :
    let first : Agent := .marking .es256 1
    let signed (second : Agent) :=
      pair.1.write pair.2 (.sign (Sign.unsignedPair.sign (.inOrder [first, second])).after)
    pair.1.read? pair.2 = some (.sign Sign.unsignedPair) ∧ signed .nobody = pair.1 ∧
      ∃ m, (signed (.marking .edDSA 2)).read? pair.2 = some (.sign m) ∧ m.state = .signed := by
  have read : pair.1.read? pair.2 = some (.sign Sign.unsignedPair) := by rfl
  refine ⟨read, (signs_all_or_none read _ _).1 (.fault .attribute) (by rfl), ?_⟩
  obtain ⟨-, signed⟩ := (signs_all_or_none read (.inOrder [.marking .es256 1, .marking .edDSA 2])
    (.bytes [])).2 (by rfl)
  obtain ⟨_, _, _, -, -, reads, -⟩ := signed sided_unsignedPair
  exact ⟨_, reads, rfl⟩

/-- An entry that is listed twice does not have the signature of the first agent. -/
theorem signs_all_or_none_twice :
    let first : Agent := .marking .es256 1
    let keys : Keys := .inOrder [first, .marking .es384 2]
    twice.1.read? twice.2 = some (.sign blankPair) ∧ (blankPair.sign keys).result = .ok () ∧
      ∃ m e, (twice.1.write twice.2 (.sign (blankPair.sign keys).after)).read? twice.2 =
          some (.sign m) ∧ m.entries[0]? = some e ∧
        ∀ covered signature, first.sign covered = .ok signature → e.signature ≠ .bytes signature := by
  refine ⟨by rfl, by rfl, _, _, by rfl, by rfl, ?_⟩
  rintro covered _ ⟨⟩ same
  cases same

/-! ## What was signed is accepted -/

/-- Each entry of a message is given one agent, however often the message lists it. -/
def OneAgentEach (s : Store) (r : Ref) (m : Sign) (keys : Keys) : Prop :=
  ∀ resolve, keys.resolver m.entries.length = .ok resolve → ∀ (i j : Nat) (e : Entry),
    m.entries[i]? = some e → s.follow? r [.entry j] = s.follow? r [.entry i] →
      resolve j e = resolve i e

theorem ListsOnce.oneAgentEach (once : s.ListsOnce r) (read : s.read? r = some (.sign m))
    (keys : Keys) : s.OneAgentEach r m keys := by
  intro resolve _ i j e at_i same
  obtain ⟨l, places, there, -, all⟩ := read?_eq_sign.mp read
  have inside : i < places.length := all.length_eq ▸ (List.getElem?_eq_some_iff.mp at_i).1
  have listed : (s.follow? r [.entry i]).isSome = true := by
    rw [follow?_entry there, List.getElem?_eq_getElem inside, Option.isSome_some]
  rw [once i j listed same]

/-- A message whose entries are given one agent each is read as it was signed. -/
theorem read_of_sign (read : s.read? r = some (.sign m)) (sided : m.Sided)
    (each : s.OneAgentEach r m keys) (answered : (m.sign keys aad).result = .ok ()) :
    (s.write r (.sign (m.sign keys aad).after)).read? r = some (.sign (m.sign keys aad).after) := by
  obtain ⟨resolve, body, signed, entries, resolved, -, run, after, reads, -, count, made⟩ :=
    exists_read_of_sign read sided answered
  suffices entries = signed by rw [reads, after, this]
  refine List.ext_getElem? fun i => ?_
  rcases Nat.lt_or_ge i m.entries.length with inside | outside
  · obtain ⟨j, last, same⟩ := made i inside
    have at_i := List.getElem?_eq_getElem inside
    obtain ⟨agent, found, w, signed_i⟩ := run.getElem? at_i
    obtain ⟨agent', found', w', signed_j⟩ := run.getElem? (getElem?_of_lastListed read last at_i)
    rw [Nat.zero_add] at found found'
    -- The agent is the same at both places, and so is what it is asked.
    rw [each resolve resolved i j _ at_i last.same, found] at found'
    cases found'
    rw [same, signed_j, signed_i, Subsingleton.elim w w']
  · rw [List.getElem?_eq_none (count ▸ outside), List.getElem?_eq_none (run.length_eq ▸ outside)]

/-- **What was signed is accepted.** If signing or tagging a message answers, checking the message
that is left in the store succeeds with matching keys and the same additional data. The message has
an encoded form, and what is decoded from it has the same payload and is accepted as well. For several
signers, every entry is reported as valid, in order; no entry is given two agents. -/
theorem accepted_of_signed :
    (∀ (s : Store) (r : Ref) (m : Sign) (signers verifiers : Keys) (aad : Value),
      s.read? r = some (.sign m) → m.WellFormed → m.Plain (fun _ => True) →
      s.OneAgentEach r m signers → signers.Matches m.entries verifiers →
      (m.sign signers aad).result = .ok () →
      ∃ m', (s.write r (.sign (m.sign signers aad).after)).read? r = some (.sign m') ∧
        m'.Verifies verifiers aad ∧ ∃ b, m'.encode = .ok b ∧
          (b.length < 2 ^ 64 → ∃ sent, Sign.decode (.bytes b) = .ok sent ∧
            sent.payload = m.payload ∧ sent.entries.length = m.entries.length ∧
            sent.Verifies verifiers aad)) ∧
      (∀ (s : Store) (r : Ref) (m : Sign1) (a v : Agent) (aad : Value),
        s.read? r = some (.sign1 m) → m.WellFormed →
        m.toLayer.Plain (fun _ => True) (maxDepth - 3) → a.Matches v →
        (m.sign a aad).result = .ok () →
        ∃ m', (s.write r (.sign1 (m.sign a aad).after)).read? r = some (.sign1 m') ∧
          m'.Verifies v aad ∧ ∃ b, m'.encode = .ok b ∧
            (b.length < 2 ^ 64 → ∃ sent, Sign1.decode (.bytes b) = .ok sent ∧
              sent.payload = m.payload ∧ sent.Verifies v aad)) ∧
      ∀ (s : Store) (r : Ref) (m : Mac0) (a v : Agent) (aad : Value),
        s.read? r = some (.mac0 m) → m.WellFormed →
        m.toLayer.Plain (fun _ => True) (maxDepth - 3) → a.Matches v →
        (m.createTag a aad).result = .ok () →
        ∃ m', (s.write r (.mac0 (m.createTag a aad).after)).read? r = some (.mac0 m') ∧
          m'.Authenticates v aad ∧ ∃ b, m'.encode = .ok b ∧
            (b.length < 2 ^ 64 → ∃ sent, Mac0.decode (.bytes b) = .ok sent ∧
              sent.payload = m.payload ∧ sent.Authenticates v aad) := by
  have any : ∀ ks, Value.SimpleKeys ks → True := fun _ _ => trivial
  refine ⟨?_, ?_, ?_⟩
  · intro s r m signers verifiers aad read wf plain each matching signed
    exact ⟨_, read_of_sign read wf.sided each signed,
      Sign.verifies_of_sign wf plain any matching signed⟩
  · intro s r m a v aad read wf plain matching signed
    exact ⟨_, read_write_sign1 read wf.layer.isProtected wf.layer.isUnprotected,
      Sign1.verifies_of_sign wf plain any matching signed⟩
  · intro s r m a v aad read wf plain matching tagged
    exact ⟨_, read_write_mac0 read wf.layer.isProtected wf.layer.isUnprotected,
      Mac0.authenticates_of_createTag wf plain any matching tagged⟩

/-- A message for two signers, one with a signer and one with a tag, on the other side. -/
theorem accepted_of_signed_bare :
    let first : Agent := .marking .es256 1
    let keys : Keys := .inOrder [first, .marking .edDSA 2]
    let third : Agent := .marking .hmac256 3
    let sign1 : Sign1 :=
      { Layer.bare with payload := .null, signature := .null, state := .unsigned }
    let mac0 : Mac0 := { Layer.bare with payload := .null, tag := .null, state := .unsigned }
    let single := ({} : Store).add (.sign1 sign1)
    let tagged := ({} : Store).add (.mac0 mac0)
    (∃ m b sent, (pair.1.write pair.2 (.sign (Sign.unsignedPair.sign keys).after)).read? pair.2 =
        some (.sign m) ∧ m.encode = .ok b ∧ Sign.decode (.bytes b) = .ok sent ∧
        sent.Verifies keys (.bytes [])) ∧
      (∃ m b sent, (single.1.write single.2 (.sign1 (sign1.sign first).after)).read? single.2 =
        some (.sign1 m) ∧ m.encode = .ok b ∧ Sign1.decode (.bytes b) = .ok sent ∧
        sent.Verifies first (.bytes [])) ∧
      ∃ m b sent, (tagged.1.write tagged.2 (.mac0 (mac0.createTag third).after)).read? tagged.2 =
        some (.mac0 m) ∧ m.encode = .ok b ∧ Mac0.decode (.bytes b) = .ok sent ∧
        sent.Authenticates third (.bytes []) := by
  intro first keys third sign1 mac0 single tagged
  have first_matches : first.Matches first := Agent.marking_matches (by decide) 1
  have second_matches : Agent.Matches (.marking .edDSA 2) (.marking .edDSA 2) :=
    Agent.marking_matches (by decide) 2
  have third_matches : third.Matches third := Agent.marking_matches (by decide) 3
  have plain {n : Nat} : Layer.bare.Plain (fun _ => True) n :=
    ⟨fun e he => absurd he List.not_mem_nil, fun e he => absurd he List.not_mem_nil⟩
  have fits {r : Except Error Bytes} {b : Bytes} {n : Nat} (encoded : r = .ok b)
      (size : r.map List.length = .ok n) (small : n ≤ 50) : b.length < 2 ^ 64 := by
    rw [encoded] at size
    have size : b.length = n := Except.ok.inj size
    omega
  refine ⟨?_, ?_, ?_⟩
  · have read : pair.1.read? pair.2 = some (.sign Sign.unsignedPair) := by rfl
    have wf : Sign.unsignedPair.WellFormed := by
      refine ⟨⟨(Bucket.labelled_empty _ _).wellFormed rfl, Layer.bare_wellFormed.unprot, rfl, rfl⟩,
        .bytes _, ?_⟩
      simp only [Sign.unsignedPair, List.forall_mem_cons]
      have entry := Layer.bare_wellFormed
      exact ⟨⟨entry, .bytes _⟩, ⟨entry, .bytes _⟩, fun s hs => absurd hs List.not_mem_nil⟩
    have plain : Sign.unsignedPair.Plain fun _ => True := by
      refine ⟨⟨plain.unprot, plain.unprot⟩, ?_⟩
      simp only [Sign.unsignedPair, List.forall_mem_cons]
      exact ⟨plain, plain, fun s hs => absurd hs List.not_mem_nil⟩
    have matching : keys.Matches Sign.unsignedPair.entries keys :=
      .of_forall₂ rfl (.cons first_matches (.cons second_matches .nil))
    have each := listsOnce_pair.oneAgentEach read keys
    have answered : (Sign.unsignedPair.sign keys).result = .ok () := by rfl
    obtain ⟨m, written, -, b, encoded, accepted⟩ := accepted_of_signed.1 pair.1 pair.2
      Sign.unsignedPair keys keys (.bytes []) read wf plain each matching answered
    cases written.symm.trans (read_of_sign read wf.sided each answered)
    obtain ⟨sent, decoded, -, -, verified⟩ := accepted (fits (n := 50) encoded (by rfl) (by decide))
    exact ⟨_, b, sent, written, encoded, decoded, verified⟩
  · have read : single.1.read? single.2 = some (.sign1 sign1) := by rfl
    obtain ⟨m, written, -, b, encoded, accepted⟩ := accepted_of_signed.2.1 single.1 single.2 sign1
      first first (.bytes []) read ⟨Layer.bare_wellFormed, .null, .null⟩ plain first_matches (by rfl)
    cases written.symm.trans (read_write_sign1 read rfl rfl)
    obtain ⟨sent, decoded, -, verified⟩ := accepted (fits (n := 22) encoded (by rfl) (by decide))
    exact ⟨_, b, sent, written, encoded, decoded, verified⟩
  · have read : tagged.1.read? tagged.2 = some (.mac0 mac0) := by rfl
    obtain ⟨m, written, -, b, encoded, accepted⟩ := accepted_of_signed.2.2 tagged.1 tagged.2 mac0
      third third (.bytes []) read ⟨Layer.bare_wellFormed, .null, .null⟩ plain third_matches (by rfl)
    cases written.symm.trans (read_write_mac0 read rfl rfl)
    obtain ⟨sent, decoded, -, verified⟩ := accepted (fits (n := 16) encoded (by rfl) (by decide))
    exact ⟨_, b, sent, written, encoded, decoded, verified⟩

/-- A message that lists an entry twice, for two agents, is not accepted by the agents that signed
it. -/
theorem accepted_of_signed_twice :
    let keys : Keys := .inOrder [.marking .es256 1, .marking .es384 2]
    twice.1.read? twice.2 = some (.sign blankPair) ∧ blankPair.WellFormed ∧
      blankPair.Plain (fun _ => True) ∧ keys.Matches blankPair.entries keys ∧
      (blankPair.sign keys).result = .ok () ∧
      ∃ m, (twice.1.write twice.2 (.sign (blankPair.sign keys).after)).read? twice.2 =
        some (.sign m) ∧ ¬ m.Verifies keys (.bytes []) := by
  have blank (isProtected : Bool) : Bucket.WellFormed { isProtected := isProtected } :=
    (Bucket.labelled_empty _ _).wellFormed rfl
  have layer : blankEntry.toLayer.WellFormed := ⟨blank true, blank false, rfl, rfl⟩
  have plain {n : Nat} : blankEntry.toLayer.Plain (fun _ => True) n :=
    ⟨fun e he => absurd he List.not_mem_nil, fun e he => absurd he List.not_mem_nil⟩
  have only {P : Entry → Prop} (blank : P blankEntry) : ∀ e ∈ blankPair.entries, P e := by
    simp only [blankPair, List.forall_mem_cons]
    exact ⟨blank, blank, fun e mem => absurd mem List.not_mem_nil⟩
  refine ⟨by rfl, ⟨layer, .bytes _, only ⟨layer, .bytes _⟩⟩, ⟨plain, only plain⟩, ?_, by rfl, _, by rfl,
    ?_⟩
  · exact .of_forall₂ rfl (.cons (Agent.marking_matches (by decide) 1)
      (.cons (Agent.marking_matches (by decide) 2) .nil))
  · rintro ⟨accepted, -⟩
    exact absurd (congrArg Except.isOk accepted) (by decide +kernel)

/-! ## Keys that agree with headers -/

/-- Signing a message in a store signs an entry only if that agrees with its key. What the message
is then read with names the algorithm of the key, if the entry is not listed again after this place.
Otherwise signing fails and the store is as it was, and the key of the entry is not asked. The error is
of the family, unless it is one that was met before. -/
structure SigningAgreesAt (s : Store) (r : Ref) (m : Sign) (keys : Keys) (aad : Value) (i : Nat)
    (e : Entry) (a : Algorithm) : Prop where
  answers : (m.sign keys aad).result = .ok () → a.family.isSignature = true ∧ e.Takes a ∧
    (m.Sided → ∃ m', (s.write r (.sign (m.sign keys aad).after)).read? r = some (.sign m') ∧
      (s.LastListed r i i → ∃ e', m'.entries[i]? = some e' ∧ e.prot.Binds a e'.prot))
  refuses : ¬ (a.family.isSignature = true ∧ e.Takes a) →
    (∃ err, (m.sign keys aad).result = .error err ∧
      s.write r (.sign (m.sign keys aad).after) = s ∧
      (err.isCose = true ∨ m.FailsBefore Sign.signVisit keys aad i err)) ∧
    m.UnaskedAt i (m.sign · aad) keys

/-- A message has one last place at which it lists an entry. -/
theorem LastListed.unique {k : Nat} (last : s.LastListed r i j) (last' : s.LastListed r i k) :
    j = k := by
  rcases Nat.lt_trichotomy j k with behind | same | before
  · exact absurd last'.same (last.last k behind)
  · exact same
  · exact absurd last.same (last'.last j before)

section Registered

variable {a : Algorithm} (registered : a ∈ Registry.standard.algorithms)

include registered

theorem signing_agrees_at {agent : Agent} (read : s.read? r = some (.sign m))
    (legible_body : m.toLayer.Legible) (legible : e.toLayer.Legible)
    (at_i : m.entries[i]? = some e) (leads : keys.LeadsTo m.entries.length i e agent)
    (own : agent.algorithm = .ok a) : s.SigningAgreesAt r m keys aad i e a := by
  have agrees : m.SigningAgreesAt keys aad i e a :=
    Sign.signing_agrees_at registered legible at_i leads own legible_body
  constructor
  · intro answered
    have suits : a.family.isSignature = true ∧ e.Takes a := by
      by_contra other
      obtain ⟨⟨err, failed, -⟩, -⟩ := agrees.refuses other
      exact absurd (failed.symm.trans answered) (by simp)
    refine ⟨suits.1, suits.2, fun sided => ?_⟩
    obtain ⟨resolve, body, signed, entries, -, -, -, after, reads, -, -, made⟩ :=
      exists_read_of_sign read sided answered
    refine ⟨_, reads, fun last => ?_⟩
    obtain ⟨j, last', same⟩ := made i (List.getElem?_eq_some_iff.mp at_i).1
    obtain rfl := last.unique last'
    obtain ⟨-, e', signed_i, binds⟩ := agrees.answers answered
    rw [after] at signed_i
    exact ⟨e', same.trans signed_i, binds⟩
  · intro other
    obtain ⟨⟨err, failed, -, which⟩, unasked⟩ := agrees.refuses other
    exact ⟨⟨err, failed, write_of_sign_failed read failed, which⟩, unasked⟩

/-- **Keys agree with the headers that they are used for.** Let a key work with a registered
algorithm. A message, an entry or a tag that is signed with it names that algorithm in the protected
bucket, unless this had its bytes fixed without one, and is then as it was. One that is accepted
names that algorithm or none. The family is that of the message. In all other cases the operation
fails with an error of the family of COSE errors and the key is not asked: headers and state are as
they were. The integers in the headers are of a length that can be written. An entry that a message
lists again is signed again, with the key for that place. -/
theorem keys_agree :
    (∀ (m : Sign1) (aad : Value), m.toLayer.Legible →
      SigningAgrees (fun m : Sign1 => m.toLayer) Family.isSignature (m.sign · aad) m a ∧
        CheckingAgrees (fun m : Sign1 => m.toLayer) Family.isSignature (m.verify · aad) m a) ∧
      (∀ (m : Mac0) (aad : Value), m.toLayer.Legible →
        SigningAgrees (fun m : Mac0 => m.toLayer) Family.isMac (m.createTag · aad) m a ∧
          CheckingAgrees (fun m : Mac0 => m.toLayer) Family.isMac (m.authenticateTag · aad) m a) ∧
      (∀ (e : Entry) (body payload aad : Value), e.toLayer.Legible →
        SigningAgrees (fun e : Entry => e.toLayer) Family.isSignature
            (e.sign · body payload aad) e a ∧
          CheckingAgrees (fun e : Entry => e.toLayer) Family.isSignature
            (fun agent => .pure e (e.verify agent body payload aad)) e a) ∧
      ∀ (s : Store) (r : Ref) (m : Sign) (keys : Keys) (aad : Value) (i : Nat) (e : Entry)
        (agent : Agent), s.read? r = some (.sign m) → m.toLayer.Legible → e.toLayer.Legible →
        m.entries[i]? = some e → keys.LeadsTo m.entries.length i e agent →
        agent.algorithm = .ok a →
        s.SigningAgreesAt r m keys aad i e a ∧ m.CheckingAgreesAt keys aad i e a := by
  refine ⟨fun m aad legible => ?_, fun m aad legible => ?_, fun e body payload aad legible => ?_,
    fun s r m keys aad i e agent read legible_body legible at_i leads own => ?_⟩
  · exact ⟨Sign1.signing_agrees registered legible aad,
      Sign1.checking_agrees registered legible aad⟩
  · exact ⟨Mac0.tagging_agrees registered legible aad,
      Mac0.authenticating_agrees registered legible aad⟩
  · exact ⟨Entry.signing_agrees registered legible body payload aad,
      Entry.checking_agrees registered legible body payload aad⟩
  · exact ⟨signing_agrees_at registered read legible_body legible at_i leads own,
      Sign.checking_agrees_at registered legible at_i leads own⟩

end Registered

/-- A message whose header names ES256 asks a key for ES256, and refuses one for EdDSA, which is not
asked. Of the two entries of a message, the second one is signed with a key for EdDSA, and not with a
key that makes tags. -/
theorem keys_agree_es256 :
    let m : Sign1 :=
      { prot := { isProtected := true, entries := [(.alg, .int (-7))] },
        unprot := { isProtected := false }, payload := .bytes [0], signature := .bytes [],
        state := .unsigned }
    let e : Entry := Sign.unsignedPair.entries[1]
    let signed (second : Agent) := pair.1.write pair.2
      (.sign (Sign.unsignedPair.sign (.inOrder [.marking .es256 1, second])).after)
    Algorithm.edDSA ∈ Registry.standard.algorithms ∧ m.toLayer.Legible ∧
      ¬ Unasked (m.sign · (.bytes [])) (.marking .es256 1) ∧
      (∃ err, err.isCose = true ∧ ∀ mark,
        m.sign (.marking .edDSA mark) (.bytes []) = .fail m err ∧
          Unasked (m.sign · (.bytes [])) (.marking .edDSA mark)) ∧
      (∃ m' e', (signed (.marking .edDSA 2)).read? pair.2 = some (.sign m') ∧
        m'.entries[1]? = some e' ∧ e.prot.Binds .edDSA e'.prot) ∧
      signed (.marking .hmac256 2) = pair.1 := by
  intro m e signed
  have eddsa : Algorithm.edDSA ∈ Registry.standard.algorithms := by decide
  have hmac : Algorithm.hmac256 ∈ Registry.standard.algorithms := by decide
  have read : pair.1.read? pair.2 = some (.sign Sign.unsignedPair) := by rfl
  have empty {isProtected : Bool} {fixed : Option Bytes} :
      Bucket.Legible { isProtected := isProtected, fixed := fixed } :=
    ⟨by simp [Bucket.labels], by simp⟩
  have legible : m.toLayer.Legible := by
    refine ⟨⟨?_, ?_⟩, empty⟩
    · intro l mem
      obtain rfl : l = .alg := List.mem_singleton.mp mem
      exact Label.isWritable_ofText "alg"
    · intro e mem
      obtain rfl : e = (.alg, .int (-7)) := List.mem_singleton.mp mem
      simpa only [Value.isWritable] using Text.isWritable_of_lt (n := -7) (by decide)
  refine ⟨eddsa, legible, ?_, ?_, ?_, ?_⟩
  · have answered : (m.sign (.marking .es256 1)).result = .ok () := by
      simp only [m]
      decide +kernel
    obtain ⟨w, -, hands⟩ := Sign1.hands answered
    exact hands.not_unasked (fun f => { Agent.marking .es256 1 with sign := f }) fun _ => rfl
  · have other : ¬ (Algorithm.edDSA.family.isSignature = true ∧ m.toLayer.Takes .edDSA) := by
      rintro ⟨-, named | ⟨absent, -⟩⟩
      · exact absurd named (by decide)
      · exact absurd absent (by decide)
    obtain ⟨err, isCose, refused⟩ :=
      ((keys_agree eddsa).1 m (.bytes []) legible).1.refuses other
    exact ⟨err, isCose, fun mark => refused _ rfl⟩
  · have agrees := (keys_agree eddsa).2.2.2 pair.1 pair.2 Sign.unsignedPair
      (.inOrder [.marking .es256 1, .marking .edDSA 2]) (.bytes []) 1 e (.marking .edDSA 2)
      read ⟨empty, empty⟩ ⟨empty, empty⟩ rfl ⟨_, rfl, rfl⟩ rfl
    obtain ⟨-, -, signed⟩ := agrees.1.answers (by rfl)
    obtain ⟨m', reads, last⟩ := signed sided_unsignedPair
    obtain ⟨e', at_1, binds⟩ := last (listsOnce_pair.lastListed (by rfl))
    exact ⟨m', e', reads, at_1, binds⟩
  · have other : ¬ (Algorithm.hmac256.family.isSignature = true ∧ e.toLayer.Takes .hmac256) := by
      rintro ⟨suits, -⟩
      exact absurd suits (by decide)
    have agrees := (keys_agree hmac).2.2.2 pair.1 pair.2 Sign.unsignedPair
      (.inOrder [.marking .es256 1, .marking .hmac256 2]) (.bytes []) 1 e (.marking .hmac256 2)
      read ⟨empty, empty⟩ ⟨empty, empty⟩ rfl ⟨_, rfl, rfl⟩ rfl
    obtain ⟨⟨err, -, unchanged, -⟩, -⟩ := agrees.1.refuses other
    exact unchanged

/-- An entry that is listed twice does not name the algorithm of its first key. -/
theorem keys_agree_twice :
    let keys : Keys := .inOrder [.marking .es256 1, .marking .es384 2]
    Algorithm.es256 ∈ Registry.standard.algorithms ∧
      twice.1.read? twice.2 = some (.sign blankPair) ∧ (blankPair.sign keys).result = .ok () ∧
      ∃ m e, (twice.1.write twice.2 (.sign (blankPair.sign keys).after)).read? twice.2 =
          some (.sign m) ∧ m.entries[0]? = some e ∧ e.prot.algorithm = .ok (some .es384) ∧
        ¬ blankEntry.prot.Binds .es256 e.prot := by
  refine ⟨by decide, by rfl, by rfl, _, _, by rfl, by rfl, by rfl, ?_⟩
  rintro (named | ⟨finalized, -⟩)
  · exact absurd named (by decide)
  · cases finalized

end Workspace.Store

end Cose
