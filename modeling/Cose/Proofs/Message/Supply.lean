import Cose.Proofs.Message.Agreement
import Cose.Proofs.Message.Completeness

/-!
# Ways of supplying keys

The keys for the entries of a message are supplied by key identifier, in the order of the entries,
or by a function. Of a key nothing but the agent goes into signing and verifying, so the three ways
come to the same where they lead to the same agents. Where they lead to none for an entry, the run
does not get past that entry, and the message is left as it was.

## Main definitions

* `Layer.Identified`: the key identifier of a layer is a byte string
* `Entry.KeyAmong`: the key of an entry among keys by key identifier
* `Keys.Lacks`: keys have none for an entry

## Main results

* `Keys.Lacks.resolver`: keys that have none for an entry find no agent
* `Sign.sign_eq_of_agents`, `Sign.verify_eq_of_agents`: equal agents, equal outcomes
* `Sign.refused_of_count`: keys in order that are too many or too few
* `Sign.ways_of_supplying_keys`: the three ways come to the same
-/

namespace Cose

/-! ## The key of an entry -/

/-- **The key identifier of a layer is a byte string**, in the unprotected bucket, or in the
protected one if the unprotected bucket has none. -/
inductive Layer.Identified (h : Layer) (b : Bytes) : Prop
  | unprot (there : h.unprot.find? .kid = some (.bytes b)) : Identified h b
  | prot (absent : h.unprot.kid = .null) (there : h.prot.find? .kid = some (.bytes b)) :
      Identified h b

theorem Layer.Identified.kid_eq {h : Layer} {b : Bytes} (identified : h.Identified b) :
    h.kid = .bytes b := by
  cases identified with
  | unprot there => rw [kid, keyId, Bucket.kid, there, Option.getD_some]
  | prot absent there => rw [kid, keyId, absent, Bucket.kid, there, Option.getD_some]

/-- The key of an entry among keys by key identifier. -/
def Entry.KeyAmong (keys : List (Value × Agent)) (s : Entry) (agent : Agent) : Prop :=
  ∃ b, s.Identified b ∧ findAgent? (.bytes b) keys = some agent

namespace Keys

/-- Keys have none for an entry at its place: the entry has no key identifier, or one that no
key is stored for, or the function answers that there is none. A key identifier that is no byte
string is looked up if it can be the key of a map, and can be reported if it can be written. -/
inductive Lacks (index : Nat) (s : Entry) : Keys → ResolutionFault → Prop
  | unidentified {keys : List (Value × Agent)} (absent : s.kid = .null) :
      Lacks index s (.byKid keys) (.keyId index "None")
  | missing {keys : List (Value × Agent)} (present : s.kid ≠ .null)
      (hashable : s.kid.isHashable = true) (writable : s.kid.isWritable = true)
      (absent : findAgent? s.kid keys = none) :
      Lacks index s (.byKid keys) (.keyId index s.kid.literal)
  | answered {find : Nat → Entry → Except Error (Option Agent)} (absent : find index s = .ok none) :
      Lacks index s (.byFunction find) (.absent index)

variable {keys : List (Value × Agent)} {index : Nat} {s : Entry} {agent : Agent}

/-- A byte string that no key is stored for. -/
theorem Lacks.of_identified {b : Bytes} (identified : s.Identified b)
    (absent : findAgent? (.bytes b) keys = none) :
    Lacks index s (.byKid keys) (.keyId index (Text.quoteBytes b)) := by
  have kid := identified.kid_eq
  rw [← kid] at absent
  have lacks : Lacks index s (.byKid keys) (.keyId index s.kid.literal) :=
    .missing (by simp [kid]) (by rw [kid]; rfl) (by rw [kid]; rfl) absent
  rwa [kid, Value.literal] at lacks

/-- **Keys that have none for an entry** find no agent for it. -/
theorem Lacks.resolver {keys : Keys} {fault : ResolutionFault} (lacks : keys.Lacks index s fault)
    (entries : Nat) : ∃ resolve, keys.resolver entries = .ok resolve ∧
      resolve index s = .error (.noSignerFound fault) := by
  cases lacks with
  | unidentified absent =>
    refine ⟨_, rfl, ?_⟩
    rw [resolveByKid, absent]
    rfl
  | missing present hashable writable absent =>
    refine ⟨_, rfl, ?_⟩
    rw [resolveByKid]
    split
    · next none => exact absurd none present
    · rw [hashable, absent, Value.literal?, writable]
      rfl
  | answered absent =>
    refine ⟨_, rfl, ?_⟩
    rw [resolveByFunction, absent]
    rfl

theorem resolveByKid_of_keyAmong (stored : s.KeyAmong keys agent) (index : Nat) :
    resolveByKid keys index s = .ok agent := by
  obtain ⟨b, identified, found⟩ := stored
  rw [resolveByKid_eq_ok, identified.kid_eq]
  exact ⟨nofun, rfl, found⟩

end Keys

/-! ## The message -/

namespace Sign

variable {m : Sign} {keys keys' : Keys} {resolve resolve' : Resolver} {aad : Value}

section Agents

variable (resolved : keys.resolver m.entries.length = .ok resolve)
  (resolved' : keys'.resolver m.entries.length = .ok resolve')
  (same : ∀ (j : Nat) (t : Entry), m.entries[j]? = some t → resolve' j t = resolve j t)

include resolved resolved' same

/-- **Equal agents make equal outcomes** of signing. -/
theorem sign_eq_of_agents : m.sign keys' aad = m.sign keys aad :=
  sign_congr resolved resolved' fun _ _ j t at_j => by
    simp only [signVisit, approach, same j t at_j]

/-- **Equal agents make equal outcomes** of verifying. -/
theorem verify_eq_of_agents : m.verify keys' aad = m.verify keys aad :=
  verify_congr resolved resolved' fun _ _ j t at_j => by
    simp only [verifyVisit, approach, same j t at_j]

end Agents

/-- **Keys in order that are not as many as the entries** are refused: after the checks of the
message when it is signed, and at once when it is verified. -/
theorem refused_of_count {agents : List Agent} (nonempty : m.entries ≠ [])
    (other : agents.length ≠ m.entries.length) (aad : Value) :
    (∃ e, m.sign (.inOrder agents) aad = .fail m e ∧
      (e = .noSignerFound (.count agents.length m.entries.length) ∨ m.Refuses e)) ∧
    m.verify (.inOrder agents) aad =
      .fail m (.noSignerFound (.count agents.length m.entries.length)) := by
  have present : ¬ m.entries.isEmpty = true := by simpa using nonempty
  have refused : (Keys.inOrder agents).resolver m.entries.length =
      .error (.noSignerFound (.count agents.length m.entries.length)) := if_neg other
  constructor
  · rcases m.refuses_or_passes with ⟨e, refuses⟩ | ⟨unsigned, checked⟩
    · exact ⟨e, refuses.sign_eq nonempty _ _, .inr refuses⟩
    · have same : { m with state := .unsigned } = m := by rw [← unsigned]
      rw [sign, if_neg present, if_neg (not_not.mpr unsigned), checked, refused]
      simp only [Except.error_bind, same]
      exact ⟨_, rfl, .inl rfl⟩
  · rw [verify, if_neg present, refused]
    rfl

/-- **The ways of supplying keys come to the same.** Let a key be stored for the key identifier of
each entry, in whichever bucket that is. Then signing with these keys by key identifier, with the
keys of the entries in order, and with a function that looks them up comes to the same message, the
same answer or error and the same log, and so does verifying. If there is no key for an entry, both
fail for that reason, or with an error that precedes the use of its key, and if keys in order are
too many or too few, so do they; the message is then as it was, with its state. -/
theorem ways_of_supplying_keys (m : Sign) (aad : Value) :
    (∀ (keys : List (Value × Agent)) (agents : List Agent)
        (find : Nat → Entry → Except Error (Option Agent)),
      List.Forall₂ (Entry.KeyAmong keys) m.entries agents →
      (∀ (i : Nat) (s : Entry) (agent : Agent), m.entries[i]? = some s → s.KeyAmong keys agent →
        find i s = .ok (some agent)) →
      (m.sign (.inOrder agents) aad = m.sign (.byKid keys) aad ∧
        m.sign (.byFunction find) aad = m.sign (.byKid keys) aad) ∧
      m.verify (.inOrder agents) aad = m.verify (.byKid keys) aad ∧
        m.verify (.byFunction find) aad = m.verify (.byKid keys) aad) ∧
    (∀ (keys : Keys) (i : Nat) (s : Entry) (fault : ResolutionFault), m.entries[i]? = some s →
      keys.Lacks i s fault →
      (∃ e, (m.sign keys aad).result = .error e ∧ (m.sign keys aad).after = m ∧
        (e = .noSignerFound fault ∨ m.Refuses e ∨ m.FailsBefore signVisit keys aad i e)) ∧
      ∃ e, (m.verify keys aad).result = .error e ∧ (m.verify keys aad).after = m ∧
        (e = .noSignerFound fault ∨ m.FailsBefore verifyVisit keys aad i e)) ∧
    ∀ agents : List Agent, m.entries ≠ [] → agents.length ≠ m.entries.length →
      (∃ e, m.sign (.inOrder agents) aad = .fail m e ∧
        (e = .noSignerFound (.count agents.length m.entries.length) ∨ m.Refuses e)) ∧
      m.verify (.inOrder agents) aad =
        .fail m (.noSignerFound (.count agents.length m.entries.length)) := by
  refine ⟨fun keys agents find stored finds => ?_, fun keys i s fault at_i lacks => ⟨?_, ?_⟩,
    fun agents nonempty other => refused_of_count nonempty other aad⟩
  · have byKid : (Keys.byKid keys).resolver m.entries.length = .ok (Keys.resolveByKid keys) := rfl
    have inOrder : (Keys.inOrder agents).resolver m.entries.length =
        .ok (Keys.resolveInOrder agents) := if_pos stored.length_eq.symm
    have byFunction : (Keys.byFunction find).resolver m.entries.length =
        .ok (Keys.resolveByFunction find) := rfl
    have found (j : Nat) (t : Entry) (at_j : m.entries[j]? = some t) :
        ∃ agent, Keys.resolveByKid keys j t = .ok agent ∧
          Keys.resolveInOrder agents j t = .ok agent ∧
          Keys.resolveByFunction find j t = .ok agent := by
      obtain ⟨agent, at_j', stored⟩ := Forall₂.exists_getElem? stored at_j
      refine ⟨agent, Keys.resolveByKid_of_keyAmong stored j,
        Keys.resolveInOrder_eq_ok.mpr at_j', ?_⟩
      rw [Keys.resolveByFunction, finds j t agent at_j stored]
      rfl
    have same (j : Nat) (t : Entry) (at_j : m.entries[j]? = some t) :
        Keys.resolveInOrder agents j t = Keys.resolveByKid keys j t := by
      obtain ⟨agent, here, there, -⟩ := found j t at_j
      rw [here, there]
    have same' (j : Nat) (t : Entry) (at_j : m.entries[j]? = some t) :
        Keys.resolveByFunction find j t = Keys.resolveByKid keys j t := by
      obtain ⟨agent, here, -, there⟩ := found j t at_j
      rw [here, there]
    exact ⟨⟨sign_eq_of_agents byKid inOrder same, sign_eq_of_agents byKid byFunction same'⟩,
      verify_eq_of_agents byKid inOrder same, verify_eq_of_agents byKid byFunction same'⟩
  · obtain ⟨resolve, resolved, unresolved⟩ := lacks.resolver m.entries.length
    refine sign_fails (P := (· = .noSignerFound fault)) resolved at_i fun body => ⟨_, rfl, ?_⟩
    rw [signVisit, approach, unresolved]
    rfl
  · obtain ⟨resolve, resolved, unresolved⟩ := lacks.resolver m.entries.length
    refine verify_fails (P := (· = .noSignerFound fault)) resolved at_i fun body => ⟨_, rfl, ?_⟩
    rw [verifyVisit, approach, unresolved]
    rfl

/-- A message with two entries of one key identifier, which one of them has in its protected
bucket. -/
def identifiedPair : Sign :=
  let unprot : Bucket := { isProtected := false, entries := [(.kid, .bytes [7])] }
  let prot : Bucket :=
    { isProtected := true, entries := [(.kid, .bytes [7])], fixed := some [0xa1, 4, 0x41, 7] }
  { unsignedPair with
    entries := unsignedPair.entries.mapIdx fun i s => if i = 0 then { s with unprot }
      else { s with prot } }

/-- One key for both entries is supplied in three ways. No key for their identifier is reported of
the first entry, and a single key in order is not enough. -/
theorem ways_of_supplying_keys_pair :
    let signer : Agent := .marking .es256 1
    let keys : List (Value × Agent) := [(.bytes [7], signer)]
    List.Forall₂ (Entry.KeyAmong keys) identifiedPair.entries [signer, signer] ∧
      (identifiedPair.sign (.byKid keys)).result = .ok () ∧
      identifiedPair.sign (.inOrder [signer, signer]) = identifiedPair.sign (.byKid keys) ∧
      identifiedPair.sign (.byFunction fun _ _ => .ok (some signer)) =
        identifiedPair.sign (.byKid keys) ∧
      (identifiedPair.sign (.byKid [])).after = identifiedPair ∧
      identifiedPair.verify (.inOrder [signer]) =
        .fail identifiedPair (.noSignerFound (.count 1 2)) := by
  intro signer keys
  have found : findAgent? (.bytes [7]) keys = some signer := by
    simp [keys, findAgent?, Value.same, Value.sameAtom]
  have stored : List.Forall₂ (Entry.KeyAmong keys) identifiedPair.entries [signer, signer] :=
    .cons ⟨[7], .unprot rfl, found⟩ (.cons ⟨[7], .prot rfl rfl, found⟩ .nil)
  have signed : (identifiedPair.sign (.byKid keys)).result = .ok () := by with_unfolding_all rfl
  have only (i : Nat) (s : Entry) (agent : Agent) (_ : identifiedPair.entries[i]? = some s) :
      s.KeyAmong keys agent → (.ok (some signer) : Except Error _) = .ok (some agent) := by
    rintro ⟨b, -, found⟩
    rw [findAgent?] at found
    split at found
    · rw [found]
    · cases found
  obtain ⟨three, lacking, count⟩ := ways_of_supplying_keys identifiedPair (.bytes [])
  obtain ⟨⟨inOrder, byFunction⟩, -⟩ := three keys [signer, signer] _ stored only
  obtain ⟨⟨_, -, after, -⟩, -⟩ :=
    lacking (.byKid []) 0 _ _ rfl (.of_identified (b := [7]) (.unprot rfl) rfl)
  have refused := count [signer] (List.cons_ne_nil _ _) (by decide)
  exact ⟨stored, signed, inOrder, byFunction, after, refused.2⟩

end Sign

end Cose
