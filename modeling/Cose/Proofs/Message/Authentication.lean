import Cose.Proofs.Credential.Signing
import Cose.Proofs.Credential.Verifying
import Cose.Proofs.Header.Agreement
import Cose.Proofs.Structure.Binding

/-!
# What authenticating a tag says

An authenticator for a key compares a tag, as a whole, with the keyed hash of what the tag covers. A
message is authenticated if the two are equal, and there is one way to be rejected: the error does
not tell whether the content, the headers, the external data, the key or the tag is another one, and
the state that the message is left in does not either. An error that is not about the tag leaves the
message as it was.

## Main definitions

* `Credential.Authenticates`: an authenticator for a key
* `Mac0.accepted`, `Mac0.rejected`: the two steps of a message whose tag can be checked

## Main results

* `Credential.Authenticates.authenticateTag_eq`: what an authenticator computes
* `Mac0.authenticateTag_eq`: authenticating a message
* `Mac0.authenticateTag_trichotomy`, `Mac0.eq_rejected`: there is no other outcome, and no other way
  to be rejected
* `Mac0.authenticator_exact`: the authenticators that a key and an algorithm give
-/

namespace Cose

/-! ## Bytes that are spelled -/

namespace Value

@[simp] theorem octetsOrNone_bytes (b : Bytes) : (Value.bytes b).octetsOrNone = .ok b := rfl

theorem technical_octet (v : Value) : Technical v.octet := by
  fun_cases octet v
  all_goals first | exact .ok _ | exact .error rfl

theorem technical_zeros (n : Int) : Technical (zeros n) := by
  fun_cases zeros n
  all_goals first | exact .ok _ | exact .error rfl

theorem technical_octets (v : Value) : Technical v.octets := by
  fun_cases octets v
  case case3 | case4 => exact technical_zeros _
  case case6 => exact .mapM fun x _ => x.technical_octet
  all_goals first | exact .ok _ | exact .error rfl

/-- A value that spells no bytes is no matter of a tag. -/
theorem technical_octetsOrNone (v : Value) : Technical v.octetsOrNone := by
  fun_cases octetsOrNone v
  · exact .ok _
  · exact v.technical_octets

end Value

/-- A technical error is not about a tag. -/
theorem Error.kind_ne_authentication {e : Error} (h : e.isTechnical = true) :
    e.kind ≠ .authentication := by
  cases e with
  | verification | verificationFailed | state | raised => cases h
  | argument f => cases f <;> simp [Error.kind, ArgumentFault.kind]
  | fault f => cases f <;> simp [Error.kind, Fault.kind]
  | _ => simp [Error.kind]

/-! ## Authenticators -/

theorem Algorithm.newHash_of_isMac {a : Algorithm} (registered : a ∈ Registry.standard.algorithms)
    (mac : a.family.isMac = true) : ∃ hash, a.hash = some hash ∧ a.newHash = .ok hash := by
  have all : ∀ a ∈ Registry.standard.algorithms, a.family.isMac = true → a.hash ≠ none := by decide
  obtain ⟨hash, named⟩ := Option.ne_none_iff_exists'.mp (all a registered mac)
  exact ⟨hash, named, by rw [newHash, named]⟩

namespace Credential

/-- **An authenticator for a key**, whose tags are keyed hashes. -/
structure Authenticates (c : Credential) (hash : Hash) (key : Bytes) : Prop where
  role_eq : c.role = .authenticator
  mac : c.algorithm.family.isMac = true
  newHash_eq : c.algorithm.newHash = .ok hash
  key_eq : c.key = .data (.bytes key)

theorem tagger_eq_ok {a : Algorithm} {key : Key} {c : Credential} {lines : List LogLine}
    (made : tagger a key = .ok (c, lines)) :
    ∃ k, c = ⟨.authenticator, a, .data (.bytes k), none⟩ ∧
      (key = .data (.bytes k) ∨ key = .data (.buffer k)) := by
  unfold tagger at made
  split at made
  · next b =>
    split at made
    · cases made
    · obtain ⟨size, -, made⟩ := Except.bind_eq_ok.mp made
      cases made
      exact ⟨b, rfl, .inl rfl⟩
  · next b =>
    split at made
    · cases made
    · obtain ⟨size, -, made⟩ := Except.bind_eq_ok.mp made
      cases made
      exact ⟨b, rfl, .inr rfl⟩
  · cases made

/-- What the factory makes is an authenticator for the bytes of the key. -/
theorem exists_authenticates {alg : Value} {key : Key} {c : Credential} {lines : List LogLine}
    (made : authenticator alg key = .ok (c, lines)) :
    ∃ hash k, c.algorithm.hash = some hash ∧ c.Authenticates hash k ∧
      (key = .data (.bytes k) ∨ key = .data (.buffer k)) := by
  obtain ⟨a, found, made⟩ := Except.bind_eq_ok.mp made
  split at made
  · next mac =>
    obtain ⟨hash, named, newHash_eq⟩ :=
      Algorithm.newHash_of_isMac (Registry.mem_of_lookup found) mac
    obtain ⟨k, rfl, spells⟩ := tagger_eq_ok made
    exact ⟨hash, k, named, ⟨rfl, mac, newHash_eq, rfl⟩, spells⟩
  · cases made

variable {c : Credential} {hash : Hash} {key : Bytes}

namespace Authenticates

/-- **What an authenticator computes**: the claimed tag, as a whole, against the keyed hash. -/
theorem authenticateTag_eq (h : c.Authenticates hash key) (content claimed : Value) :
    c.authenticateTag content claimed = (do
      let covered ← content.octetsOrNone
      let tag ← claimed.octetsOrNone
      if tag = hash.hmac key covered then return ()
      else throw (.verification .authentication)) := by
  rw [authenticateTag, h.role_eq]
  simp only [tag, h.newHash_eq, h.key_eq, Except.ok_bind, Except.pure_eq]
  cases content.octetsOrNone <;> rfl

/-- Verifying with an authenticator is authenticating. -/
theorem verify_eq (h : c.Authenticates hash key) (data signature : Value) :
    c.verify data signature = c.authenticateTag data signature := by
  rw [verify, h.role_eq]

/-- The check of a tag fails because of the tag in one way only. -/
theorem refused_or_technical (h : c.Authenticates hash key) {content claimed : Value} {e : Error}
    (failed : c.authenticateTag content claimed = .error e) :
    e = .verification .authentication ∨ e.isTechnical = true := by
  rw [h.authenticateTag_eq] at failed
  cases spelled : content.octetsOrNone with
  | error f =>
    rw [spelled] at failed
    cases failed
    exact .inr (content.technical_octetsOrNone _ spelled)
  | ok covered =>
    rw [spelled, Except.ok_bind] at failed
    cases given : claimed.octetsOrNone with
    | error f =>
      rw [given] at failed
      cases failed
      exact .inr (claimed.technical_octetsOrNone _ given)
    | ok tag =>
      simp only [given, Except.ok_bind] at failed
      split at failed
      · cases failed
      · cases failed
        exact .inl rfl

end Authenticates

end Credential

/-! ## Messages -/

namespace Mac0

/-- The step of a message whose tag is right. -/
def accepted (m : Mac0) : Step Mac0 Unit :=
  ⟨{ m with state := .verified }, .ok (), []⟩

/-- The step of a message whose tag is wrong, for whatever reason. -/
def rejected (m : Mac0) : Step Mac0 Unit :=
  .fail { m with state := .verificationFailed } (.verification .authentication)

variable {m : Mac0} {c : Credential} {hash : Hash} {key prot : Bytes}

/-- **Authenticating a message** with an algorithm that its protected bucket allows. -/
theorem authenticateTag_eq (h : c.Authenticates hash key) (encoded : m.prot.encode = .ok prot)
    (allows : m.prot.Allows c.algorithm) {aad : Value} {covered tag : Bytes}
    (covers : macStructure Context.mac0.text (.bytes prot) aad m.payload = .ok covered)
    (given : m.tag.octetsOrNone = .ok tag) :
    m.authenticateTag c.agent aad =
      if tag = hash.hmac key covered then m.accepted else m.rejected := by
  have admitted : c.agent.macAlgorithm = .ok c.algorithm := by
    rw [Agent.macAlgorithm, Credential.agent, Except.ok_bind, if_pos h.mac]
    rfl
  have agrees := Bucket.checkAlgorithm_eq_ok_iff.mpr allows
  have checked : c.agent.authenticateTag covered m.tag =
      if tag = hash.hmac key covered then .ok () else .error (.verification .authentication) := by
    rw [Credential.agent]
    simp only [h.authenticateTag_eq, given]
    rfl
  rw [authenticateTag, admitted]
  simp only [Except.ok_bind, agrees, encoded, structureFor, covers, checked]
  by_cases right : tag = hash.hmac key covered
  · simp only [if_pos right]
    rfl
  · simp only [if_neg right]
    rfl

/-- What was checked of a message that is accepted. -/
theorem checked_of_authenticateTag {agent : Agent} {aad : Value}
    (done : (m.authenticateTag agent aad).result = .ok ()) :
    (do agent.authenticateTag (← m.structureFor (← m.prot.encode) aad) m.tag) = .ok () := by
  rw [authenticateTag] at done
  simp only at done
  split at done
  · cases done
  split at done
  · next checked => exact checked
  split at done
  · cases done
  · cases done

/-- A message is accepted exactly if its tag is the keyed hash of what the tag covers. -/
theorem authenticateTag_eq_ok_iff (h : c.Authenticates hash key)
    (encoded : m.prot.encode = .ok prot) (allows : m.prot.Allows c.algorithm) (aad : Value) :
    (m.authenticateTag c.agent aad).result = .ok () ↔ ∃ covered,
      macStructure Context.mac0.text (.bytes prot) aad m.payload = .ok covered ∧
        m.tag.octetsOrNone = .ok (hash.hmac key covered) := by
  constructor
  · intro done
    have checked := checked_of_authenticateTag done
    rw [encoded, Except.ok_bind] at checked
    obtain ⟨covered, covers, agrees⟩ := Except.bind_eq_ok.mp checked
    have agrees : c.authenticateTag (.bytes covered) m.tag = .ok () := agrees
    rw [h.authenticateTag_eq, Value.octetsOrNone_bytes, Except.ok_bind] at agrees
    obtain ⟨tag, given, right⟩ := Except.bind_eq_ok.mp agrees
    split at right
    · next same => exact ⟨covered, covers, same ▸ given⟩
    · cases right
  · rintro ⟨covered, covers, given⟩
    rw [authenticateTag_eq h encoded allows covers given, if_pos rfl]
    rfl

/-- **There are three outcomes**: the message is accepted, or rejected in the one way, or an error
that is not about the tag leaves the message as it was. -/
theorem authenticateTag_trichotomy (h : c.Authenticates hash key) (m : Mac0) (aad : Value) :
    m.authenticateTag c.agent aad = m.accepted ∨ m.authenticateTag c.agent aad = m.rejected ∨
      ∃ e, e.kind ≠ .authentication ∧ m.authenticateTag c.agent aad = .fail m e := by
  rw [authenticateTag]
  simp only
  split
  · next e failed =>
    have technical : Technical (do m.prot.checkAlgorithm (.algorithm (← c.agent.macAlgorithm))) :=
      (Agent.technical_macAlgorithm (.ok _)).bind fun alg => m.prot.technical_checkAlgorithm _
    exact .inr (.inr ⟨e, Error.kind_ne_authentication (technical e failed), rfl⟩)
  · split
    · exact .inl rfl
    · next e failed =>
      have cause : e = .verification .authentication ∨ e.isTechnical = true := by
        rcases encoded : m.prot.encode with f | prot
        · rw [encoded] at failed
          cases failed
          exact .inr (m.prot.technical_encode _ encoded)
        rw [encoded, Except.ok_bind] at failed
        rcases covers : m.structureFor prot aad with f | covered
        · rw [covers] at failed
          cases failed
          exact .inr (macStructure_technical _ _ _ _ _ covers)
        rw [covers] at failed
        exact h.refused_or_technical failed
      rcases cause with rfl | technical
      · exact .inr (.inl rfl)
      · have other := Error.kind_ne_authentication technical
        rw [if_neg other]
        exact .inr (.inr ⟨e, other, rfl⟩)

/-- **A message is rejected in one way only.** -/
theorem eq_rejected (h : c.Authenticates hash key) {aad : Value} {e : Error}
    (failed : (m.authenticateTag c.agent aad).result = .error e) (kind : e.kind = .authentication) :
    m.authenticateTag c.agent aad = m.rejected := by
  rcases authenticateTag_trichotomy h m aad with accepted | rejected | ⟨f, other, step⟩
  · rw [accepted] at failed
    cases failed
  · exact rejected
  · rw [step] at failed
    cases failed
    exact absurd kind other

/-- **Authenticating is exact and uniform.** With an authenticator for the bytes of a key, a message
in any state is accepted exactly if its tag is the keyed hash of what the tag covers; where the
fields and the tag spell bytes it is rejected otherwise, and whatever comes out is one of the three
outcomes. Two rejections are the same error, which is raised from no other, and leave the same state,
also of other messages and with other keys. The authenticator itself says the same of any content and
tag, also when it verifies. -/
theorem authenticator_exact {alg : Value} {key : Key} {c : Credential} {lines : List LogLine}
    (made : Credential.authenticator alg key = .ok (c, lines)) :
    ∃ hash k, c.algorithm.hash = some hash ∧ (key = .data (.bytes k) ∨ key = .data (.buffer k)) ∧
      (∀ (m : Mac0) prot aad, m.prot.encode = .ok prot → m.prot.Allows c.algorithm →
        ((m.authenticateTag c.agent aad).result = .ok () ↔ ∃ covered,
          macStructure Context.mac0.text (.bytes prot) aad m.payload = .ok covered ∧
            m.tag.octetsOrNone = .ok (hash.hmac k covered)) ∧
        ∀ external content tag, aad.asField = .bytes external →
          m.payload.asField = .bytes content → m.tag.octetsOrNone = .ok tag →
          ∃ covered,
            macStructure Context.mac0.text (.bytes prot) aad m.payload = .ok covered ∧
            m.authenticateTag c.agent aad =
              if tag = hash.hmac k covered then m.accepted else m.rejected) ∧
      (∀ (m : Mac0) aad, m.authenticateTag c.agent aad = m.accepted ∨
        m.authenticateTag c.agent aad = m.rejected ∨
        ∃ e, e.kind ≠ .authentication ∧ m.authenticateTag c.agent aad = .fail m e) ∧
      (∀ alg' key' c' lines', Credential.authenticator alg' key' = .ok (c', lines') →
        ∀ (m m' : Mac0) aad aad' e e',
          (m.authenticateTag c.agent aad).result = .error e → e.kind = .authentication →
          (m'.authenticateTag c'.agent aad').result = .error e' → e'.kind = .authentication →
          e = e' ∧ e.cause? = none ∧
            (m.authenticateTag c.agent aad).log = (m'.authenticateTag c'.agent aad').log ∧
            (m.authenticateTag c.agent aad).after.state = .verificationFailed ∧
            (m'.authenticateTag c'.agent aad').after.state = .verificationFailed) ∧
      (∀ content claimed covered tag, content.octetsOrNone = .ok covered →
        claimed.octetsOrNone = .ok tag →
        c.authenticateTag content claimed =
          if tag = hash.hmac k covered then .ok () else .error (.verification .authentication)) ∧
      (∀ content claimed, c.verify content claimed = c.authenticateTag content claimed ∧
        ∀ e, c.authenticateTag content claimed = .error e →
          (e = .verification .authentication ∧ e.cause? = none) ∨ e.kind ≠ .authentication) := by
  obtain ⟨hash, k, named, h, spells⟩ := Credential.exists_authenticates made
  refine ⟨hash, k, named, spells, ?_, ?_, ?_, ?_, ?_⟩
  · intro m prot aad encoded allows
    constructor
    · exact authenticateTag_eq_ok_iff h encoded allows aad
    · intro external content tag hexternal hcontent given
      have builds := @StructureCall.Builds.tag (.bytes prot) aad m.payload _ _ _ rfl hexternal hcontent
      have covers := builds.encode_eq
      exact ⟨_, covers, authenticateTag_eq h encoded allows covers given⟩
  · intro m aad
    exact authenticateTag_trichotomy h m aad
  · intro alg' key' c' lines' made' m m' aad aad' e e' failed kind failed' kind'
    obtain ⟨hash', k', -, h', -⟩ := Credential.exists_authenticates made'
    have step := eq_rejected h failed kind
    have step' := eq_rejected h' failed' kind'
    rw [step] at failed ⊢
    rw [step'] at failed' ⊢
    cases failed
    cases failed'
    exact ⟨rfl, rfl, rfl, rfl, rfl⟩
  · intro content claimed covered tag spelled given
    rw [h.authenticateTag_eq, spelled, Except.ok_bind, given]
    rfl
  · intro content claimed
    refine ⟨h.verify_eq content claimed, fun e failed => ?_⟩
    refine (h.refused_or_technical failed).imp (fun rejected => ⟨rejected, ?_⟩)
      Error.kind_ne_authentication
    rw [rejected]
    rfl

/-- A message without headers and without payload, which another check has rejected. -/
def emptySample (tag : Bytes) : Mac0 where
  prot := { isProtected := true, fixed := some [] }
  unprot := { isProtected := false }
  payload := .null
  tag := .bytes tag
  state := .verificationFailed

/-- A message without headers and without payload: an empty tag is rejected, and there is a tag that
is accepted. -/
theorem authenticator_exact_empty :
    ∃ c lines, Credential.authenticator (.text "HMAC 256/256") (.data (.bytes [1])) = .ok (c, lines) ∧
      (emptySample []).authenticateTag c.agent .null = (emptySample []).rejected ∧
      ∃ tag, (emptySample tag).authenticateTag c.agent .null = (emptySample tag).accepted := by
  refine ⟨_, _, rfl, ?_⟩
  obtain ⟨hash, k, -, -, exact, -⟩ :=
    @authenticator_exact (.text "HMAC 256/256") (.data (.bytes [1])) _ _ rfl
  have checks (tag : Bytes) :=
    (exact (emptySample tag) [] .null rfl (.inl rfl)).2 [] [] tag rfl rfl rfl
  constructor
  · obtain ⟨covered, -, eq⟩ := checks []
    have nonempty : [] ≠ hash.hmac k covered := by
      have length := hash.length_hmac k covered
      have pos := hash.digestSize_pos
      exact (List.ne_nil_of_length_pos (by omega)).symm
    rw [eq, if_neg nonempty]
  · obtain ⟨covered, covers, -⟩ := checks []
    obtain ⟨covered', covers', eq⟩ := checks (hash.hmac k covered)
    cases covers.symm.trans covers'
    exact ⟨_, eq.trans (if_pos rfl)⟩

end Mac0

end Cose
