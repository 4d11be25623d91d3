import Cose.Proofs.Credential.Verifying

/-!
# Signers and verifiers for the same keys

The factories of signers and of verifiers check keys separately, the one private keys and the other
their public halves. They agree nevertheless: which keys suit an algorithm is said by the family, the
curve, the length of the modulus, and whether a shared key is empty, and none of these differs between
a private key and its public half. So whoever can sign can be verified, and the verifier that a signer
names is the one that is made for its key.

## Main definitions

* `Key.IsSecret`: keys that are not public
* `Key.Suits`: which algorithms a key is used with

## Main results

* `Credential.exists_pair_of_suits`, `Credential.refused_of_not_suits`: the two factories on one key
* `Credential.factories_agree`: all that the factories have in common
-/

namespace Cose

/-! ## Keys that suit an algorithm -/

namespace Key

/-- **A key is secret**: it is a private one, or one that would be shared. -/
def IsSecret (key : Key) : Prop :=
  key.IsAsymmetric → key.isPrivate = true

/-- A key suits an algorithm: it fits the algorithm, or it is shared, the algorithm tags, and the
key is not empty. -/
inductive Suits (key : Key) (a : Algorithm) : Prop
  | fitting (fits : key.Fits a)
  | shared {secret : Bytes} (mac : a.family.isMac = true) (present : secret ≠ [])
      (spells : key = .data (.bytes secret) ∨ key = .data (.buffer secret))

variable {key : Key} {a : Algorithm}

theorem publicHalf_publicHalf (key : Key) : key.publicHalf.publicHalf = key.publicHalf := by
  cases key <;> rfl

theorem IsAsymmetric.publicHalf (asymmetric : key.IsAsymmetric) : key.publicHalf.IsAsymmetric := by
  cases key <;> exact asymmetric

/-- What suits an algorithm that tags is a shared key. -/
theorem Suits.exists_of_isMac (suits : key.Suits a) (mac : a.family.isMac = true) :
    ∃ secret, secret ≠ [] ∧ (key = .data (.bytes secret) ∨ key = .data (.buffer secret)) := by
  cases suits with
  | fitting fits => cases fits.isMac.symm.trans mac
  | shared _ present spells => exact ⟨_, present, spells⟩

/-- What suits an asymmetric algorithm fits it. -/
theorem Suits.fits (suits : key.Suits a) (asymmetric : a.family.isMac = false) : key.Fits a := by
  cases suits with
  | fitting fits => exact fits
  | shared mac => cases mac.symm.trans asymmetric

end Key

theorem Algorithm.knownSize_of_isMac {a : Algorithm} (registered : a ∈ Registry.standard.algorithms)
    (mac : a.family.isMac = true) : ∃ size, a.knownSize = .ok size := by
  have all : ∀ a ∈ Registry.standard.algorithms, a.family.isMac = true →
      a = .hmac256 ∨ a = .hmac384 ∨ a = .hmac512 := by decide
  rcases all a registered mac with rfl | rfl | rfl <;> exact ⟨_, rfl⟩

namespace Credential

variable {a : Algorithm} {alg : Value} {key : Key} {entropy : Option Bytes}

/-! ## The checks of the factories -/

/-- A private key has no fault exactly if it fits, as its public half. -/
theorem keyFault?_private_eq_none_iff (registered : a ∈ Registry.standard.algorithms) :
    keyFault? a key true = none ↔ key.isPrivate = true ∧ key.Fits a := by
  rw [← keyFault?_eq_none_iff registered]
  simp only [keyFault?]
  generalize a.family = family
  rcases key with ⟨_, _, _, _ | _⟩ | ⟨_ | _ | _ | _, _, _ | _⟩ | ⟨_, _, _ | _⟩ | _ <;>
    cases family <;> simp [Key.publicHalf, Key.isPrivate]

/-- No asymmetric key tags. -/
theorem tagger_of_isAsymmetric (asymmetric : key.IsAsymmetric) :
    ∃ fault, tagger a key = .error (.invalidKey fault) := by
  cases key with
  | ec | octet | rsa => exact ⟨_, rfl⟩
  | data => cases asymmetric

/-- A shared key that is not empty tags. -/
theorem tagger_of_spells (registered : a ∈ Registry.standard.algorithms)
    (mac : a.family.isMac = true) {secret : Bytes} (present : secret ≠ [])
    (spells : key = .data (.bytes secret) ∨ key = .data (.buffer secret)) :
    ∃ lines, tagger a key = .ok (⟨.authenticator, a, .data (.bytes secret), none⟩, lines) := by
  obtain ⟨size, known⟩ := Algorithm.knownSize_of_isMac registered mac
  have nonempty : secret.isEmpty = false := by simpa using present
  rcases spells with rfl | rfl <;>
    simp only [tagger, nonempty, known, Bool.false_eq_true, if_false, Except.pure_eq, Except.ok_bind] <;>
    exact ⟨_, rfl⟩

/-- Everything else is refused. -/
theorem tagger_of_not_suits (mac : a.family.isMac = true) (other : ¬ key.Suits a) :
    ∃ fault, tagger a key = .error (.invalidKey fault) := by
  unfold tagger
  split
  · next secret =>
    have empty : secret = [] := by_contra fun present => other (.shared mac present (.inl rfl))
    exact ⟨.empty, by rw [empty]; rfl⟩
  · next secret =>
    have empty : secret = [] := by_contra fun present => other (.shared mac present (.inr rfl))
    exact ⟨.empty, by rw [empty]; rfl⟩
  · exact ⟨_, rfl⟩

/-! ## Signers -/

theorem signer_of_isMac (found : Algorithm.lookup alg = .ok a) (mac : a.family.isMac = true) :
    signer alg key entropy = match tagger a key with
      | .error (.invalidKey fault) => .error (.signing (.key fault (some (.key fault))))
      | r => r := by
  rw [signer, found]
  simp only [Except.ok_bind, mac, if_true]
  rfl

theorem signer_of_asymmetric (found : Algorithm.lookup alg = .ok a)
    (asymmetric : a.family.isMac = false) :
    signer alg key entropy = match keyFault? a key true with
      | some fault => .error (.signing (.key fault))
      | none => .ok (⟨signerRole a.family, a, key, entropy⟩, []) := by
  rw [signer, found]
  simp only [Except.ok_bind, asymmetric, Bool.false_eq_true, if_false]
  rfl

theorem verifier_of_isMac (found : Algorithm.lookup alg = .ok a) (mac : a.family.isMac = true) :
    verifier alg key = tagger a key.publicHalf := by
  rw [verifier, found]
  simp only [Except.ok_bind, mac, if_true]

theorem verifier_of_asymmetric (found : Algorithm.lookup alg = .ok a)
    (asymmetric : a.family.isMac = false) :
    verifier alg key = match keyFault? a key.publicHalf false with
      | some fault => .error (.invalidKey fault)
      | none => .ok (ofPublic a key, []) := by
  rw [verifier, found]
  simp only [Except.ok_bind, asymmetric, Bool.false_eq_true, if_false]
  rfl

/-- Of a private key the public half is used. -/
theorem verifier_publicHalf (alg : Value) (key : Key) :
    verifier alg key.publicHalf = verifier alg key := by
  simp only [verifier, Key.publicHalf_publicHalf]

/-- A signer whose key fits names the verifier for the key. -/
theorem counterpart_eq_ofPublic (fits : key.Fits a) (secret : key.isPrivate = true) :
    counterpart ⟨signerRole a.family, a, key, entropy⟩ = .ok (ofPublic a key) := by
  have asymmetric := fits.isMac
  cases family : a.family with
  | ecdsa | eddsa | rsaPss => simp [counterpart, counterpartRole?, signerRole, verifierRole, ofPublic,
      secret, family]
  | hmac =>
    rw [family] at asymmetric
    cases asymmetric

/-! ## Both factories -/

/-- **A secret key that suits** has a signer and a verifier. -/
theorem exists_pair_of_suits (found : Algorithm.lookup alg = .ok a) (secret : key.IsSecret)
    (suits : key.Suits a) (entropy : Option Bytes) :
    ∃ s v lines, signer alg key entropy = .ok (s, lines) ∧ verifier alg key = .ok (v, lines) ∧
      s.algorithm = a ∧ v.algorithm = a ∧
      (a.family.isSignature = true → s.counterpart = .ok v ∧ v.key = key.publicHalf) ∧
      (a.family.isMac = true → s = v) := by
  have registered := Registry.mem_of_lookup found
  cases mac : a.family.isMac with
  | true =>
    obtain ⟨b, present, spells⟩ := suits.exists_of_isMac mac
    obtain ⟨lines, tags⟩ := tagger_of_spells registered mac present spells
    have unchanged : key.publicHalf = key := by rcases spells with rfl | rfl <;> rfl
    refine ⟨⟨.authenticator, a, .data (.bytes b), none⟩, _, lines, ?_, ?_, rfl, rfl, ?_, fun _ => rfl⟩
    · rw [signer_of_isMac found mac, tags]
    · rw [verifier_of_isMac found mac, unchanged, tags]
    · simp [Family.isSignature, mac]
  | false =>
    have fits := suits.fits mac
    have isPrivate := secret fits.isAsymmetric
    have sound := (keyFault?_private_eq_none_iff registered).mpr ⟨isPrivate, fits⟩
    refine ⟨⟨signerRole a.family, a, key, entropy⟩, ofPublic a key, [], ?_,
      verifier_of_fits found fits, rfl, rfl, fun _ => ⟨?_, rfl⟩,
      fun tags => absurd tags Bool.false_ne_true⟩
    · rw [signer_of_asymmetric found mac, sound]
    · exact counterpart_eq_ofPublic fits isPrivate

/-- **A key that does not suit** has none. -/
theorem refused_of_not_suits (found : Algorithm.lookup alg = .ok a) (other : ¬ key.Suits a)
    (entropy : Option Bytes) :
    ∃ f cause f', signer alg key entropy = .error (.signing (.key f cause)) ∧
      verifier alg key = .error (.invalidKey f') := by
  have registered := Registry.mem_of_lookup found
  cases mac : a.family.isMac with
  | true =>
    obtain ⟨f, refused⟩ := tagger_of_not_suits mac other
    have refused' : ∃ f', tagger a key.publicHalf = .error (.invalidKey f') := by
      cases key with
      | data => exact ⟨f, refused⟩
      | ec | octet | rsa => exact tagger_of_isAsymmetric trivial
    obtain ⟨f', refused'⟩ := refused'
    refine ⟨f, some (.key f), f', ?_, ?_⟩
    · rw [signer_of_isMac found mac, refused]
    · rw [verifier_of_isMac found mac, refused']
  | false =>
    have unfit : ¬ key.Fits a := fun fits => other (.fitting fits)
    obtain ⟨f, faulty⟩ := Option.ne_none_iff_exists'.mp fun sound =>
      unfit ((keyFault?_private_eq_none_iff registered).mp sound).2
    obtain ⟨f', faulty'⟩ := Option.ne_none_iff_exists'.mp fun sound =>
      unfit ((keyFault?_eq_none_iff registered).mp sound)
    refine ⟨f, none, f', ?_, ?_⟩
    · rw [signer_of_asymmetric found mac, faulty]
    · rw [verifier_of_asymmetric found mac, faulty']

/-- A public key does not sign. -/
theorem signer_of_public (asymmetric : key.IsAsymmetric) (isPublic : key.isPrivate = false)
    (alg : Value) (entropy : Option Bytes) : ∃ e, signer alg key entropy = .error e := by
  rcases found : Algorithm.lookup alg with e | a
  · exact ⟨e, by rw [signer, found]; rfl⟩
  cases mac : a.family.isMac with
  | true =>
    obtain ⟨f, refused⟩ := tagger_of_isAsymmetric (a := a) asymmetric
    exact ⟨_, by rw [signer_of_isMac found mac, refused]⟩
  | false =>
    have faulty : keyFault? a key true ≠ none := fun sound => by
      have both := (keyFault?_private_eq_none_iff (Registry.mem_of_lookup found)).mp sound
      cases isPublic.symm.trans both.1
    obtain ⟨f, faulty⟩ := Option.ne_none_iff_exists'.mp faulty
    exact ⟨.signing (.key f), by rw [signer_of_asymmetric found mac, faulty]⟩

/-- An asymmetric key does not tag. -/
theorem authenticator_of_isAsymmetric (asymmetric : key.IsAsymmetric) (alg : Value) :
    ∃ e, authenticator alg key = .error e := by
  rcases found : Algorithm.lookup alg with e | a
  · exact ⟨e, by rw [authenticator, found]; rfl⟩
  rw [authenticator, found, Except.ok_bind]
  split
  · obtain ⟨f, refused⟩ := tagger_of_isAsymmetric (a := a) asymmetric
    exact ⟨_, refused⟩
  · exact ⟨_, rfl⟩

/-- What is made of an asymmetric key is no authenticator. -/
theorem role_ne_of_isAsymmetric (asymmetric : key.IsAsymmetric) {c : Credential}
    {lines : List LogLine} (made : signer alg key entropy = .ok (c, lines) ∨
      verifier alg key = .ok (c, lines)) : c.role ≠ .authenticator := by
  rcases found : Algorithm.lookup alg with e | a
  · rw [signer, verifier, found] at made
    rcases made with made | made <;> cases made
  cases mac : a.family.isMac with
  | true =>
    obtain ⟨f, refused⟩ := tagger_of_isAsymmetric (a := a) asymmetric
    obtain ⟨f', refused'⟩ := tagger_of_isAsymmetric (a := a) asymmetric.publicHalf
    rw [signer_of_isMac found mac, verifier_of_isMac found mac, refused, refused'] at made
    rcases made with made | made <;> cases made
  | false =>
    rw [signer_of_asymmetric found mac, verifier_of_asymmetric found mac] at made
    rcases made with made | made
    · split at made <;> cases made
      exact (role_ne_of_isMac mac).1
    · split at made <;> cases made
      exact (role_ne_of_isMac mac).2

/-! ## All of it -/

/-- **The factories accept the same keys.** Let a key be secret, and an algorithm be asked for in any
way. If it is not registered, both factories say so. Otherwise a key that suits it has a signer and a
verifier that work with the algorithm, and if it signs, the verifier is the one that the signer names,
over the public half of the key; a key that does not suit has neither, since signing fails where the
key is refused. So there is a signer exactly if there is a verifier, which is the same for the public
half of the key. A public key has no signer. An asymmetric key has no authenticator, and what is made
of it is none. -/
theorem factories_agree (alg : Value) (key : Key) (entropy : Option Bytes) :
    (key.IsSecret →
      ((∃ made, signer alg key entropy = .ok made) ↔ ∃ made, verifier alg key = .ok made) ∧
      (∀ e, Algorithm.lookup alg = .error e →
        signer alg key entropy = .error e ∧ verifier alg key = .error e) ∧
      ∀ a, Algorithm.lookup alg = .ok a → a ∈ Registry.standard.algorithms ∧
        (key.Suits a → ∃ s v lines, signer alg key entropy = .ok (s, lines) ∧
          verifier alg key = .ok (v, lines) ∧ s.algorithm = a ∧ v.algorithm = a ∧
          (a.family.isSignature = true → s.counterpart = .ok v ∧ v.key = key.publicHalf) ∧
          (a.family.isMac = true → s = v)) ∧
        (¬ key.Suits a → ∃ f cause f', signer alg key entropy = .error (.signing (.key f cause)) ∧
          verifier alg key = .error (.invalidKey f'))) ∧
    verifier alg key.publicHalf = verifier alg key ∧
    (key.IsAsymmetric →
      (key.isPrivate = false → ∃ e, signer alg key entropy = .error e) ∧
      (∃ e, authenticator alg key = .error e) ∧
      ∀ c lines, signer alg key entropy = .ok (c, lines) ∨ verifier alg key = .ok (c, lines) →
        c.role ≠ .authenticator) := by
  refine ⟨fun secret => ⟨?_, fun e unknown => ?_, fun a found => ⟨Registry.mem_of_lookup found,
    fun suits => exists_pair_of_suits found secret suits entropy,
    fun other => refused_of_not_suits found other entropy⟩⟩, verifier_publicHalf alg key,
    fun asymmetric => ⟨fun isPublic => signer_of_public asymmetric isPublic alg entropy,
      authenticator_of_isAsymmetric asymmetric alg,
      fun c lines made => role_ne_of_isAsymmetric asymmetric made⟩⟩
  · rcases found : Algorithm.lookup alg with e | a
    · simp [signer, verifier, found]
    by_cases suits : key.Suits a
    · obtain ⟨s, v, lines, signs, checks, -⟩ := exists_pair_of_suits found secret suits entropy
      exact iff_of_true ⟨_, signs⟩ ⟨_, checks⟩
    · obtain ⟨f, cause, f', refused, refused'⟩ := refused_of_not_suits found suits entropy
      simp [refused, refused']
  · rw [signer, verifier, unknown]
    exact ⟨rfl, rfl⟩

/-- A modulus of 2048 bits suits an algorithm of its family and one that is shorter does not; a byte
that is shared suits one that tags; and a truth value is no algorithm. -/
theorem factories_agree_boundary :
    let long : Key := .rsa (2 ^ 2047) 3 (some 5)
    let short : Key := .rsa (2 ^ 2047 - 1) 3 (some 5)
    let shared : Key := .data (.buffer [7])
    (∃ s v lines, signer (.text "PS256") long = .ok (s, lines) ∧ s.counterpart = .ok v ∧
      verifier (.text "PS256") long.publicHalf = .ok (v, lines) ∧ v.key = long.publicHalf) ∧
    (∃ f cause f', signer (.text "PS256") short = .error (.signing (.key f cause)) ∧
      verifier (.text "PS256") short.publicHalf = .error (.invalidKey f')) ∧
    (∃ c lines, signer (.int 5) shared = .ok (c, lines) ∧ verifier (.int 5) shared = .ok (c, lines)) ∧
    (∃ e, signer (.bool true) long = .error e ∧ verifier (.bool true) long = .error e) ∧
    (∃ e, signer (.text "PS256") long.publicHalf = .error e) ∧
    ∃ e, authenticator (.int 5) long = .error e := by
  intro long short shared
  have fits : long.Suits .ps256 := .fitting ⟨rfl, by decide +kernel⟩
  have unfit : ¬ short.Suits .ps256 := by
    rintro (⟨-, enough⟩ | ⟨mac, -, -⟩)
    · exact absurd enough (by decide +kernel)
    · cases mac
  have tags : shared.Suits .hmac256 := .shared rfl (List.cons_ne_nil _ _) (.inr rfl)
  obtain ⟨longAgrees, samePublic, -⟩ := factories_agree (.text "PS256") long none
  obtain ⟨shortAgrees, sameShort, -⟩ := factories_agree (.text "PS256") short none
  obtain ⟨sharedAgrees, -⟩ := factories_agree (.int 5) shared none
  obtain ⟨-, -, publicRefused⟩ := factories_agree (.text "PS256") long.publicHalf none
  obtain ⟨unknown, -⟩ := factories_agree (.bool true) long none
  obtain ⟨-, -, untagged⟩ := factories_agree (.int 5) long none
  refine ⟨?_, ?_, ?_, ?_, (publicRefused trivial).1 rfl, (untagged trivial).2.1⟩
  · obtain ⟨s, v, lines, signs, checks, -, -, pair, -⟩ :=
      ((longAgrees fun _ => rfl).2.2 .ps256 rfl).2.1 fits
    obtain ⟨named, half⟩ := pair rfl
    rw [samePublic]
    exact ⟨s, v, lines, signs, named, checks, half⟩
  · rw [sameShort]
    exact ((shortAgrees fun _ => rfl).2.2 .ps256 rfl).2.2 unfit
  · obtain ⟨s, v, lines, signs, checks, -, -, -, same⟩ :=
      ((sharedAgrees nofun).2.2 .hmac256 rfl).2.1 tags
    cases same rfl
    exact ⟨s, lines, signs, checks⟩
  · exact ⟨_, (unknown fun _ => rfl).2.1 _ rfl⟩

end Credential

end Cose
