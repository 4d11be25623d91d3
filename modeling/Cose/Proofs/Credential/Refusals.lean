import Cose.Proofs.Credential.Factories
import Cose.Proofs.Message.Authentication

/-!
# How keys refuse

A key that checks a signature refuses it in one way at most: because of its length, or because it does
not match. For keys that the factories make, the algorithm and the length of the signature tell which of
the two it is. So the reason says nothing about the key, the signature or what is covered; what remains
to be seen of these is whether the signature is refused at all.

## Main definitions

* `Refuses`: checks that refuse in one way at most
* `Algorithm.refusal`: how a key for an algorithm refuses a signature of a given length
* `Credential.Made`: keys that the factories make

## Main results

* `Credential.Made.refuses`: how such a key refuses
-/

namespace Cose

/-- **A check refuses in one way at most.** -/
abbrev Refuses {α : Type} (r : Refusal) (x : Except Error α) : Prop :=
  Fails (fun e => e.refusal?.all (· == r)) x

theorem Technical.refuses {α : Type} {x : Except Error α} (h : Technical x) (r : Refusal) :
    Refuses r x :=
  h.mono fun e technical => by rw [Error.refusal?_of_isTechnical technical]; rfl

/-- How a key for an algorithm refuses a signature of a given length, if it has one. -/
def Algorithm.refusal (a : Algorithm) (length? : Option Nat) : Refusal :=
  match a.family, a.keySize with
  | .ecdsa, some size =>
    if length? = some (2 * size) then .mismatch a.name
    else .length a.name (length?.getD 0) (2 * size)
  | _, _ => .mismatch a.name

theorem Algorithm.keySize_of_knownSize {a : Algorithm} {size : Nat} (known : a.knownSize = .ok size) :
    a.keySize = some size := by
  unfold knownSize at known
  split at known
  · next keySize =>
    cases known
    exact keySize
  · cases known

namespace Credential

variable {c : Credential} {a : Algorithm} {data signature : Value}

/-- A key that a factory has made. -/
inductive Made (c : Credential) : Prop
  | signing {alg : Value} {key : Key} {entropy : Option Bytes} {lines : List LogLine}
      (made : signer alg key entropy = .ok (c, lines))
  | verifying {alg : Value} {key : Key} {lines : List LogLine}
      (made : verifier alg key = .ok (c, lines))
  | tagging {alg : Value} {key : Key} {lines : List LogLine}
      (made : authenticator alg key = .ok (c, lines))

theorem refuses_orMismatched (c : Credential) (valid : Bool) :
    Refuses (.mismatch c.algorithm.name) (c.orMismatched valid) := by
  rw [orMismatched]
  split
  · exact .ok _
  · exact .error (beq_self_eq_true _)

theorem technical_requireBytes (v : Value) : Technical (requireBytes v) := by
  rw [requireBytes]
  split
  · exact .ok _
  · exact .error rfl

/-- A signature that has a length is taken apart if it is the right one. -/
theorem splitSignature_eq {size n : Nat} (c : Credential) (length : signature.length? = some n) :
    c.splitSignature size signature =
      if n = 2 * size then
        match signature with
        | .bytes _ | .buffer _ | .list _ | .tuple _ => signature.octets.map (Crypto.Ecdsa.ofRaw size)
        | _ => .error (.fault .type)
      else .error (.verification (.length c.algorithm.name n (2 * size))) := by
  cases signature <;> cases length <;>
    simp only [splitSignature, Value.length?, Except.pure_eq, Except.ok_bind] <;> split <;> rfl

theorem splitSignature_of_length_eq_none (c : Credential) (size : Nat) (present : signature ≠ .null)
    (length : signature.length? = none) : c.splitSignature size signature = .error (.fault .type) := by
  cases signature <;> first | exact absurd rfl present | rfl | cases length

/-- With ECDSA the length is looked at first. -/
theorem refuses_verifyEcdsa (family : c.algorithm.family = .ecdsa) (present : signature ≠ .null)
    (data : Value) :
    Refuses (c.algorithm.refusal signature.length?) (c.verifyEcdsa data signature) := by
  rw [verifyEcdsa]
  rcases known : c.algorithm.knownSize with e | size
  · exact .error (c.algorithm.technical_knownSize.refuses _ e known)
  have keySize := Algorithm.keySize_of_knownSize known
  rw [Except.ok_bind, Algorithm.refusal, family, keySize]
  rcases length : signature.length? with - | n
  · rw [splitSignature_of_length_eq_none c size present length]
    exact .error rfl
  rw [splitSignature_eq c length]
  by_cases whole : n = 2 * size
  · simp only [if_pos whole, Option.some.injEq]
    refine Fails.bind ?_ fun parts => ?_
    · refine Technical.refuses ?_ _
      split
      · exact (Value.technical_octets _).map _
      · exact (Value.technical_octets _).map _
      · exact (Value.technical_octets _).map _
      · exact (Value.technical_octets _).map _
      · exact .error rfl
    obtain ⟨r, t⟩ := parts
    simp only
    split
    · exact .error rfl
    refine ((Algorithm.technical_newHash _).refuses _).bind fun hash => ?_
    split
    · exact ((technical_requireBytes _).refuses _).bind fun _ => refuses_orMismatched _ _
    · exact .error rfl
  · simp only [if_neg whole, Option.some.injEq]
    exact .error (beq_self_eq_true _)

theorem refuses_verifyEddsa (c : Credential) (data signature : Value) :
    Refuses (.mismatch c.algorithm.name) (c.verifyEddsa data signature) := by
  rw [verifyEddsa]
  split
  · exact .error rfl
  have check (curve : Crypto.Edwards) (point : Bytes) : Refuses (.mismatch c.algorithm.name) (do
      let signature ← requireBytes (signature.orElse (.bytes []))
      c.orMismatched (curve.verify point (← requireBytes data) signature)) :=
    ((technical_requireBytes _).refuses _).bind fun _ =>
      ((technical_requireBytes _).refuses _).bind fun _ => refuses_orMismatched _ _
  simp only
  split
  · exact check _ _
  · exact check _ _
  · exact .error rfl

theorem refuses_verifyPss (c : Credential) (data signature : Value) :
    Refuses (.mismatch c.algorithm.name) (c.verifyPss data signature) := by
  refine ((Algorithm.technical_newHash _).refuses _).bind fun hash => ?_
  simp only
  split
  · exact .error rfl
  split
  · refine ((technical_requireBytes _).refuses _).bind fun _ =>
      ((technical_requireBytes _).refuses _).bind fun _ => ?_
    split
    · exact .error rfl
    · exact refuses_orMismatched _ _
  · exact .error rfl

theorem isMac_of_tagger {key : Key} {lines : List LogLine} (mac : a.family.isMac = true)
    (made : tagger a key = .ok (c, lines)) : c.algorithm.family.isMac = true := by
  obtain ⟨k, rfl, -⟩ := tagger_eq_ok made
  exact mac

/-- A key that was made for an algorithm that signs has the role of a signer or that of a verifier. -/
theorem Made.role_eq (made : c.Made) (signs : c.algorithm.family.isMac = false) :
    c.role = signerRole c.algorithm.family ∨ c.role = verifierRole c.algorithm.family := by
  cases made with
  | @signing alg key entropy lines made =>
    rcases found : Algorithm.lookup alg with e | a
    · rw [signer, found] at made
      cases made
    cases mac : a.family.isMac with
    | true =>
      rw [signer_of_isMac found mac] at made
      split at made
      · cases made
      · cases (isMac_of_tagger mac made).symm.trans signs
    | false =>
      rw [signer_of_asymmetric found mac] at made
      split at made <;> cases made
      exact .inl rfl
  | @verifying alg key lines made =>
    rcases found : Algorithm.lookup alg with e | a
    · rw [verifier, found] at made
      cases made
    cases mac : a.family.isMac with
    | true =>
      rw [verifier_of_isMac found mac] at made
      cases (isMac_of_tagger mac made).symm.trans signs
    | false =>
      rw [verifier_of_asymmetric found mac] at made
      split at made <;> cases made
      exact .inr rfl
  | tagging made =>
    obtain ⟨_, _, -, authenticates, -⟩ := exists_authenticates made
    cases authenticates.mac.symm.trans signs

/-- **A key that a factory has made refuses a signature in one way**, which its algorithm and the length
of the signature tell. -/
theorem Made.refuses (made : c.Made) (signs : c.algorithm.family.isSignature = true)
    (present : signature ≠ .null) (data : Value) :
    Refuses (c.algorithm.refusal signature.length?) (c.verify data signature) := by
  have asymmetric : c.algorithm.family.isMac = false := by simpa [Family.isSignature] using signs
  rcases made.role_eq asymmetric with role | role <;> rw [verify, role]
  · cases family : c.algorithm.family with
    | ecdsa | eddsa | rsaPss => exact .error rfl
    | hmac => simp [family, Family.isMac] at asymmetric
  · cases family : c.algorithm.family with
    | ecdsa => exact refuses_verifyEcdsa family present data
    | eddsa =>
      rw [Algorithm.refusal, family]
      exact refuses_verifyEddsa c data signature
    | rsaPss =>
      rw [Algorithm.refusal, family]
      exact refuses_verifyPss c data signature
    | hmac => simp [family, Family.isMac] at asymmetric

end Credential

end Cose
