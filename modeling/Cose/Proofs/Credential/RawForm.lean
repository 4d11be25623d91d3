import Cose.Proofs.Cbor.Canonical
import Cose.Proofs.Credential.Signing
import Cose.Proofs.Credential.Verifying

/-!
# The raw form of ECDSA signatures

An ECDSA signature is a pair of numbers below the order of a curve, and travels as the digits of
both at a fixed width. The width of each registered algorithm has room for the order of its curve,
also where the order does not fill the first byte. So every pair has a raw form, which is the only
string that stands for it, and signing and checking with a credential is signing and checking with
the primitive, whatever the number of leading zeros. A string of another length stands for no pair,
and is refused whatever the key and the data.

## Main definitions

* `Ecdsa.IsRaw`: a string is the raw form of a pair
* `Credential.SignsRaw`, `Credential.VerifiesRaw`: a credential makes and checks raw forms of the
  pairs that a primitive makes and checks

## Main results

* `Ecdsa.exists_isRaw`, `Ecdsa.IsRaw.unique`: a pair has a raw form, and only one
* `Ecdsa.lt_order_of_sign`: what the primitive makes is below the order
* `Credential.ecdsa_rawForm`: the credentials of all registered ECDSA algorithms
-/

namespace Cose

/-! ## The order of a curve -/

theorem Algorithm.order_pos {a : Algorithm} {curve : Curve}
    (registered : a ∈ Registry.standard.algorithms) (curve_eq : a.curve = some curve) :
    0 < curve.weierstrass.order := by
  have all : ∀ a ∈ Registry.standard.algorithms, ∀ curve ∈ a.curve, 0 < curve.weierstrass.order := by
    decide
  exact all a registered curve curve_eq

/-- The width of an algorithm is enough for the order of its curve. -/
theorem Algorithm.order_le {a : Algorithm} {curve : Curve} {width : Nat}
    (registered : a ∈ Registry.standard.algorithms) (curve_eq : a.curve = some curve)
    (size_eq : a.keySize = some width) : curve.weierstrass.order ≤ 256 ^ width := by
  have all : ∀ a ∈ Registry.standard.algorithms, ∀ curve ∈ a.curve, ∀ width ∈ a.keySize,
      curve.weierstrass.order ≤ 256 ^ width := by decide
  exact all a registered curve curve_eq width size_eq

namespace Crypto.Ecdsa

/-! ## One string for a pair -/

/-- **A string is the raw form of a pair**: two numbers of a width, big-endian, one after the
other. -/
structure IsRaw (width : Nat) (raw : Bytes) (pair : Nat × Nat) : Prop where
  length_eq : raw.length = 2 * width
  toNat_take : Bytes.toNat (raw.take width) = pair.1
  toNat_drop : Bytes.toNat (raw.drop width) = pair.2

variable {width : Nat} {raw : Bytes} {pair : Nat × Nat}

/-- A string of the length for two numbers is a raw form. -/
theorem isRaw_ofRaw (length : raw.length = 2 * width) : IsRaw width raw (ofRaw width raw) :=
  ⟨length, rfl, rfl⟩

theorem IsRaw.ofRaw_eq (h : IsRaw width raw pair) : ofRaw width raw = pair :=
  Prod.ext h.toNat_take h.toNat_drop

/-- **A pair of numbers that fit has a raw form**, however short the numbers are. -/
theorem exists_isRaw {r s : Nat} (hr : r < 256 ^ width) (hs : s < 256 ^ width) :
    ∃ raw, toRaw width (r, s) = some raw ∧ IsRaw width raw (r, s) := by
  have left : (Bytes.ofNatWidth width r).length = width := Bytes.length_ofNatWidth _ _
  refine ⟨Bytes.ofNatWidth width r ++ Bytes.ofNatWidth width s, if_pos ⟨hr, hs⟩, ?_, ?_, ?_⟩
  · rw [List.length_append, left, Bytes.length_ofNatWidth]
    omega
  · rw [List.take_left' left]
    exact Bytes.toNat_ofNatWidth_of_lt hr
  · rw [List.drop_left' left]
    exact Bytes.toNat_ofNatWidth_of_lt hs

/-- **No two strings stand for the same pair.** -/
theorem IsRaw.unique {other : Bytes} (h : IsRaw width raw pair) (h' : IsRaw width other pair) :
    raw = other := by
  have length := h.length_eq
  have length' := h'.length_eq
  have left : raw.take width = other.take width := by
    apply Bytes.toNat_inj
    · simp only [List.length_take]
      omega
    · exact h.toNat_take.trans h'.toNat_take.symm
  have right : raw.drop width = other.drop width := by
    apply Bytes.toNat_inj
    · simp only [List.length_drop]
      omega
    · exact h.toNat_drop.trans h'.toNat_drop.symm
  rw [← List.take_append_drop width raw, left, right, List.take_append_drop]

/-- **What the primitive makes is below the order.** -/
theorem lt_order_of_sign {curve : Curve} {hash : Hash} {d r s : Nat} {message additional : Bytes}
    (pos : 0 < curve.weierstrass.order) (h : sign curve hash d message additional = some (r, s)) :
    r < curve.weierstrass.order ∧ s < curve.weierstrass.order := by
  rw [sign] at h
  obtain ⟨k, -, h⟩ := Option.bind_eq_some_iff.mp h
  obtain ⟨⟨x, _⟩, -, h⟩ := Option.bind_eq_some_iff.mp h
  simp only at h
  split at h
  · cases h
  · cases h
    exact ⟨Nat.mod_lt _ pos, Nat.mod_lt _ pos⟩

end Crypto.Ecdsa

namespace Credential

open Crypto

/-! ## Signers and verifiers -/

/-- Signing gives the raw form of what a primitive makes. Where the primitive makes nothing,
signing is refused. -/
structure SignsRaw (c : Credential) (width : Nat) (primitive : Bytes → Option (Nat × Nat)) :
    Prop where
  of_some {data : Bytes} {pair : Nat × Nat} : primitive data = some pair →
    ∃ raw, c.sign (.bytes data) = .ok raw ∧ Ecdsa.IsRaw width raw pair
  of_none {data : Bytes} : primitive data = none → c.sign (.bytes data) = .error c.refused

/-- Checking takes a raw form for the pair it stands for. A signature of another length stands
for none: it is refused with its length, which is zero for one that is absent. Neither the key nor the
data has a part in it, and no primitive is asked: it is the same with all of them. -/
structure VerifiesRaw (c : Credential) (width : Nat) (primitive : Bytes → Nat × Nat → Bool) :
    Prop where
  of_isRaw {data raw : Bytes} {pair : Nat × Nat} : Ecdsa.IsRaw width raw pair →
    c.verify (.bytes data) (.bytes raw) = c.orMismatched (primitive data pair)
  of_length [Primitives] {raw : Bytes} (key : Key) (data : Value) : raw.length ≠ 2 * width →
    { c with key := key }.verify data (.bytes raw) =
      .error (.verification (.length c.algorithm.name raw.length (2 * width)))
  of_null [Primitives] (key : Key) (data : Value) : { c with key := key }.verify data .null =
      .error (.verification (.length c.algorithm.name 0 (2 * width)))

variable {c : Credential} {width : Nat} {data : Bytes}

/-- A signature is accepted exactly if it has the length and the primitive accepts the pair it
stands for. -/
theorem VerifiesRaw.eq_ok_iff {primitive : Bytes → Nat × Nat → Bool}
    (verifies : c.VerifiesRaw width primitive) (signature : Option Bytes) :
    c.verify (.bytes data) (.ofBytes? signature) = .ok () ↔
      ∃ raw, signature = some raw ∧ raw.length = 2 * width ∧
        primitive data (Ecdsa.ofRaw width raw) = true := by
  cases signature with
  | none =>
    have refused := verifies.of_null c.key (.bytes data)
    simp [Value.ofBytes?, refused]
  | some raw =>
    simp only [Value.ofBytes?, Option.some.injEq, exists_eq_left']
    by_cases length : raw.length = 2 * width
    · rw [verifies.of_isRaw (Ecdsa.isRaw_ofRaw length)]
      exact (Decides.orMismatched _ _).eq_ok_iff.trans (and_iff_right length).symm
    · have refused := verifies.of_length c.key (.bytes data) length
      simp [refused, length]

section Registered

variable {a : Algorithm} {curve : Curve} {hash : Hash}
  (hash_eq : a.hash = some hash) (known : a.knownSize = .ok width)

include hash_eq known

theorem sign_ecdsa {x y d : Nat} {entropy : Option Bytes} (data : Bytes) :
    sign ⟨.ecdsaSigner, a, .ec curve x y (some d), entropy⟩ (.bytes data) =
      match Ecdsa.sign curve hash d data (entropy.getD []) with
      | none => .error (.signing (.primitive a.name))
      | some pair =>
        match Ecdsa.toRaw width pair with
        | some raw => .ok raw
        | none => .error (.fault .overflow) := by
  simp only [sign, signEcdsa, known, hash_eq, Except.ok_bind]
  rfl

theorem signsRaw {x y d : Nat} {entropy : Option Bytes} (pos : 0 < curve.weierstrass.order)
    (enough : curve.weierstrass.order ≤ 256 ^ width) :
    SignsRaw ⟨.ecdsaSigner, a, .ec curve x y (some d), entropy⟩ width fun data =>
      Ecdsa.sign curve hash d data (entropy.getD []) where
  of_some {data pair} made := by
    obtain ⟨r, s⟩ := pair
    have ⟨hr, hs⟩ := Ecdsa.lt_order_of_sign pos made
    obtain ⟨raw, raw_eq, isRaw⟩ := Ecdsa.exists_isRaw (hr.trans_le enough) (hs.trans_le enough)
    refine ⟨raw, ?_, isRaw⟩
    simp only [sign_ecdsa hash_eq known, made, raw_eq]
  of_none {data} made := by
    simp only [sign_ecdsa hash_eq known, made]
    rfl

theorem verifiesRaw {x y : Nat} :
    VerifiesRaw ⟨.ecdsaVerifier, a, .ec curve x y none, none⟩ width fun data pair =>
      Ecdsa.verify curve hash x y data pair.1 pair.2 where
  of_isRaw {data raw pair} isRaw := by
    have hashes : a.newHash = .ok hash := by rw [Algorithm.newHash, hash_eq]
    simp only [verify, verifyEcdsa, known, hashes, Except.ok_bind, splitSignature_bytes,
      if_pos isRaw.length_eq, isRaw.ofRaw_eq]
    rfl
  of_length {_ raw} key data length := by
    simp only [verify, verifyEcdsa, known, Except.ok_bind, splitSignature_bytes, if_neg length]
    rfl
  of_null {_} key data := by
    have other : 0 ≠ 2 * width := by
      have pos := Algorithm.knownSize_pos known
      omega
    simp only [verify, verifyEcdsa, known, Except.ok_bind, splitSignature, Except.pure_eq,
      if_neg other]
    rfl

end Registered

/-! ## The factories -/

section Factories

variable {alg : Value} {a : Algorithm} {curve : Curve} (found : Algorithm.lookup alg = .ok a)
  (family : a.family = .ecdsa) (curve_eq : a.curve = some curve)

include family curve_eq

/-- A key has no fault for an algorithm with a curve exactly if it is on the curve. -/
theorem keyFault?_ecdsa (key : Key) (half : Bool) :
    keyFault? a key half = none ↔
      ∃ x y secret, key = .ec curve x y secret ∧ secret.isSome = half := by
  cases key with
  | ec given _ _ secret =>
    by_cases side : secret.isSome = half <;> by_cases same : given = curve <;>
      simp [keyFault?, Key.isPrivate, family, curve_eq, side, same]
  | octet | rsa | data => simp [keyFault?, Key.isPrivate, family]

include found

/-- There is a signer for the private keys on the curve. -/
theorem signer_ecdsa {key : Key} {entropy : Option Bytes} {lines : List LogLine} :
    signer alg key entropy = .ok (c, lines) ↔ ∃ x y d, key = .ec curve x y (some d) ∧
      c = ⟨.ecdsaSigner, a, .ec curve x y (some d), entropy⟩ ∧ lines = [] := by
  have suits := keyFault?_ecdsa family curve_eq key true
  rw [signer, found]
  simp only [Except.ok_bind, family, Family.isMac, Bool.false_eq_true, if_false]
  constructor
  · intro made
    split at made
    · cases made
    · next fault =>
      obtain ⟨x, y, secret, rfl, isPrivate⟩ := suits.mp fault
      obtain ⟨d, rfl⟩ := Option.isSome_iff_exists.mp isPrivate
      cases made
      exact ⟨x, y, d, rfl, rfl, rfl⟩
  · rintro ⟨x, y, d, rfl, rfl, rfl⟩
    rw [suits.mpr ⟨x, y, some d, rfl, rfl⟩]
    rfl

/-- There is a verifier for the keys on the curve: it works with the public half. -/
theorem verifier_ecdsa {key : Key} {lines : List LogLine} :
    verifier alg key = .ok (c, lines) ↔ ∃ x y secret, key = .ec curve x y secret ∧
      c = ⟨.ecdsaVerifier, a, .ec curve x y none, none⟩ ∧ lines = [] := by
  have suits := keyFault?_ecdsa family curve_eq key.publicHalf false
  rw [verifier, found]
  simp only [Except.ok_bind, family, Family.isMac, Bool.false_eq_true, if_false]
  constructor
  · intro made
    split at made
    · cases made
    · next fault =>
      obtain ⟨x, y, secret, half_eq, -⟩ := suits.mp fault
      cases key with
      | ec =>
        cases half_eq
        cases made
        exact ⟨x, y, _, rfl, rfl, rfl⟩
      | octet | rsa | data => cases half_eq
  · rintro ⟨x, y, secret, rfl, rfl, rfl⟩
    rw [suits.mpr ⟨x, y, none, rfl, rfl⟩]
    rfl

end Factories

/-- **The ECDSA credentials lose nothing.** With every registered algorithm there are a curve, a
hash function and a width at which every pair below the order of the curve has one raw form; a
signer makes the raw form of the pair that the primitive makes, and a verifier accepts the raw forms
of the pairs that the primitive accepts, and nothing else. -/
theorem ecdsa_rawForm {alg : Value} {a : Algorithm} (found : Algorithm.lookup alg = .ok a)
    (family : a.family = .ecdsa) :
    ∃ curve hash width, a.curve = some curve ∧ a.hash = some hash ∧ a.keySize = some width ∧
      (∀ r s, r < curve.weierstrass.order → s < curve.weierstrass.order →
        ∃ raw, Ecdsa.toRaw width (r, s) = some raw ∧ Ecdsa.IsRaw width raw (r, s)) ∧
      (∀ raw other pair, Ecdsa.IsRaw width raw pair → Ecdsa.IsRaw width other pair →
        raw = other) ∧
      (∀ key entropy c lines, signer alg key entropy = .ok (c, lines) →
        ∃ x y d, key = .ec curve x y (some d) ∧
          c.SignsRaw width fun data => Ecdsa.sign curve hash d data (entropy.getD [])) ∧
      (∀ x y d entropy, ∃ c, signer alg (.ec curve x y (some d)) entropy = .ok (c, [])) ∧
      (∀ key c lines, verifier alg key = .ok (c, lines) →
        ∃ x y secret, key = .ec curve x y secret ∧
          (c.VerifiesRaw width fun data pair =>
            Ecdsa.verify curve hash x y data pair.1 pair.2) ∧
          ∀ data signature, c.verify (.bytes data) (.ofBytes? signature) = .ok () ↔
            ∃ raw, signature = some raw ∧ raw.length = 2 * width ∧
              Ecdsa.verify curve hash x y data (Bytes.toNat (raw.take width))
                (Bytes.toNat (raw.drop width)) = true) ∧
      (∀ x y secret, ∃ c, verifier alg (.ec curve x y secret) = .ok (c, [])) := by
  have registered := Registry.mem_of_lookup found
  obtain ⟨hash, curve, width, -, hash_eq, curve_eq, known, size_eq⟩ :=
    Algorithm.exists_of_ecdsa registered family
  have pos := Algorithm.order_pos registered curve_eq
  have enough := Algorithm.order_le registered curve_eq size_eq
  refine ⟨curve, hash, width, curve_eq, hash_eq, size_eq, ?_, ?_, ?_, ?_, ?_, ?_⟩
  · intro r s hr hs
    exact Ecdsa.exists_isRaw (hr.trans_le enough) (hs.trans_le enough)
  · intro raw other pair h h'
    exact h.unique h'
  · intro key entropy c lines made
    obtain ⟨x, y, d, rfl, rfl, -⟩ := (signer_ecdsa found family curve_eq).mp made
    exact ⟨x, y, d, rfl, signsRaw hash_eq known pos enough⟩
  · intro x y d entropy
    exact ⟨_, (signer_ecdsa found family curve_eq).mpr ⟨x, y, d, rfl, rfl, rfl⟩⟩
  · intro key c lines made
    obtain ⟨x, y, secret, rfl, rfl, -⟩ := (verifier_ecdsa found family curve_eq).mp made
    have verifies := @verifiesRaw width a curve hash hash_eq known x y
    exact ⟨x, y, secret, rfl, verifies, fun data signature => verifies.eq_ok_iff signature⟩
  · intro x y secret
    exact ⟨_, (verifier_ecdsa found family curve_eq).mpr ⟨x, y, secret, rfl, rfl, rfl⟩⟩

/-- With ES512 a single byte is refused, and the pair of one and two has a form, all zeros but two
bytes. -/
theorem ecdsa_rawForm_es512 :
    ∃ c, verifier (.text "ES512") (.ec .p521 1 2 none) = .ok (c, []) ∧
      c.verify (.bytes [1]) (.bytes [0]) = .error (.verification (.length "ES512" 1 132)) ∧
      ∃ raw, Ecdsa.IsRaw 66 raw (1, 2) := by
  obtain ⟨curve, hash, width, curve_eq, -, size_eq, pairs, -, -, -, verifies, exist⟩ :=
    @ecdsa_rawForm (.text "ES512") .es512 rfl rfl
  cases curve_eq
  cases size_eq
  obtain ⟨c, made⟩ := exist 1 2 none
  obtain ⟨_, _, _, _, checks, _⟩ := verifies _ _ _ made
  obtain ⟨raw, _, isRaw⟩ := pairs 1 2 (by decide) (by decide)
  obtain ⟨_, _, _, _, c_eq, _⟩ := (@verifier_ecdsa c _ .es512 .p521 rfl rfl rfl _ _).mp made
  subst c_eq
  exact ⟨_, made, checks.of_length _ _ (by decide), raw, isRaw⟩

end Credential

end Cose
