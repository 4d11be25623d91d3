import Cose.Credential.Operations
import Cose.Proofs.Errors

/-!
# What credentials make

The length of a signature is known from the key and the algorithm: two coordinates for ECDSA, twice
the width of a point for EdDSA, the size of the modulus for RSASSA-PSS. A tag is as long as a
digest. None of these lengths is zero, so a credential is an agent that works properly.

## Main results

* `Hash.length_digest`, `Hash.length_hmac`: digests and keyed hashes
* `Ecdsa.length_toRaw`, `Edwards.length_sign`, `Rsa.length_sign`: signatures of each family
* `Credential.proper`: credentials make no empty signature and fail with technical errors
-/

namespace Cose

/-! ## Lengths -/

namespace Hash

/-- **The length of a digest.** -/
theorem length_digest (h : Hash) (message : Bytes) : (h.digest message).length = h.digestSize := by
  cases h <;>
    simp [digest, digestSize, Crypto.Sha1.digest, Crypto.Sha256.digest, Crypto.Sha256.State.toBytes,
      Crypto.Sha512.digest384, Crypto.Sha512.digest512, Crypto.Sha512.State.toBytes]

theorem length_hmac (h : Hash) (key message : Bytes) :
    (h.hmac key message).length = h.digestSize :=
  h.length_digest _

theorem digestSize_pos (h : Hash) : 0 < h.digestSize := by
  cases h <;> simp [digestSize]

end Hash

namespace Crypto

@[simp] theorem length_littleBytes (width n : Nat) : (littleBytes width n).length = width := by
  simp [littleBytes]

/-- A point takes the width of its scheme. -/
@[simp] theorem Edwards.length_encode (c : Edwards) (q : ProjectivePoint) :
    (c.encode q).length = c.width := by
  simp [encode]

/-- **The length of an EdDSA signature**: a point and a number. -/
theorem Edwards.length_sign (c : Edwards) (seed message : Bytes) :
    (c.sign seed message).length = 2 * c.width := by
  simp only [sign, List.length_append, length_encode, length_littleBytes]
  omega

/-- **The length of an ECDSA signature**: two numbers of the same width. -/
theorem Ecdsa.length_toRaw {size : Nat} {signature : Nat × Nat} {raw : Bytes}
    (h : toRaw size signature = some raw) : raw.length = 2 * size := by
  obtain ⟨r, s⟩ := signature
  rw [toRaw] at h
  split at h
  · cases h
    simp only [List.length_append, Bytes.length_ofNatWidth]
    omega
  · cases h

/-- **The length of an RSASSA-PSS signature**, for which there is room only in a modulus that is not
zero. -/
theorem Rsa.length_sign {hash : Hash} {n d : Nat} {salt message signature : Bytes}
    (h : sign hash n d salt message = some signature) :
    signature.length = size n ∧ 0 < size n := by
  rw [sign] at h
  obtain ⟨block, encoded, h⟩ := Option.bind_eq_some_iff.mp h
  cases h
  refine ⟨Bytes.length_ofNatWidth _ _, ?_⟩
  rw [encodePss] at encoded
  simp only at encoded
  split at encoded
  · cases encoded
  · next room =>
    simp only [size]
    omega

end Crypto

/-! ## Signatures and tags -/

theorem Algorithm.technical_newHash (a : Algorithm) : Technical a.newHash := by
  rw [newHash]
  split
  · exact .ok _
  · exact .error rfl

theorem Algorithm.technical_knownSize (a : Algorithm) : Technical a.knownSize := by
  unfold knownSize
  split
  · exact .ok _
  · exact .error rfl

/-- A size of zero does not count as known. -/
theorem Algorithm.knownSize_pos {a : Algorithm} {size : Nat} (known : a.knownSize = .ok size) :
    0 < size := by
  unfold knownSize at known
  split at known
  · cases known
    exact Nat.succ_pos _
  · cases known

namespace Credential

variable {c : Credential} {data signature tag : Bytes}

theorem technical_signEcdsa (c : Credential) (data : Value) : Technical (c.signEcdsa data) := by
  refine (Algorithm.technical_knownSize _).bind fun size => ?_
  simp only
  split
  · exact .error rfl
  split
  · simp only [Except.pure_eq, Except.ok_bind]
    split
    · split
      · exact .error rfl
      · split
        · exact .ok _
        · exact .error rfl
    · exact .error rfl
  · exact .error rfl

theorem technical_signEddsa (c : Credential) (data : Value) : Technical (c.signEddsa data) := by
  rw [signEddsa]
  split
  · exact .error rfl
  · split
    · exact .ok _
    · exact .ok _
    · exact .error rfl

theorem technical_signPss (c : Credential) (data : Value) : Technical (c.signPss data) := by
  refine (Algorithm.technical_newHash _).bind fun hash => ?_
  simp only
  split
  · exact .error rfl
  · split
    · unfold orRefused
      split
      · exact .ok _
      · exact .error rfl
    · exact .error rfl

theorem technical_tag (c : Credential) (data : Bytes) : Technical (c.tag (.bytes data)) := by
  refine (Algorithm.technical_newHash _).bind fun hash => ?_
  split
  · exact .ok _
  · exact .error rfl

theorem technical_createTag (c : Credential) (data : Bytes) :
    Technical (c.createTag (.bytes data)) := by
  unfold createTag
  split
  · split
    · exact .error rfl
    · exact .error rfl
    · exact c.technical_tag data
  · exact .error rfl

/-- Signing with a credential fails with technical errors only. -/
theorem technical_sign (c : Credential) (data : Bytes) : Technical (c.sign (.bytes data)) := by
  unfold sign
  split
  · exact c.technical_signEcdsa _
  · exact c.technical_signEddsa _
  · exact c.technical_signPss _
  · exact c.technical_createTag _
  · exact .error rfl

/-- The two coordinates of a signature of an algorithm whose size is known. -/
theorem length_signEcdsa {data : Value} (h : c.signEcdsa data = .ok signature) :
    ∃ size, c.algorithm.knownSize = .ok size ∧ signature.length = 2 * size := by
  obtain ⟨size, known, h⟩ := Except.bind_eq_ok.mp h
  refine ⟨size, known, ?_⟩
  simp only at h
  split at h
  · cases h
  split at h
  · obtain ⟨hash, -, h⟩ := Except.bind_eq_ok.mp h
    split at h
    · split at h
      · cases h
      · split at h
        · next raw =>
          cases h
          exact Crypto.Ecdsa.length_toRaw raw
        · cases h
    · cases h
  · cases h

theorem length_signEddsa {data : Value} (h : c.signEddsa data = .ok signature) :
    signature.length = 64 ∨ signature.length = 114 := by
  rw [signEddsa] at h
  split at h
  · cases h
  · split at h
    · cases h
      exact .inl (Crypto.Edwards.length_sign _ _ _)
    · cases h
      exact .inr (Crypto.Edwards.length_sign _ _ _)
    · cases h

/-- The size of the modulus. -/
theorem length_signPss {data : Value} (h : c.signPss data = .ok signature) :
    ∃ n e d, c.key = .rsa n e d ∧ signature.length = Crypto.Rsa.size n ∧ 0 < Crypto.Rsa.size n := by
  obtain ⟨hash, -, h⟩ := Except.bind_eq_ok.mp h
  simp only at h
  split at h
  · cases h
  · split at h
    · next key made =>
      unfold orRefused at h
      split at h
      · next signed =>
        cases h
        exact ⟨_, _, _, key, Crypto.Rsa.length_sign signed⟩
      · cases h
    · cases h

/-- A tag is as long as a digest of the algorithm. -/
theorem length_tag (h : c.tag (.bytes data) = .ok tag) :
    ∃ hash, c.algorithm.hash = some hash ∧ tag.length = hash.digestSize := by
  obtain ⟨hash, named, h⟩ := Except.bind_eq_ok.mp h
  refine ⟨hash, ?_, ?_⟩
  · rw [Algorithm.newHash] at named
    split at named
    · next known =>
      cases named
      exact known
    · cases named
  · split at h
    · cases h
      exact hash.length_hmac _ _
    · cases h

theorem createTag_ne_nil (h : c.createTag (.bytes data) = .ok tag) : tag ≠ [] := by
  have made : c.tag (.bytes data) = .ok tag := by
    unfold createTag at h
    split at h
    · split at h
      · cases h
      · cases h
      · exact h
    · cases h
  obtain ⟨hash, -, length⟩ := length_tag made
  have pos := hash.digestSize_pos
  exact List.ne_nil_of_length_pos (by omega)

/-- No signature of a credential is empty. -/
theorem sign_ne_nil (h : c.sign (.bytes data) = .ok signature) : signature ≠ [] := by
  unfold sign at h
  split at h
  · obtain ⟨size, known, length⟩ := length_signEcdsa h
    have pos := Algorithm.knownSize_pos known
    exact List.ne_nil_of_length_pos (by omega)
  · rcases length_signEddsa h with length | length <;>
      exact List.ne_nil_of_length_pos (by omega)
  · obtain ⟨n, e, d, -, length, pos⟩ := length_signPss h
    exact List.ne_nil_of_length_pos (by omega)
  · exact createTag_ne_nil h
  · cases h

/-- **A credential is an agent that works properly**, in whatever role and with whatever
algorithm. -/
theorem proper (c : Credential) : c.agent.Proper where
  algorithm := .ok _
  sign := c.technical_sign
  createTag := c.technical_createTag
  signature_ne _ _ := sign_ne_nil
  tag_ne _ _ := createTag_ne_nil

end Credential

end Cose
