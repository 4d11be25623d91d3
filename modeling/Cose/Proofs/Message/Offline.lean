import Cose.Proofs.Header.Certified
import Cose.Proofs.Message.Validation
import Cose.Proofs.Text.Base64

/-!
# Signing offline

A message for a certificate is signed offline in three places that share nothing but what the caller
gives them: one hands out what is to be signed, one puts the message around the signature that comes
back, and whoever receives the message checks the signature over what is recomputed from its bytes.
All three come to the same bytes, and the two that make the message come to the same verdict about
the headers, which the one checks before it hands anything out, and the other when it fixes them.

## Main definitions

* `Algorithm.handedOut`: what is handed out of the bytes to be signed
* `Crypto.Primitives.Prehashed`: primitives that check a hashed message by its digest
* `Sign1.Unfinished`: a message for a certificate before it is signed
* `Sign1.Base64Of`: signatures in base64
* `Sign1.Recomputes`: what a signature is checked over

## Main results

* `Key.accepts_congr`: a key accepts a signature over what was handed out
* `Sign1.Unfinished.recomputes`: what is recomputed from the bytes of a finished message
* `Sign1.validate_of_named`: how a message that names an algorithm is validated
* `Sign1.finishOffline_of_request`: the three places agree
-/

namespace Cose

open Cbor (maxDepth)

variable {key : Key} {a : Algorithm} {keys : List Value → Prop}

/-! ## What is handed out -/

/-- **What is handed out of the bytes to be signed**: their digest, or the bytes themselves if the
algorithm has no hash function. -/
def Algorithm.handedOut (a : Algorithm) (covered : Bytes) : Bytes :=
  match a.hash with
  | none => covered
  | some hash => hash.digest covered

theorem Algorithm.handedOut_of_hash {hash : Hash} (hash_eq : a.hash = some hash)
    (covered : Bytes) : a.handedOut covered = hash.digest covered := by
  rw [handedOut, hash_eq]

/-- Primitives that look at no more of a message than its digest when they check a signature of a
scheme that hashes it. -/
structure Crypto.Primitives.Prehashed [Crypto.Primitives] : Prop where
  verifyEcdsa {curve : Curve} {hash : Hash} {x y r s : Nat} {covered covered' : Bytes}
    (same : hash.digest covered' = hash.digest covered) :
    Crypto.Primitives.verifyEcdsa curve hash x y covered' r s =
      Crypto.Primitives.verifyEcdsa curve hash x y covered r s
  verifyPss {hash : Hash} {n e : Nat} {covered covered' signature : Bytes}
    (same : hash.digest covered' = hash.digest covered) :
    Crypto.Primitives.verifyPss hash n e covered' signature =
      Crypto.Primitives.verifyPss hash n e covered signature

theorem Crypto.Primitives.Prehashed.standard : Crypto.Primitives.Prehashed where
  verifyEcdsa same := by
    show Crypto.Ecdsa.verify .. = Crypto.Ecdsa.verify ..
    rw [Crypto.Ecdsa.verify, Crypto.Ecdsa.verify, same]
  verifyPss same := by
    show Crypto.Rsa.verify .. = Crypto.Rsa.verify ..
    rw [Crypto.Rsa.verify, Crypto.Rsa.verify, same]

/-- A key that fits looks at no more than what is handed out. -/
theorem Key.accepts_congr [Crypto.Primitives] (prehashed : Crypto.Primitives.Prehashed)
    {covered covered' signature : Bytes}
    (registered : a ∈ Registry.standard.algorithms) (fits : key.Fits a)
    (same : a.handedOut covered' = a.handedOut covered) :
    key.Accepts a covered' signature ↔ key.Accepts a covered signature := by
  cases key with
  | ec curve x y secret =>
    obtain ⟨hash, _, _, -, hash_eq, -⟩ := Algorithm.exists_of_ecdsa registered fits.1
    rw [Algorithm.handedOut_of_hash hash_eq, Algorithm.handedOut_of_hash hash_eq] at same
    simp only [Accepts, hash_eq, Option.some.injEq, exists_and_left, exists_eq_left',
      prehashed.verifyEcdsa same]
  | octet scheme =>
    have pure : ∀ a ∈ Registry.standard.algorithms, a.family = .eddsa → a.hash = none := by decide
    rw [Algorithm.handedOut, Algorithm.handedOut, pure a registered fits.1] at same
    rw [show covered' = covered from same]
  | rsa n e secret =>
    obtain ⟨hash, -, hash_eq⟩ := Algorithm.exists_of_rsaPss registered fits.1
    rw [Algorithm.handedOut_of_hash hash_eq, Algorithm.handedOut_of_hash hash_eq] at same
    simp only [Accepts, hash_eq, Option.some.injEq, exists_eq_left', prehashed.verifyPss same]
  | data => cases fits

/-- Looking an algorithm up does not fail with an error about headers. -/
theorem Registry.lookup_ne_header (r : Registry) (id : Value) (fault : HeaderFault) :
    r.lookup id ≠ .error (.header fault) := by
  fun_cases Registry.lookup r id
  case case5 n _ => cases h : Text.isWritable n <;> simp [Error.writing]
  all_goals simp

theorem Bucket.algorithm_ne_header (b : Bucket) (fault : HeaderFault) :
    b.algorithm ≠ .error (.header fault) := by
  rw [algorithm]
  split
  · simp
  next v _ =>
    have found := Registry.lookup_ne_header Registry.standard v fault
    rw [Algorithm.lookup]
    cases looked : Registry.standard.lookup v <;> simp_all [Except.map]

namespace Sign1

variable {m : Sign1} {payload : Value} {certificate : String} {es : List (Value × Value)}

/-! ## Signatures in base64 -/

/-- A signature in base64, in one of the two alphabets, as a text or as bytes. -/
inductive Base64Of (signature : Bytes) : Value → Prop
  | text {s : String} (spells : Text.Spells64 s.toList signature) : Base64Of signature (.text s)
  | bytes {b : Bytes}
      (spells : Text.Spells64 (b.map fun x => Char.ofNat x.toNat) signature) :
      Base64Of signature (.bytes b)

theorem base64Of_encode64 (signature : Bytes) :
    Base64Of signature (.text (Text.encode64 signature)) :=
  .text (Text.spells64_encode64 signature)

theorem Base64Of.decodeSignature_eq {signature : Bytes} {t : Value} (h : Base64Of signature t) :
    decodeSignature t = .ok signature := by
  cases h with
  | text spells =>
    rw [decodeSignature, if_pos spells.isAscii, spells.lenient64?_eq]
    rfl
  | bytes spells =>
    rw [decodeSignature, spells.lenient64?_eq]
    rfl

/-! ## The message before it is signed -/

/-- A message for a certificate before it is signed: it is well formed, its protected bucket has
plain values and is not fixed, and it has no unprotected headers. -/
structure Unfinished (keys : List Value → Prop) (m : Sign1) : Prop where
  wellFormed : m.WellFormed
  plain : m.prot.Plain keys (maxDepth - 1)
  unfixed : m.prot.fixed = none
  unprot : m.unprot = { isProtected := false }

theorem unfinished_of_forCertificate [Key.Loader] (plain : ∀ e ∈ es, e.2.Plain keys (maxDepth - 1))
    (h : forCertificate payload certificate (.map es) = .ok m) : m.Unfinished keys := by
  obtain ⟨header, certified, made⟩ := Except.bind_eq_ok.mp h
  obtain ⟨entries, rfl, parameters⟩ := plainParameter_of_certifiedHeader plain certified
  have source (v : Value) : (Source.value v).WellFormed := trivial
  have wellFormed := wellFormed_of_ofSources (source _) (source .null) (.bytes []) made
  obtain ⟨layer, sources, made⟩ := Except.bind_eq_ok.mp made
  obtain ⟨payload', -, ⟨⟩⟩ := Except.bind_eq_ok.mp made
  rw [Layer.ofSources_eq] at sources
  obtain ⟨prot, taken, sources⟩ := Except.bind_eq_ok.mp sources
  obtain ⟨unprot, ⟨⟩, ⟨⟩⟩ := Except.bind_eq_ok.mp sources
  obtain ⟨plain, unfixed⟩ := Bucket.plain_ofSource parameters taken
  exact ⟨wellFormed, plain, unfixed, rfl⟩

namespace Unfinished

variable (h : m.Unfinished keys)

include h

/-- The rules for the protected bucket are the rules for the message. -/
theorem check_of_valid (valid : m.prot.validate = .ok ()) : m.check = .ok () := by
  refine Layer.check_eq_ok.mpr ⟨valid, checkBuckets_eq_ok.mpr ?_⟩
  rw [h.unprot]
  refine ⟨rfl, fun _ _ => rfl, fun both => (Bucket.validate_eq_ok.mp valid).2 ?_⟩
  simpa [Bucket.has, Bucket.find?] using both

variable (named : m.prot.algorithm = .ok (some a))

include named

omit h in
theorem has_alg : m.prot.has .alg = true := by
  by_contra absent
  rw [Bool.not_eq_true] at absent
  cases named.symm.trans (Bucket.algorithm_of_not_has absent)

/-- The bytes of the protected bucket are its encoding, if it passes the rules. -/
theorem encode_eq : m.prot.encode = (do
    m.prot.validate
    match Cbor.encode .canonical (.map m.prot.toEntries) with
    | some bytes => return bytes
    | none => throw (.fault .unencodable)) := by
  have nonempty : m.prot.entries.isEmpty = false := by
    have mem := Bucket.has_iff.mp (has_alg named)
    rw [List.isEmpty_eq_false_iff]
    intro empty
    rw [Bucket.labels, empty] at mem
    cases mem
  rw [Bucket.encode, h.wellFormed.layer.isProtected, h.unfixed, nonempty]
  rfl

/-- Headers that break a rule are refused by those who hand out the bytes to be signed, and by
those who attach the signature. -/
theorem refused {e : Error} (invalid : m.prot.validate = .error e) {signature : Bytes}
    (nonempty : signature ≠ []) :
    m.toBeSigned.result = .error e ∧ (m.attach (.bytes signature)).result = .error e := by
  constructor
  · show (do m.check; _) = _
    rw [Layer.check, invalid]
    rfl
  · have failed : m.prot.finalize = .error e := by
      rw [Bucket.finalize, h.encode_eq named, invalid]
      rfl
    rw [attach, Value.isTruthy_bytes nonempty]
    simp only [Option.getD_none, failed]
    rfl

/-- Headers that pass the rules are signed as they are. -/
theorem exists_prepared (simple : ∀ ks, Value.SimpleKeys ks → keys ks)
    (valid : m.prot.validate = .ok ()) : ∃ p : m.toLayer.Prepared a, p.bucket = m.prot := by
  have entries := h.plain.toEntries h.wellFormed.layer.prot.labelled simple
  obtain ⟨bytes, encoded⟩ := Cbor.exists_encode entries .canonical
  have bytes_eq : m.prot.encode = .ok bytes := by
    rw [h.encode_eq named, valid, Except.ok_bind, encoded]
    rfl
  have agrees := Bucket.checkAlgorithm_eq_ok_iff.mpr (.inr named)
  have bucket_eq : m.withAlgorithm (.algorithm a) = .ok m.prot := by
    rw [Layer.withAlgorithm, agrees, Layer.keepsBucket, has_alg named]
    rfl
  exact ⟨⟨m.prot, bytes, bucket_eq, valid, bytes_eq⟩, rfl⟩

end Unfinished

/-! ## The message around a signature -/

/-- The message with a signature: its protected bucket is fixed. -/
def withSignature (m : Sign1) (p : m.toLayer.Prepared a) (signature : Bytes) : Sign1 :=
  { m with prot := p.fixed, signature := .bytes signature, state := .signed }

theorem attach_of_prepared (p : m.toLayer.Prepared a) (own : p.bucket = m.prot) {signature : Bytes}
    (nonempty : signature ≠ []) :
    m.attach (.bytes signature) = ⟨m.withSignature p signature, .ok (), []⟩ := by
  rw [attach, Value.isTruthy_bytes nonempty]
  simp only [Option.getD_none, ← own, p.finalize_eq]
  rfl

/-- What a signature is checked over: the bytes decode to a message that names an algorithm, and
this is what its signature has to cover. -/
inductive Recomputes (data : Bytes) (a : Algorithm) (covered : Bytes) : Prop
  | intro {m : Sign1} {prot : Bytes} (decoded : decode (.bytes data) = .ok m)
      (named : m.prot.algorithm = .ok (some a)) (encoded : m.prot.encode = .ok prot)
      (covers : m.structureFor prot (.bytes []) = .ok covered) : Recomputes data a covered

/-- A layer that has come back names the algorithm that it named before. -/
theorem algorithm_of_readBack {h h' : Layer} {q : Bytes} (wf : h.WellFormed)
    (back : Layer.ReadBack q h h') : h'.prot.algorithm = h.prot.algorithm := by
  obtain ⟨f, prot⟩ := back.prot
  have valid := (Layer.check_eq_ok.mp back.checked).1
  rw [Bucket.algorithm, prot.find?_eq_self wf.prot.labelled valid (.inl rfl), Bucket.algorithm]

namespace Unfinished

variable (h : m.Unfinished keys) (simple : ∀ ks, Value.SimpleKeys ks → keys ks)

include h

/-- What there is to be signed if the headers pass the rules. -/
theorem exists_toBeSigned (valid : m.prot.validate = .ok ()) (p : m.toLayer.Prepared a)
    (own : p.bucket = m.prot) :
    ∃ covered, m.toBeSigned.result = .ok covered ∧
      m.structureFor p.bytes (.bytes []) = .ok covered := by
  obtain ⟨covered, covers⟩ := exists_covered h.wellFormed.payload p.bytes []
  refine ⟨covered, ?_, covers⟩
  show (do m.check; m.structureFor (← m.prot.encode) (.bytes [])) = _
  rw [h.check_of_valid valid, Except.ok_bind, ← own, p.bytes_eq]
  exact covers

include simple

/-- A finished message comes back with what its signature covers: the bytes that were signed,
the algorithm that they name, the payload and the signature, and the headers as they are read. -/
theorem exists_data (valid : m.prot.validate = .ok ()) (p : m.toLayer.Prepared a)
    (own : p.bucket = m.prot) (signature : Bytes) :
    ∃ data, (m.withSignature p signature).encode = .ok data ∧ (data.length < 2 ^ 64 →
      ∃ m', decode (.bytes data) = .ok m' ∧ m'.prot.algorithm = m.prot.algorithm ∧
        m'.prot.encode = .ok p.bytes ∧ m'.payload = m.payload ∧ m'.signature = .bytes signature ∧
        Layer.ReadBack p.bytes (m.withSignature p signature).toLayer m'.toLayer) := by
  have labelled := h.wellFormed.layer.prot.labelled
  have checked : (m.withSignature p signature).check = .ok () :=
    p.check labelled (h.check_of_valid valid)
  have wf : (m.withSignature p signature).WellFormed :=
    ⟨p.wellFormed h.wellFormed.layer, h.wellFormed.payload, .bytes signature⟩
  have unprot : m.unprot.Plain keys (maxDepth - 3) := by
    rw [h.unprot]
    exact fun e mem => absurd mem List.not_mem_nil
  have plain := p.plain labelled ⟨h.plain, unprot⟩
  obtain ⟨data, encoded⟩ := exists_encode wf plain simple checked p.layer_encode
  refine ⟨data, encoded, fun fits => ?_⟩
  obtain ⟨q, m', decoded, back, payload, present, -⟩ := decode_encode wf plain simple encoded fits
  have bytes_eq : q = p.bytes := Except.ok.inj (back.encoded.symm.trans p.layer_encode)
  have named : (m.withSignature p signature).prot.algorithm = m.prot.algorithm := by
    rw [← own]
    rfl
  have named' := algorithm_of_readBack wf.layer back
  subst bytes_eq
  exact ⟨m', decoded, named'.trans named, back.prot_encode, payload, present, back⟩

/-- **Both who take part come to the same verdict** about the headers: either both refuse them, or
there is something to be signed, and it is recomputed from the bytes of the message that is put
around the signature. -/
theorem recomputes (named : m.prot.algorithm = .ok (some a)) {signature : Bytes}
    (nonempty : signature ≠ []) :
    (∃ e, m.toBeSigned.result = .error e ∧ (m.attach (.bytes signature)).result = .error e) ∨
      ∃ covered data, m.toBeSigned.result = .ok covered ∧
        (m.attach (.bytes signature)).result = .ok () ∧
        (m.attach (.bytes signature)).after.encode = .ok data ∧
        (data.length < 2 ^ 64 → ∃ m' prot, decode (.bytes data) = .ok m' ∧
          m'.prot.algorithm = .ok (some a) ∧ m'.prot.encode = .ok prot ∧
          m'.structureFor prot (.bytes []) = .ok covered ∧ m'.signature = .bytes signature) := by
  rcases valid : m.prot.validate with e | ⟨⟩
  · exact .inl ⟨e, h.refused named valid nonempty⟩
  · obtain ⟨p, own⟩ := h.exists_prepared named simple valid
    obtain ⟨covered, asked, covers⟩ := h.exists_toBeSigned valid p own
    obtain ⟨data, encoded, back⟩ := h.exists_data simple valid p own signature
    rw [attach_of_prepared p own nonempty]
    refine .inr ⟨covered, data, asked, rfl, encoded, fun fits => ?_⟩
    obtain ⟨m', decoded, named', encoded', payload, present, -⟩ := back fits
    refine ⟨m', p.bytes, decoded, named'.trans named, encoded', ?_, present⟩
    rw [structureFor, payload]
    exact covers

end Unfinished

/-! ## Validation -/

section Validation

variable [Key.Loader] [Crypto.Primitives] {data prot signature covered : Bytes}
  (loaded : Key.Loader.loadPublic certificate = .ok key)
  (decoded : decode (.bytes data) = .ok m) (named : m.prot.algorithm = .ok (some a))
  (encoded : m.prot.encode = .ok prot) (present : m.signature = .bytes signature)
  (nonempty : signature ≠ []) (covers : m.structureFor prot (.bytes []) = .ok covered)

include loaded decoded named encoded present nonempty covers

/-- What the key accepts is validated, and nothing but the state of the message changes. -/
theorem validate_of_accepts (fits : key.Fits a) (accepts : key.Accepts a covered signature) :
    validate certificate (.bytes data) = .ok { m with state := .verified } := by
  have registered := Bucket.mem_of_algorithm named
  have loads : Credential.loadVerifier certificate (.ofAlgorithm? (some a)) =
      .ok (Credential.ofPublic a key, []) :=
    (Credential.loadVerifier_eq loaded rfl).trans
      (Credential.verifier_of_fits (Algorithm.lookup_self registered) fits)
  have decides := decides_checkSignature registered fits encoded present covers
  rw [validate_of_fits decoded named loads (.inr named) fits.isSignature,
    decides.eq_ok_iff.mpr ⟨nonempty, accepts⟩]
  rfl

/-- **A message that names an algorithm is validated** if the algorithm fits the key and the key
accepts the signature; otherwise the key is refused, or the signature. -/
theorem validate_of_named (supported : key.Supported) :
    (key.Fits a → ((∃ r, validate certificate (.bytes data) = .ok r) ↔
      key.Accepts a covered signature)) ∧
    (¬ key.Fits a → ∃ fault, validate certificate (.bytes data) = .error (.invalidKey fault)) := by
  have registered := Bucket.mem_of_algorithm named
  have found := Algorithm.lookup_self registered
  have loads : Credential.loadVerifier certificate (.ofAlgorithm? (some a)) =
      Credential.verifier (.algorithm a) key := Credential.loadVerifier_eq loaded rfl
  constructor
  · intro fits
    constructor
    · rw [Credential.verifier_of_fits found fits] at loads
      rw [validate_of_fits decoded named loads (.inr named) fits.isSignature]
      rintro ⟨r, answered⟩
      obtain ⟨⟨⟩, checked, -⟩ := Except.map_eq_ok.mp answered
      have decides := decides_checkSignature registered fits encoded present covers
      exact (decides.eq_ok_iff.mp checked).2
    · intro accepts
      exact ⟨_, validate_of_accepts loaded decoded named encoded present nonempty covers fits
        accepts⟩
  · intro other
    obtain ⟨fault, refused⟩ := Credential.verifier_of_not_fits supported.isAsymmetric found other
    refine ⟨fault, ?_⟩
    simp only [validate_eq, decoded, Except.ok_bind, named, loads, refused]
    rfl

end Validation

/-! ## All three places -/

theorem offlineRequest_eq [Key.Loader] {extra : Value}
    (made : forCertificate payload certificate extra = .ok m) :
    offlineRequest payload certificate extra = (do
      match ← m.prot.algorithm with
      | none => throw (.argument .sizeUnknown)
      | some alg =>
        let covered ← m.toBeSigned.result
        return ⟨alg.name, Text.encode64 (alg.handedOut covered)⟩) := by
  rw [offlineRequest, made]
  rfl

/-- What is handed out is made from the bytes to be signed of a message that names an
algorithm. -/
theorem offlineRequest_eq_ok [Key.Loader] {extra : Value} {request : OfflineRequest}
    (h : offlineRequest payload certificate extra = .ok request) :
    ∃ m a covered, forCertificate payload certificate extra = .ok m ∧
      m.prot.algorithm = .ok (some a) ∧ m.toBeSigned.result = .ok covered ∧
      request = ⟨a.name, Text.encode64 (a.handedOut covered)⟩ := by
  obtain ⟨m, made, -⟩ := Except.bind_eq_ok.mp h
  rw [offlineRequest_eq made] at h
  obtain ⟨- | a, named, h⟩ := Except.bind_eq_ok.mp h
  · cases h
  obtain ⟨covered, asked, ⟨⟩⟩ := Except.bind_eq_ok.mp h
  exact ⟨m, a, covered, made, named, asked, rfl⟩

/-- Headers are refused while the message is made, or, if it names an algorithm, when the bytes
to be signed are asked for. -/
theorem offlineRequest_eq_header [Key.Loader] {extra : Value} {fault : HeaderFault}
    (h : offlineRequest payload certificate extra = .error (.header fault)) :
    forCertificate payload certificate extra = .error (.header fault) ∨
      ∃ m a, forCertificate payload certificate extra = .ok m ∧
        m.prot.algorithm = .ok (some a) ∧ m.toBeSigned.result = .error (.header fault) := by
  rcases made : forCertificate payload certificate extra with e | m
  · rw [offlineRequest, made] at h
    cases h
    exact .inl rfl
  rw [offlineRequest_eq made] at h
  rcases named : m.prot.algorithm with e | - | a
  · rw [named] at h
    cases h
    exact absurd named (Bucket.algorithm_ne_header _ _)
  · rw [named] at h
    cases h
  · rcases asked : m.toBeSigned.result with e | covered
    · simp only [named, asked, Except.ok_bind] at h
      cases h
      exact .inr ⟨m, a, rfl, named, asked⟩
    · simp only [named, asked, Except.ok_bind] at h
      cases h

theorem finishOffline_eq [Key.Loader] {extra t : Value} {signature : Bytes}
    (made : forCertificate payload certificate extra = .ok m) (spells : Base64Of signature t) :
    finishOffline payload certificate t extra = (do
      (m.attach (.bytes signature)).result
      (m.attach (.bytes signature)).after.encode) := by
  rw [finishOffline, made, Except.ok_bind, spells.decodeSignature_eq]
  rfl

/-- **Signing offline is faithful.** If something is handed out to be signed for a certificate, the
message can be finished with any signature that is not empty. What was handed out is then what
validation recomputes from the bytes of the message, as its digest where the algorithm has a hash
function. So the message is validated exactly if the key accepts the signature over what was handed
out, and a key that the algorithm does not fit is refused. If the headers are refused before
anything is handed out, they are refused in the same way when the message is finished. -/
theorem finishOffline_of_request [Key.Loader] [Crypto.Primitives]
    (prehashed : Crypto.Primitives.Prehashed)
    (loaded : Key.Loader.loadPublic certificate = .ok key)
    (supported : key.Supported) (payload : Value)
    (plain : ∀ e ∈ es, e.2.Plain (fun _ => True) (maxDepth - 1)) {signature : Bytes}
    (nonempty : signature ≠ []) {t : Value} (spells : Base64Of signature t) :
    (∀ request, offlineRequest payload certificate (.map es) = .ok request →
      ∃ a ∈ Registry.standard.algorithms, ∃ data, request.algorithm = a.name ∧
        finishOffline payload certificate t (.map es) = .ok data ∧
        (data.length < 2 ^ 64 → ∃ covered, Recomputes data a covered ∧
          request.value = Text.encode64 (a.handedOut covered) ∧
          (key.Fits a → ∀ covered', request.value = Text.encode64 (a.handedOut covered') →
            ((∃ r, validate certificate (.bytes data) = .ok r) ↔
              key.Accepts a covered' signature)) ∧
          (¬ key.Fits a →
            ∃ fault, validate certificate (.bytes data) = .error (.invalidKey fault)))) ∧
    ∀ fault, offlineRequest payload certificate (.map es) = .error (.header fault) →
      finishOffline payload certificate t (.map es) = .error (.header fault) := by
  constructor
  · intro request answered
    obtain ⟨m, a, covered, made, named, asked, rfl⟩ := offlineRequest_eq_ok answered
    rcases (unfinished_of_forCertificate plain made).recomputes (fun _ _ => trivial) named
      nonempty with ⟨e, refused, -⟩ | ⟨covered', data, asked', attached, encoded, back⟩
    · cases asked.symm.trans refused
    cases asked.symm.trans asked'
    have registered := Bucket.mem_of_algorithm named
    refine ⟨a, registered, data, rfl, ?_, fun fits => ?_⟩
    · rw [finishOffline_eq made spells, attached]
      exact encoded
    · obtain ⟨m', prot, decoded, named', encoded', covers, present⟩ := back fits
      obtain ⟨accepted, refused⟩ :=
        validate_of_named loaded decoded named' encoded' present nonempty covers supported
      refine ⟨covered, .intro decoded named' encoded' covers, rfl, fun fits covered' same => ?_,
        refused⟩
      rw [accepted fits]
      exact Key.accepts_congr prehashed registered fits (Text.encode64_inj same)
  · intro fault refused
    rcases offlineRequest_eq_header refused with made | ⟨m, a, made, named, asked⟩
    · rw [finishOffline, made]
      rfl
    rcases (unfinished_of_forCertificate plain made).recomputes (fun _ _ => trivial) named
      nonempty with ⟨e, asked', attached⟩ | ⟨_, _, asked', -⟩
    · cases asked.symm.trans asked'
      rw [finishOffline_eq made spells, attached]
      rfl
    · cases asked.symm.trans asked'

/-- The lines of a certificate with a key for Ed25519. -/
def certificateLines : List String :=
  ["-----BEGIN CERTIFICATE-----\n",
    "MIHrMIGeoAMCAQICAgPuMAUGAytlcDAfMR0wGwYDVQQDDBRlZDI1NTE5YS5leGFt\n",
    "cGxlLmNvbTAeFw0yNDAxMDEwMDAwMDBaFw00NDAxMDEwMDAwMDBaMB8xHTAbBgNV\n",
    "BAMMFGVkMjU1MTlhLmV4YW1wbGUuY29tMCowBQYDK2VwAyEAdaimR3wLWzQ2Dg6I\n",
    "y5WUbpu5lTyzl4O1BPzQTMR/mt8wBQYDK2VwA0EAI8snR47mNpOKEVLQSHqUiKu7\n",
    "zjs/Am96Z8Shtc/Tdj42R6CbR6S87zP17H563CjoDGjxh2fAE7fx7NPst01WAw==\n",
    "-----END CERTIFICATE-----\n"]

/-- The text of that certificate. -/
def certificateText : String :=
  String.join certificateLines

theorem toList_certificateText :
    certificateText.toList = certificateLines.flatMap String.toList :=
  String.toList_join

/-- The blocks of a text are found in its characters. -/
theorem pem_find?_eq (labels : List String) (s : String) :
    Pem.find? labels s = (do
      (← Pem.blocksUpTo? s.toList.length s.toList).find? fun b => labels.contains b.label) := by
  rw [Pem.find?, Pem.blocks?, String.length_toList]

/-- The public key in that certificate. -/
def certificatePoint : Bytes :=
  [0x75, 0xa8, 0xa6, 0x47, 0x7c, 0x0b, 0x5b, 0x34, 0x36, 0x0e, 0x0e, 0x88, 0xcb, 0x95, 0x94, 0x6e,
    0x9b, 0xb9, 0x95, 0x3c, 0xb3, 0x97, 0x83, 0xb5, 0x04, 0xfc, 0xd0, 0x4c, 0xc4, 0x7f, 0x9a, 0xdf]

set_option maxRecDepth 10000 in
theorem loadPublic_certificateText :
    Key.Loader.loadPublic certificateText = .ok (.octet .ed25519 certificatePoint none) := by
  -- The characters are taken line by line: those of the whole text take long to compute.
  rw [Key.Loader.standard_loadPublic, Key.loadPublic, Key.certificate, Key.requireAscii,
    Key.occursIn, pem_find?_eq, toList_certificateText]
  with_unfolding_all rfl

theorem exists_fingerprint : ∃ kid, Key.Loader.fingerprint certificateText = .ok kid := by
  have isCertificate : Key.occursIn "BEGIN CERTIFICATE" certificateText = true := by
    rw [Key.occursIn, toList_certificateText]
    decide +kernel
  have loaded := loadPublic_certificateText
  rw [Key.Loader.standard_loadPublic, Key.loadPublic, if_pos isCertificate] at loaded
  obtain ⟨der, read, holds⟩ := Except.bind_eq_ok.mp loaded
  rw [Key.Loader.standard_fingerprint, Key.fingerprint, read, Except.ok_bind, holds]
  exact ⟨_, rfl⟩

/-- With this certificate something is handed out, and the message is finished with three bytes that
are no signature, but not validated. A key identifier that is a text is refused at both times. -/
theorem finishOffline_of_request_ed25519 :
    let payload : Value := .bytes [1]
    let t : Value := .text (Text.encode64 [1, 2, 3])
    (∃ request data, offlineRequest payload certificateText (.map []) = .ok request ∧
      request.algorithm = "EdDSA" ∧
      finishOffline payload certificateText t (.map []) = .ok data ∧
      (data.length < 2 ^ 64 → ¬ ∃ r, validate certificateText (.bytes data) = .ok r)) ∧
    finishOffline payload certificateText t (.map [(.int 4, .text "key")]) =
      .error (.header .keyIdType) := by
  intro payload t
  have loaded := loadPublic_certificateText
  have supported : Key.Supported (.octet .ed25519 certificatePoint none) := List.mem_cons_self
  obtain ⟨kid, fingerprint⟩ := exists_fingerprint
  have spells : Base64Of [1, 2, 3] t := base64Of_encode64 _
  have header (es : List (Value × Value)) : certifiedHeader certificateText (.map es) =
      (mergeParameters [(.int 1, .algorithm .edDSA), (.int 4, .bytes kid)] (.map es)).map .map := by
    rw [certifiedHeader, loaded, fingerprint]
    rfl
  constructor
  · obtain ⟨m, made, named, valid⟩ : ∃ m, forCertificate payload certificateText (.map []) = .ok m ∧
        m.prot.algorithm = .ok (some .edDSA) ∧ m.prot.validate = .ok () := by
      rw [forCertificate, header]
      exact ⟨_, rfl, rfl, rfl⟩
    have h : m.Unfinished fun _ => True := unfinished_of_forCertificate (by simp) made
    obtain ⟨p, own⟩ := h.exists_prepared named (fun _ _ => trivial) valid
    obtain ⟨covered, asked, -⟩ := h.exists_toBeSigned valid p own
    have answered : offlineRequest payload certificateText (.map []) =
        .ok ⟨"EdDSA", Text.encode64 covered⟩ := by
      rw [offlineRequest_eq made, named, Except.ok_bind]
      simp only [asked]
      rfl
    obtain ⟨a, registered, data, name, finished, back⟩ :=
      (finishOffline_of_request .standard loaded supported payload (by simp) (by decide) spells).1 _ answered
    refine ⟨_, data, answered, rfl, finished, fun fits => ?_⟩
    obtain ⟨covered', -, value, accepted, -⟩ := back fits
    have all : ∀ a ∈ Registry.standard.algorithms, "EdDSA" = a.name → a = .edDSA := by decide
    cases all a registered name
    rw [accepted ⟨rfl, List.mem_cons_self⟩ covered' value]
    show ¬ Crypto.ed25519.verify certificatePoint covered' _ = true
    rw [Crypto.Edwards.verify, if_neg (by decide)]
    decide
  · have refused : offlineRequest payload certificateText (.map [(.int 4, .text "key")]) =
        .error (.header .keyIdType) := by
      have merged : mergeParameters [(.int 1, .algorithm .edDSA), (.int 4, .bytes kid)]
          (.map [(.int 4, .text "key")]) =
            .ok [(.int 1, .algorithm .edDSA), (.int 4, .text "key")] := by
        simp [mergeParameters, Value.isTruthy, Value.parameters, Value.isHashable, Value.insert,
          Value.same, Value.sameAtom]
      rw [offlineRequest, forCertificate, header, merged]
      rfl
    refine (finishOffline_of_request .standard loaded supported payload ?_ (by decide) spells).2 _ refused
    rintro e mem
    rw [List.mem_singleton.mp mem]
    exact .text _ _

end Sign1

end Cose
