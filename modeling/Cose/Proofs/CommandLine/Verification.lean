import Cose.CommandLine.Command
import Cose.Proofs.Message.Single
import Cose.Proofs.Message.Validation

/-!
# Verifying on the command line

The command that verifies a message writes the payload, or reports the failure and exits with
status 1. It handles the errors of the COSE family only, so it depends on what validation fails with.
That is an error of the family, except in three cases: a message that names no algorithm is validated
with a key that has none by default, or an integer in the headers has too many digits to be reported,
or the reader of the message raises an error of its own. The first does not occur with a supported
key.

## Main definitions

* `Command.Ends`: how the command ends, for each result of validation

## Main results

* `Environment.text_eq`: the text of a file
* `Command.runVerify_ends`: the command ends as validation says
* `Command.verify_ends`: what validation comes to, for keys of all types and all bytes
-/

namespace Cose.CommandLine

open Message (HeadersWritable Raises)
open Sign1 (Valid Unassigned Escapes validate)

/-! ## What a command reads -/

namespace Environment

/-- A text without carriage returns stays as it is. -/
theorem unifyLineChars_eq {cs : List Char} (h : '\r' ∉ cs) : Text.unifyLineChars cs = cs := by
  induction cs with
  | nil => rfl
  | cons c cs ih =>
    rw [List.mem_cons, not_or] at h
    rw [Text.unifyLineChars, ih h.2]
    · rintro rest rfl
      exact absurd rfl h.1
    · rintro rfl
      exact absurd rfl h.1

/-- **The text of a file** that has no carriage returns. -/
theorem text_eq {env : Environment} {path s : String} (file : env.file path = .ok (Bytes.ofText s))
    (plain : '\r' ∉ s.toList) : env.text path = .ok s := by
  rw [text, file, Except.ok_bind, Bytes.toText?_ofText]
  simp only [Text.unifyLines, unifyLineChars_eq plain, String.ofList_toList]
  rfl

end Environment

/-! ## How verifying ends -/

namespace Command

/-- **How the command ends**: the payload of a message that is valid is written, with a line that names
the algorithm; an error of the family is reported, and nothing is written; any other error is not
handled. -/
inductive Ends : Except Error Sign1 → Report → Prop
  | written (m : Sign1) (name : String) :
      Ends (.ok m) ⟨.ok 0, m.payload.bytes?.getD [],
        [⟨.success, s!"Verified COSE Sign1 signed with {name}"⟩]⟩
  | reported {e : Error} (cose : e.isCose = true) :
      Ends (.error e) ⟨.ok 1, [], [⟨.error, s!"Verification failed: {e.message}"⟩]⟩
  | unhandled {e : Error} (other : e.isCose = false) : Ends (.error e) ⟨.error e, [], []⟩

section Ends

variable {r : Except Error Sign1} {report : Report} (ends : Ends r report)

include ends

/-- With errors of the family only, the command writes the payload or exits with status 1. -/
theorem Ends.result_eq (cose : ∀ e, r = .error e → e.isCose = true) :
    report.result = .ok 0 ∨ report.result = .ok 1 ∧ report.output = [] := by
  cases ends with
  | written => exact .inl rfl
  | reported => exact .inr ⟨rfl, rfl⟩
  | unhandled other => cases other.symm.trans (cose _ rfl)

theorem Ends.eq_of_not_cose {e : Error} (failed : r = .error e) (other : e.isCose = false) :
    report = ⟨.error e, [], []⟩ := by
  cases ends with
  | written => cases failed
  | reported cose =>
    cases failed
    cases other.symm.trans cose
  | unhandled =>
    cases failed
    rfl

end Ends

/-- All errors of validation are of the family for a key and a message: the integers in its headers
can be written, the reader does not raise an error of its own over it, and it finds an algorithm,
since the key has a default or no message without an algorithm is received. -/
structure Regular [Cbor.Reader] (key : Key) (data : Bytes) : Prop where
  writable : HeadersWritable .sign1 (.bytes data)
  quiet : ∀ fault, ¬ Raises (.bytes data) fault .sign1
  assigned : key.Supported ∨
    ∀ m, Sign1.decode (.bytes data) = .ok m → m.prot.algorithm ≠ .ok none

theorem Regular.not_escapes [Cbor.Reader] {key : Key} {data : Bytes} (regular : Regular key data) (e : Error) :
    ¬ Escapes key data e := by
  rintro (unwritable | raises | ⟨⟨decoded, unnamed, default⟩⟩)
  · exact unwritable regular.writable
  · exact regular.quiet _ raises
  · rcases regular.assigned with supported | named
    · exact (Unassigned.intro decoded unnamed default).not_supported supported
    · exact named _ decoded unnamed

section Libraries

variable [Cbor.Reader] [Key.Loader] [Crypto.Primitives]

variable {env : Environment} {g : Given} {pem : String} {data : Bytes}

/-- The algorithm of a message that was validated is known. -/
theorem exists_verified {aad : Value} {m : Sign1} (valid : validate pem (.bytes data) aad = .ok m) :
    ∃ name, verified m = .ok (m.payload.bytes?.getD [], name) := by
  rw [Sign1.validate_eq] at valid
  obtain ⟨received, -, valid⟩ := Except.bind_eq_ok.mp valid
  obtain ⟨named, names, valid⟩ := Except.bind_eq_ok.mp valid
  obtain ⟨⟨c, lines⟩, -, valid⟩ := Except.bind_eq_ok.mp valid
  obtain ⟨⟨⟩, -, ⟨⟩⟩ := Except.bind_eq_ok.mp valid
  obtain ⟨state, after, -⟩ := Sign1.verify_after received c.agent aad
  rw [verified, after]
  simp only [names, Except.ok_bind]
  exact ⟨_, rfl⟩

/-- **The command ends as validation says.** -/
theorem runVerify_ends (certificate : env.text (g.value "--cert") = .ok pem)
    (message : env.binary (g.value "--cose") = .ok data) :
    Ends (validate pem (.bytes data)) (runVerify env g) := by
  rw [runVerify, certificate]
  simp only [message, Except.ok_bind]
  rcases validates : validate pem (.bytes data) with e | m
  · simp only [Except.error_bind]
    cases cose : e.isCose with
    | true => exact .reported cose
    | false => exact .unhandled cose
  · obtain ⟨name, known⟩ := exists_verified validates
    simp only [Except.ok_bind, known]
    exact .written m name

/-- **What verifying comes to.** Whatever reads the message, loads the key and checks the signature:
for a key of any type and any bytes, validation returns a message that is valid, or it fails: with an
error of the family; or because an integer in the headers cannot be written; or with an error that the
reader raised; or with the error that the key has no default algorithm, if a message is received that
names none. The last is no error of the family, and it comes from every key that is not supported. If
none of the three is the case, all errors are of the family. The command that verifies ends
accordingly; then it writes the payload of a valid message, or reports the failure without output and
exits with status 1. -/
theorem verify_ends {key : Key} (loaded : Key.Loader.loadPublic pem = .ok key)
    (asymmetric : key.IsAsymmetric) (data : Bytes) :
    (∀ aad : Bytes,
      (∃ m, Valid key data aad m ∧
        validate pem (.bytes data) (.bytes aad) = .ok { m with state := .verified }) ∨
      ∃ e, validate pem (.bytes data) (.bytes aad) = .error e ∧
        (e.isCose = true ∨ e = .fault .value ∧ ¬ HeadersWritable .sign1 (.bytes data) ∨
          (∃ fault, Raises (.bytes data) fault .sign1 ∧ e = .fault fault) ∨
          Unassigned key data e)) ∧
    (∀ m (aad : Bytes), ¬ key.Supported → Sign1.decode (.bytes data) = .ok m →
      m.prot.algorithm = .ok none →
      ∃ e, validate pem (.bytes data) (.bytes aad) = .error e ∧ e.kind = .notImplemented) ∧
    (Regular key data → ∀ (aad : Bytes) e,
      validate pem (.bytes data) (.bytes aad) = .error e → e.isCose = true) ∧
    ∀ env g, env.text (g.value "--cert") = .ok pem → env.binary (g.value "--cose") = .ok data →
      Ends (validate pem (.bytes data)) (runVerify env g) ∧
      (Regular key data →
        (runVerify env g).result = .ok 0 ∨
          (runVerify env g).result = .ok 1 ∧ (runVerify env g).output = []) := by
  have cose (regular : Regular key data) (aad : Bytes) (e : Error)
      (failed : validate pem (.bytes data) (.bytes aad) = .error e) : e.isCose = true := by
    rcases Sign1.validate_outcome loaded asymmetric data aad with
      ⟨m, -, answer⟩ | ⟨-, e', failed', why⟩
    · cases failed.symm.trans answer
    · cases failed.symm.trans failed'
      exact why.resolve_right (regular.not_escapes e)
  refine ⟨fun aad => ?_, fun m aad other decoded unnamed => ?_, cose,
    fun env g certificate message => ?_⟩
  · refine (Sign1.validate_outcome loaded asymmetric data aad).imp_right fun ⟨_, e, failed, why⟩ => ?_
    refine ⟨e, failed, ?_⟩
    rcases why with cose | unwritable | raises | unassigned
    · exact .inl cose
    · exact .inr (.inl ⟨rfl, unwritable⟩)
    · exact .inr (.inr (.inl ⟨_, raises, rfl⟩))
    · exact .inr (.inr (.inr unassigned))
  · obtain ⟨fault, default, kind⟩ := Key.exists_fault_of_not_supported other
    have unassigned : Unassigned key data _ := .intro decoded unnamed default
    exact ⟨_, unassigned.validate_eq_error loaded _, kind⟩
  · have ends := runVerify_ends certificate message
    exact ⟨ends, fun regular => ends.result_eq (cose regular [])⟩

end Libraries

/-- What a command can read that is given the text of a key, and a message on the standard input. -/
def keyEnvironment (pem : String) (message : Bytes) : Environment where
  file _ := .ok (Bytes.ofText pem)
  input := message
  entropy := []

/-- The options of the command for such a message. -/
def fromInput : Given :=
  ⟨[("--cose", "-"), ("--cert", "key.pem")]⟩

/-- A message that names an algorithm for shared keys is refused for a key for Ed25519, and reported. -/
theorem verify_ends_ed25519 :
    let key : Key := .octet .ed25519 Sign1.publicPoint none
    Key.Loader.loadPublic Sign1.publicText = .ok key ∧
      (∃ e, validate Sign1.publicText (.bytes Sign1.taggedBytes) (.bytes []) = .error e ∧
        e.isCose = true) ∧
      ∃ code, (runVerify (keyEnvironment Sign1.publicText Sign1.taggedBytes) fromInput).result =
        .ok code := by
  intro key
  have loaded : Key.Loader.loadPublic Sign1.publicText = .ok key := Sign1.loadPublic_publicText
  have supported : key.Supported := List.mem_cons_self
  have plain : '\r' ∉ Sign1.publicText.toList := by decide +kernel
  have regular : Regular key Sign1.taggedBytes :=
    ⟨Sign1.headersWritable_taggedBytes, Sign1.quiet_taggedBytes, .inl supported⟩
  obtain ⟨outcome, -, cose, ends⟩ :=
    verify_ends loaded (Key.isAsymmetric_of_loadPublic loaded) Sign1.taggedBytes
  have cose := cose regular []
  have ends := (ends (keyEnvironment Sign1.publicText Sign1.taggedBytes) fromInput
    (Environment.text_eq rfl plain) rfl).2 regular
  refine ⟨loaded, ?_, ?_⟩
  · rcases outcome [] with ⟨m, ⟨decoded, calls, -, -, fits, -⟩, -⟩ | ⟨e, failed, -⟩
    · obtain ⟨m', decoded', named⟩ : ∃ m, Sign1.decode (.bytes Sign1.taggedBytes) = .ok m ∧
        m.prot.algorithm = .ok (some .hmac256) := ⟨_, rfl, rfl⟩
      cases decoded.symm.trans decoded'
      cases calls.unique (.inl named)
      cases fits.1
    · exact ⟨e, failed, cose e failed⟩
  · rcases ends with done | ⟨done, -⟩
    · exact ⟨_, done⟩
    · exact ⟨_, done⟩

/-- A public key for X25519 in its textual encoding. -/
def agreementText : String :=
  "-----BEGIN PUBLIC KEY-----\n" ++
  "MCowBQYDK2VuAyEAXzB0JU9fkZulRDiZ+XjuExCwAhS14x74w/Nta9nm5wo=\n" ++
  "-----END PUBLIC KEY-----\n"

/-- The point of that key. -/
def agreementPoint : Bytes :=
  [0x5f, 0x30, 0x74, 0x25, 0x4f, 0x5f, 0x91, 0x9b, 0xa5, 0x44, 0x38, 0x99, 0xf9, 0x78, 0xee, 0x13,
    0x10, 0xb0, 0x02, 0x14, 0xb5, 0xe3, 0x1e, 0xf8, 0xc3, 0xf3, 0x6d, 0x6b, 0xd9, 0xe6, 0xe7, 0x0a]

/-- A message without headers, with a signature of one byte. -/
def unnamedBytes : Bytes := [0xd2, 0x84, 0x40, 0xa0, 0x41, 0x01, 0x41, 0x07]

set_option maxRecDepth 10000 in
theorem loadPublic_agreementText :
    Key.Loader.loadPublic agreementText = .ok (.octet .x25519 agreementPoint none) := by
  with_unfolding_all rfl

/-- A message that names no algorithm is not validated with a key for X25519, and the error is none of
the family: the command does not handle it. -/
theorem verify_ends_unassigned :
    (Key.Loader.loadPublic agreementText).isOk = true ∧
      validate agreementText (.bytes unnamedBytes) (.bytes []) =
        .error (.argument .unsupportedKeyType) ∧
      (Error.argument .unsupportedKeyType).isCose = false ∧
      runVerify (keyEnvironment agreementText unnamedBytes) fromInput =
        ⟨.error (.argument .unsupportedKeyType), [], []⟩ := by
  have plain : '\r' ∉ agreementText.toList := by decide +kernel
  have unassigned : Unassigned (.octet .x25519 agreementPoint none) unnamedBytes
      (.argument .unsupportedKeyType) := .intro rfl rfl rfl
  have failed := unassigned.validate_eq_error loadPublic_agreementText (.bytes [])
  have ends : Ends (validate agreementText (.bytes unnamedBytes))
      (runVerify (keyEnvironment agreementText unnamedBytes) fromInput) :=
    runVerify_ends (Environment.text_eq rfl plain) rfl
  refine ⟨?_, failed, rfl, ends.eq_of_not_cose failed rfl⟩
  rw [loadPublic_agreementText]
  rfl

end Command

end Cose.CommandLine
