import Cose.Proofs.CommandLine.Verification
import Cose.Proofs.Header.Repeated
import Cose.Proofs.Message.Offline

/-!
# Header parameters on the command line

The commands that sign, prepare and finish a message take header parameters, each as an option of
its own, and all three build the same message from them. The parameters are put into a map, which is
merged into the defaults for the certificate, and the map becomes a bucket. What a label holds in
the end is the value of the last option that names it, as long as all of them spell it alike.

## Main definitions

* `Given.items`: the header parameters that were given
* `Command.reportOf`: what a command makes of the message

## Main results

* `Given.isLabel_of_mem_items`, `Given.items_write`: what is given can be stored
* `Command.header_of_options`: what the options leave in the protected bucket
-/

namespace Cose.CommandLine

/-! ## What can be given -/

theorem spelled_isLabel (s : String) : (spelled s).IsLabel := by
  rw [spelled]
  split
  · exact .int _
  · exact .text s

theorem isLabel_of_parseHeaderItem {item : String} {p : Value × Value}
    (h : parseHeaderItem item = .ok p) : p.1.IsLabel ∧ p.2.IsLabel := by
  rw [parseHeaderItem] at h
  split at h
  · obtain rfl := Except.ok.inj h
    dsimp only
    exact ⟨spelled_isLabel _, spelled_isLabel _⟩
  · cases h

namespace Given

/-- **The header parameters that were given**, in order. -/
def items (g : Given) : List (Value × Value) :=
  g.values.filterMap fun (name, item) =>
    if name = "--header" then (parseHeaderItem item).toOption else none

/-- The parameters are put into a map. -/
theorem header_eq (g : Given) : g.header = .map (Value.ofEntries g.items) :=
  rfl

variable {g : Given} {p : Value × Value}

theorem isLabel_of_mem_items (mem : p ∈ g.items) : p.1.IsLabel ∧ p.2.IsLabel := by
  obtain ⟨⟨name, item⟩, -, parsed⟩ := List.mem_filterMap.mp mem
  simp only at parsed
  split at parsed
  · cases read : parseHeaderItem item with
    | error e =>
      rw [read] at parsed
      cases parsed
    | ok q =>
      rw [read] at parsed
      cases parsed
      exact isLabel_of_parseHeaderItem read
  · cases parsed

theorem items_write : ∀ p ∈ g.items, ∃ l w, (Edit.assign p).Writes l w := by
  intro p mem
  obtain ⟨label, value⟩ := isLabel_of_mem_items mem
  obtain ⟨l, spells⟩ := label.exists_spells
  obtain ⟨w, stores⟩ := value.exists_stores l
  exact ⟨l, w, .set spells stores⟩

end Given

/-! ## The message that is built -/

namespace Command

/-- What a command makes of the message that it has built: it signs the message, hands out what
is to be signed, or attaches a signature. -/
def reportOf (env : Environment) (g : Given) (m : Sign1) : Command → Report
  | .sign =>
    let signer : Except Error (Credential × List LogLine) := do
      Credential.loadSigner (← env.text (g.value "--signing-key")) .null
        (if g.has "--deterministic" then none else some env.entropy)
    match signer with
    | .error e => .ofOutput (.error e)
    | .ok (signer, lines) =>
      let step := m.sign signer.agent
      .ofOutput (step.result.bind fun _ => step.after.encode) (lines ++ step.log)
  | .prepare => .ofOutput do
    match ← m.prot.algorithm with
    | none => throw (.argument .sizeUnknown)
    | some alg =>
      let covered ← m.toBeSigned.result
      return Bytes.ofText (OfflineRequest.render
        ⟨alg.name, Text.encode64 (alg.handedOut covered)⟩)
  | .finish => .ofOutput do
    let signature ← Sign1.decodeSignature (← env.signature (g.value "--signature"))
    let step := m.attach (.bytes signature)
    step.result
    step.after.encode
  | .verify => runVerify env g

variable {env : Environment} {g : Given} {content : Bytes} {certificate : String} {m : Sign1}

/-- All commands that build a message build the same one. -/
theorem perform_eq (content_read : env.binary (g.value "--content") = .ok content)
    (certificate_read : env.text (g.value "--signing-cert") = .ok certificate)
    (made : Sign1.forCertificate (.bytes content) certificate
      (.map (Value.ofEntries g.items)) = .ok m) (c : Command) :
    c.perform env g = c.reportOf env g m := by
  rw [← g.header_eq] at made
  cases c with
  | sign =>
    rw [perform, runSign, content_read, reportOf]
    cases env.text (g.value "--signing-key") with
    | error e => rfl
    | ok key =>
      rw [certificate_read]
      simp only [Except.ok_bind, Except.pure_eq, Sign1.createCertified, made]
      cases Credential.loadSigner key .null
        (if g.has "--deterministic" then none else some env.entropy) <;> rfl
  | prepare =>
    rw [perform, runPrepare, content_read, Except.ok_bind, certificate_read, Except.ok_bind,
      Sign1.offlineRequest_eq made, reportOf]
    rcases m.prot.algorithm with e | - | a
    · rfl
    · rfl
    · cases m.toBeSigned.result <;> rfl
  | finish =>
    rw [perform, runFinish, content_read, Except.ok_bind, certificate_read, Except.ok_bind,
      reportOf]
    simp only [Sign1.finishOffline, made, Except.ok_bind]
  | verify => rfl

/-- **What the header parameters on a command line leave.** The commands that build a message all
build the same one. In its protected bucket, each label has what is stored for the pair that rules,
of the defaults for the certificate and the parameters behind them, in order; nothing else is there,
and nothing is refused. So a label that is spelled alike in all parameters that name it has the
value of the last of these, or its default if there are none. -/
theorem header_of_options {key : Key} {a : Algorithm} {kid : Bytes}
    (content_read : env.binary (g.value "--content") = .ok content)
    (certificate_read : env.text (g.value "--signing-cert") = .ok certificate)
    (certified : CertifiedBy certificate key a kid) :
    ∃ prot : Bucket,
      (∀ c : Command, c.perform env g = c.reportOf env g (.fresh prot (.bytes content))) ∧
      (∀ l : Label, l.Holds (l.ruling? (certifiedDefaults a kid ++ g.items)) (prot.find? l)) ∧
      ∀ l : Label, (∀ p ∈ l.given g.items, ∀ q ∈ l.given g.items, p.1 = q.1) →
        l.Holds ((l.given g.items).getLast?.or (l.given (certifiedDefaults a kid)).getLast?)
          (prot.find? l) := by
  have labels : ∀ p ∈ g.items, p.1.IsLabel := fun p mem => (Given.isLabel_of_mem_items mem).1
  obtain ⟨prot, made⟩ := certified.exists_forCertificate labels g.items_write content
  have holds := (certified.holds labels made).2
  refine ⟨prot, perform_eq content_read certificate_read made, holds, fun l alike => ?_⟩
  rw [← Label.ruling?_of_alike (length_given_certifiedDefaults l) alike]
  exact holds l

/-- What a command can read that is given no content and one certificate. -/
def bareEnvironment : Environment where
  file path := if path = "cert.pem" then .ok (Bytes.ofText Sign1.certificateText)
    else .error (.fault .missingKey)
  input := []
  entropy := []

/-- The options of a command with header parameters. -/
def withParameters (parameters : List String) : Given :=
  ⟨("--content", "-") :: ("--signing-cert", "cert.pem") :: parameters.map ("--header", ·)⟩

theorem text_bareEnvironment :
    bareEnvironment.text "cert.pem" = .ok Sign1.certificateText := by
  have returns : '\r' ∉ Sign1.certificateText.toList := by
    rw [Sign1.toList_certificateText, List.mem_flatMap]
    rintro ⟨s, mem, there⟩
    have none_there : ∀ s ∈ Sign1.certificateLines, '\r' ∉ s.toList := by
      decide +kernel
    exact none_there s mem there
  exact Environment.text_eq rfl returns

theorem certifiedBy_certificateText : ∃ kid, CertifiedBy Sign1.certificateText
    (.octet .ed25519 Sign1.certificatePoint none) .edDSA kid := by
  obtain ⟨kid, fingerprint⟩ := Sign1.exists_fingerprint
  exact ⟨kid, Sign1.loadPublic_certificateText, rfl, fingerprint⟩

/-- The key identifier that is given last, by its alias, replaces the one before and the
fingerprint. -/
theorem header_of_options_kid :
    ∃ prot : Bucket, prot.find? .kid = some (.text "b") ∧
      Command.prepare.perform bareEnvironment (withParameters ["kid=a", "kid=b"]) =
        Command.prepare.reportOf bareEnvironment (withParameters ["kid=a", "kid=b"])
          (.fresh prot (.bytes [])) := by
  obtain ⟨kid, certified⟩ := certifiedBy_certificateText
  obtain ⟨prot, builds, -, last⟩ := header_of_options (g := withParameters ["kid=a", "kid=b"])
    rfl text_bareEnvironment certified
  have alike : ∀ p ∈ Label.kid.given (withParameters ["kid=a", "kid=b"]).items,
      ∀ q ∈ Label.kid.given (withParameters ["kid=a", "kid=b"]).items, p.1 = q.1 := by
    have given : Label.kid.given (withParameters ["kid=a", "kid=b"]).items =
        [(.text "kid", .text "a"), (.text "kid", .text "b")] := by rfl
    simp [given]
  exact ⟨prot, (last .kid alike).eq_some rfl (.other (by decide) _), builds _⟩

/-- The content type that is given last does not count if it is spelled like the first one and
another one is spelled otherwise. -/
theorem header_of_options_mixed :
    let g := withParameters ["3=a/b", "content type=c/d", "3=e/f"]
    (Label.contentType.given g.items).getLast? = some (.int 3, .text "e/f") ∧
      ∃ prot : Bucket, prot.find? .contentType = some (.text "c/d") ∧
        ∀ c : Command, c.perform bareEnvironment g =
          c.reportOf bareEnvironment g (.fresh prot (.bytes [])) := by
  intro g
  obtain ⟨kid, certified⟩ := certifiedBy_certificateText
  have labels : ∀ p ∈ g.items, p.1.IsLabel := fun p mem => (Given.isLabel_of_mem_items mem).1
  obtain ⟨prot, made⟩ := certified.exists_forCertificate labels g.items_write []
  have given : Label.contentType.given (certifiedDefaults .edDSA kid ++ g.items) =
      [(.int 3, .text "a/b"), (.text "content type", .text "c/d"), (.int 3, .text "e/f")] := by rfl
  have ruling : Label.contentType.ruling? (certifiedDefaults .edDSA kid ++ g.items) =
      some (.text "content type", .text "c/d") := by
    rw [Label.ruling?, given]
    simp [Value.same, Value.sameAtom]
  have holds := (certified.holds labels made).2 .contentType
  exact ⟨rfl, prot, holds.eq_some ruling (.other (by decide) _),
    perform_eq rfl text_bareEnvironment made⟩

end Command

end Cose.CommandLine
