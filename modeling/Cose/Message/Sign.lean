import Cose.Message.Resolver

/-!
# Messages with several signers

A COSE_Sign message is a layer of headers, a payload and entries, one for each signer, in an order
that matters. Signing signs every entry or none. Verification checks every entry and reports the
outcome of each.

## Main definitions

* `Sign`: a message with several signers
* `Sign.add`, `Sign.sign`, `Sign.verify`: adding entries, signing and verifying
* `Sign.encode`, `Sign.decode`: the encoded form
-/

namespace Cose

/-- **A message with several signers.** -/
structure Sign extends Layer where
  payload : Value
  entries : List Entry
  state : State

namespace Sign

/-- The state of a message with the given entries: signed once there are entries and all of them
are. -/
def stateFor (entries : List Entry) : State :=
  if !entries.isEmpty && entries.all Entry.isSigned then .signed else .unsigned

/-- A new message. -/
def ofSources (payload : Value) (prot unprot : Source) (entries : List Entry := []) :
    Except Error Sign := do
  let layer ← Layer.ofSources prot unprot
  let payload ← checkPayload payload
  return { layer with payload, entries, state := stateFor entries }

/-- The text of a message in messages. -/
def literal (m : Sign) : Except Error String := do
  let p ← m.prot.literal
  let u ← m.unprot.literal
  let payload ← sizeText m.payload
  return s!"<COSE_Sign: [{p}, {u}, {payload}, {m.entries.length} signatures]>"

/-- Adds an entry to a message that is not signed yet. -/
def add (m : Sign) (entry : Entry) : Step Sign Unit :=
  if m.state ≠ .unsigned then .fail m (.state (.addIn m.state))
  else ⟨{ m with entries := m.entries ++ [entry] }, .ok (), []⟩

/-- The work on an entry that precedes signing or verifying it: finding its agent, and the log
line. -/
def approach (what : String) (resolve : Resolver) (index : Nat) (entry : Entry) :
    Except Error (Agent × LogLine) := do
  let agent ← resolve index entry
  let alg ← agent.algorithm
  let line ← operationLine s!"{what} signature {index}" alg entry.kid
  return (agent, line)

/-- The signatures of entries in order, up to the first error. -/
def computeAll (resolve : Resolver) (body payload aad : Value) :
    Nat → List Entry → Except Error (List (Bucket × Bytes)) × List LogLine
  | _, [] => (.ok [], [])
  | index, entry :: entries =>
    match approach "Signing" resolve index entry with
    | .error e => (.error e, [])
    | .ok (agent, line) =>
      let computed : Except Error (Bucket × Bytes) := do
        entry.check
        entry.compute agent body payload aad
      match computed with
      | .error e => (.error e, [line])
      | .ok result =>
        let (results, lines) := computeAll resolve body payload aad (index + 1) entries
        (results.map (result :: ·), line :: lines)

/-- Commits the signatures of entries in order. -/
def commitAll : List Entry → List (Bucket × Bytes) → Step (List Entry) Unit
  | entry :: entries, (prot, signature) :: results =>
    let step := entry.commit prot (.bytes signature)
    match step.result with
    | .error e => .fail (step.after :: entries) e
    | .ok () => (commitAll entries results).within (step.after :: ·)
  | entries, _ => ⟨entries, .ok (), []⟩

/-- **Signs every entry**, or none on the first error. -/
def sign (m : Sign) (keys : Keys) (aad : Value := .bytes []) : Step Sign Unit :=
  if m.entries.isEmpty then .fail m .noSignatures
  else if m.state ≠ .unsigned then .fail m (.state (.signIn m.state))
  else match m.check with
    | .error e => .fail m e
    | .ok () =>
      let settled : Except Error (Resolver × Bytes) := do
        let resolve ← keys.resolver m.entries.length
        return (resolve, ← m.prot.encode)
      match settled with
      | .error e => .fail { m with state := .unsigned } e
      | .ok (resolve, body) =>
        let (results, lines) := computeAll resolve (.bytes body) m.payload aad 0 m.entries
        Step.logging lines <|
          match results with
          | .error e => .fail { m with state := .unsigned } e
          | .ok results =>
            match m.prot.finalize with
            | .error e => .fail { m with state := .signing } e
            | .ok (prot, _) =>
              let step := commitAll m.entries results
              let state := match step.result with
                | .ok () => State.signed
                | .error _ => State.signing
              step.within fun entries => { m with prot, entries, state }

/-- The outcomes of checking entries in order, up to the first error that is no refusal. -/
def verifyAll (resolve : Resolver) (body payload aad : Value) :
    Nat → List Entry → Except Error (List Outcome) × List LogLine
  | _, [] => (.ok [], [])
  | index, entry :: entries =>
    match approach "Verifying" resolve index entry with
    | .error e => (.error e, [])
    | .ok (agent, line) =>
      match refusalOf (entry.verify agent body payload aad) with
      | .error e => (.error e, [line])
      | .ok refusal =>
        let noted := match refusal with
          | none => [line]
          | some r =>
            [line, ⟨.warning, s!"Signature {index} failed verification: {r.message}"⟩]
        let (outcomes, lines) := verifyAll resolve body payload aad (index + 1) entries
        (outcomes.map (⟨index, refusal⟩ :: ·), noted ++ lines)

/-- **Verifies every entry.** The answer has the outcome of each; if one of them is a refusal,
they are the error. -/
def verify (m : Sign) (keys : Keys) (aad : Value := .bytes []) : Step Sign (List Outcome) :=
  if m.entries.isEmpty then .fail m .noSignatures
  else
    let settled : Except Error (Resolver × Bytes) := do
      let resolve ← keys.resolver m.entries.length
      return (resolve, ← m.prot.encode)
    match settled with
    | .error e => .fail m e
    | .ok (resolve, body) =>
      let (outcomes, lines) := verifyAll resolve (.bytes body) m.payload aad 0 m.entries
      Step.logging lines <|
        match outcomes with
        | .error e => .fail m e
        | .ok outcomes =>
          if outcomes.all fun o => o.refusal.isNone then
            ⟨{ m with state := .verified }, .ok outcomes, []⟩
          else .fail { m with state := .verificationFailed } (.verificationFailed outcomes)

/-- The encoded form of a message, which has entries. -/
def encode (m : Sign) : Except Error Bytes := do
  if m.entries.isEmpty then throw .noSignatures
  let headers ← m.toLayer.encode
  let entries ← m.entries.mapM Entry.encode
  encodeTagged .sign (headers ++ [m.payload, .list (entries.map .list)])

/-- **A message from its encoded form.** -/
def decode [Cbor.Reader] (data : Value) : Except Error Sign := do
  let (prot, unprot, payload, entries) ← decodeTagged .sign data
  let layer ← Layer.decode prot unprot
  match entries with
  | .list (x :: xs) =>
    let payload ← decodePayload payload
    let entries ← (x :: xs).mapM Entry.decode
    return { layer with payload, entries, state := stateFor entries }
  | _ => throw (.decode .noEntries)

end Sign

end Cose
