import Cose.Message.Agent
import Cose.Message.Payload
import Cose.Proofs.Except
import Cose.Structure

/-!
# Classes of errors

What goes wrong with headers, with the data that is to be covered, or beneath, is a technical error.
It says nothing about a signature, and nothing about what was done with a message before. All that
precedes the use of a key fails with technical errors only, and the rules for headers only with
errors about headers.

## Main definitions

* `Fails`: operations that fail with errors of a class only
* `Error.isTechnical`, `Technical`: errors that are neither about a signature nor about the state of
  a message, and operations that fail with these only
* `Error.isHeader`: errors about headers
* `Agent.Proper`: agents that fail with technical errors only and make no empty signature

## Main results

* `Bucket.isHeader_validate`, `Layer.isHeader_check`: the rules for headers
* `Bucket.technical_encode`, `Layer.technical_prepare`: what precedes signing
* `sigStructure_technical`, `macStructure_technical`: what is covered
-/

namespace Cose

/-- **An operation fails with errors of a class only.** -/
def Fails {α : Type} (P : Error → Bool) (x : Except Error α) : Prop :=
  ∀ e, x = .error e → P e = true

namespace Fails

variable {α β : Type} {P Q : Error → Bool}

theorem ok (a : α) : Fails P (.ok a) := by
  rintro e ⟨⟩

theorem error {e : Error} (h : P e = true) : Fails P (.error e : Except Error α) := by
  rintro e' ⟨⟩
  exact h

theorem bind {x : Except Error α} {f : α → Except Error β} (hx : Fails P x)
    (hf : ∀ a, Fails P (f a)) : Fails P (x >>= f) := by
  cases x with
  | error e => exact error (hx e rfl)
  | ok a => exact hf a

theorem map {x : Except Error α} (hx : Fails P x) (f : α → β) : Fails P (x.map f) := by
  cases x with
  | error e => exact error (hx e rfl)
  | ok a => exact ok (f a)

theorem mapM {f : α → Except Error β} {xs : List α} (h : ∀ x ∈ xs, Fails P (f x)) :
    Fails P (xs.mapM f) := by
  induction xs with
  | nil => exact ok _
  | cons x xs ih =>
    rw [List.forall_mem_cons] at h
    rw [List.mapM_cons]
    exact h.1.bind fun y => (ih h.2).bind fun ys => ok _

theorem mono {x : Except Error α} (hx : Fails P x) (le : ∀ e, P e = true → Q e = true) :
    Fails Q x :=
  fun e failed => le e (hx e failed)

end Fails

/-- A label that cannot be written makes another error of an error. -/
theorem Error.writing_of {P : Error → Bool} {e : Error} (h : P e = true)
    (unwritable : P (.fault .value) = true) (writable : Bool) :
    P (Error.writing writable e) = true := by
  cases writable with
  | true => exact h
  | false => exact unwritable

/-! ## Technical errors -/

/-- An error is technical: it is neither about a signature nor about the state of a message, and
no key of a caller raised it. -/
def Error.isTechnical : Error → Bool
  | .verification _ | .verificationFailed _ | .state _ | .raised .. => false
  | _ => true

theorem Error.refusal?_of_isTechnical {e : Error} (h : e.isTechnical = true) :
    e.refusal? = none := by
  cases e <;> first | rfl | cases h

/-- The errors of an operation are technical. -/
abbrev Technical {α : Type} (x : Except Error α) : Prop :=
  Fails Error.isTechnical x

theorem Technical.ne_state {α : Type} {x : Except Error α} (hx : Technical x) (f : StateFault) :
    x ≠ .error (.state f) := by
  intro failed
  cases hx _ failed

/-- What identifies no algorithm is unknown, unless it is an integer that cannot be written. -/
theorem Registry.fails_lookup {P : Error → Bool} (r : Registry)
    (rule : ∀ f, P (.unknownAlgorithm f) = true) (unwritable : P (.fault .value) = true)
    (id : Value) : Fails P (r.lookup id) := by
  fun_cases Registry.lookup r id
  case case5 => exact .error (Error.writing_of (rule _) unwritable _)
  all_goals first | exact .ok _ | exact .error (rule _)

theorem Registry.technical_lookup (r : Registry) (id : Value) : Technical (r.lookup id) :=
  r.fails_lookup (fun _ => rfl) rfl id

theorem byteField_technical (name : String) (v : Value) : Technical (byteField name v) := by
  fun_cases byteField name v
  all_goals first | exact .ok _ | exact .error rfl

theorem sigStructure_technical (context : String) (body signer aad payload : Value) :
    Technical (sigStructure context body signer aad payload) := by
  rw [sigStructure]
  split
  · refine (byteField_technical _ _).bind fun b => ?_
    split
    · exact .error rfl
    · exact (byteField_technical _ _).bind fun _ => (byteField_technical _ _).bind fun _ =>
        (byteField_technical _ _).bind fun _ => .ok _
  split
  · refine (byteField_technical _ _).bind fun b => ?_
    split
    · exact (byteField_technical _ _).bind fun _ =>
        (byteField_technical _ _).bind fun _ => .ok _
    · exact .error rfl
  · exact .error rfl

theorem macStructure_technical (context : String) (prot aad payload : Value) :
    Technical (macStructure context prot aad payload) := by
  rw [macStructure]
  split
  · exact (byteField_technical _ _).bind fun _ => (byteField_technical _ _).bind fun _ =>
      (byteField_technical _ _).bind fun _ => .ok _
  · exact .error rfl

theorem operationLine_technical (what : String) (alg : Algorithm) (kid : Value) :
    Technical (operationLine what alg kid) := by
  refine Fails.bind ?_ fun _ => .ok _
  rw [Value.literal?]
  split
  · exact .ok _
  · exact .error rfl

/-! ## Headers -/

/-- An error is about headers: they break a rule, or one of their labels cannot be written. -/
def Error.isHeader : Error → Bool
  | .header _ | .fault .value => true
  | _ => false

theorem Fails.technical {α : Type} {x : Except Error α} (h : Fails Error.isHeader x) :
    Technical x :=
  h.mono fun e header => by cases e <;> first | rfl | cases header

section Received

variable {P : Error → Bool} (rule : ∀ f, P (.decode f) = true)

include rule

/-- The elements of a message and its payload are refused with errors about what was received, or
with an error of the reader that is none of types. -/
theorem fails_decodeTagged [Cbor.Reader] (shape : Shape) {data : Value}
    (lets : ∀ b fault, data.bytes? = some b → Cbor.Raises b fault →
      fault.kind.isA .type = false → P (.fault fault) = true) :
    Fails P (decodeTagged shape data) := by
  fun_cases decodeTagged shape data
  case case3 fault failed untyped =>
    rw [readData] at failed
    split at failed
    · next b bytes => exact .error (lets b fault bytes failed (by simpa using untyped))
    · cases failed
      exact absurd rfl untyped
  all_goals first | exact .ok _ | exact .error (rule _)

theorem fails_decodePayload (payload : Value) : Fails P (decodePayload payload) := by
  fun_cases decodePayload payload
  all_goals first | exact .ok _ | exact .error (rule _)

end Received

theorem Label.fails_ofValue {P : Error → Bool} (rule : ∀ f, P (.header f) = true) (v : Value) :
    Fails P (Label.ofValue v) := by
  cases v <;> first | exact .ok _ | exact .error (rule _)

namespace Bucket

variable (b : Bucket)

theorem technical_algorithm : Technical b.algorithm := by
  rw [algorithm]
  split
  · exact .ok _
  · exact (Registry.technical_lookup _ _).map _

theorem technical_checkAlgorithm (alg : Value) : Technical (b.checkAlgorithm alg) := by
  refine (technical_algorithm b).bind fun named => ?_
  cases named with
  | none => exact .ok _
  | some named =>
    simp only
    split
    · exact .ok _
    · exact .error (Error.writing_of rfl rfl _)

theorem isHeader_criticalLabelFault {v : Value} {e : Error}
    (h : b.criticalLabelFault? v = some e) : e.isHeader = true := by
  rw [criticalLabelFault?] at h
  split at h
  next e' spelled =>
    cases h
    cases v <;> cases spelled <;> rfl
  · simp only at h
    split at h
    · cases h
    · cases h
      exact Error.writing_of rfl rfl _

theorem isHeader_criticalFault {v : Value} {e : Error} (h : b.criticalFault? v = some e) :
    e.isHeader = true := by
  unfold criticalFault? at h
  split at h
  · cases h
    rfl
  split at h
  · cases h
    rfl
  · obtain ⟨v, -, fault⟩ := List.exists_of_findSome?_eq_some h
    exact isHeader_criticalLabelFault b fault
  · cases h
    rfl

theorem isHeader_entryFault {entry : Label × Value} {e : Error}
    (h : b.entryFault? entry = some e) : e.isHeader = true := by
  obtain ⟨l, v⟩ := entry
  by_cases critical : l = .crit
  · subst critical
    exact isHeader_criticalFault b h
  · rw [entryFault?, if_neg critical] at h
    grind [Error.isHeader]

theorem isHeader_validate : Fails Error.isHeader b.validate := by
  rw [validate]
  split
  next e fault =>
    obtain ⟨entry, -, fault⟩ := List.exists_of_findSome?_eq_some fault
    exact .error (isHeader_entryFault b fault)
  · split
    · exact .error rfl
    · exact .ok _

theorem technical_encode : Technical b.encode := by
  rw [encode]
  split
  · exact .error rfl
  split
  · exact .ok _
  split
  · exact .ok _
  · refine (isHeader_validate b).technical.bind fun _ => ?_
    split
    · exact .ok _
    · exact .error rfl

section Changes

variable {P : Error → Bool} (rule : ∀ f, P (.header f) = true)

include rule

/-- Setting a parameter fails with errors about headers, whatever integers they have in them. -/
theorem fails_set (label value : Value) : Fails P (b.set label value) := by
  have mutable : Fails P b.checkMutable := by
    rw [checkMutable]
    split
    · exact .error (rule _)
    · exact .ok _
  have normalized : Fails P (normalizeAlgorithm value) := by
    fun_cases normalizeAlgorithm value
    all_goals first | exact .ok _ | exact .error (rule _)
  refine mutable.bind fun _ => (Label.fails_ofValue rule label).bind fun l => ?_
  split
  · exact normalized.bind fun _ => .ok _
  · exact .ok _

theorem fails_update (ps : List (Value × Value)) : Fails P (b.update (ps.map .ok)).2 := by
  induction ps generalizing b with
  | nil => exact .ok _
  | cons p ps ih =>
    rw [List.map_cons, update]
    split
    · exact ih _
    · next failed => exact .error (fails_set b rule p.1 p.2 _ failed)

theorem fails_ofSource (isProtected : Bool) : Fails P (ofSource isProtected (.bucket b)) := by
  rw [ofSource]
  split
  · rw [updateFrom, Source.parameters]
    split
    · exact .ok _
    · next failed => exact .error (fails_update _ rule _ _ (congrArg Prod.snd failed))
  · exact .ok _

end Changes

end Bucket

theorem isHeader_checkBuckets (prot unprot : Bucket) :
    Fails Error.isHeader (checkBuckets prot unprot) := by
  refine (Bucket.isHeader_validate unprot).bind fun _ => ?_
  simp only
  split
  · exact .error (Error.writing_of rfl rfl _)
  · split
    · exact .error rfl
    · exact .ok _

namespace Layer

variable (h : Layer)

/-- **The rules for a layer** fail with errors about headers only. -/
theorem isHeader_check : Fails Error.isHeader h.check :=
  (Bucket.isHeader_validate h.prot).bind fun _ => isHeader_checkBuckets _ _

theorem technical_withAlgorithm (alg : Value) : Technical (h.withAlgorithm alg) := by
  refine (Bucket.technical_checkAlgorithm h.prot alg).bind fun _ => ?_
  split
  · exact .ok _
  · refine Fails.technical ?_
    have rule (f : HeaderFault) : Error.isHeader (.header f) = true := rfl
    exact (Bucket.fails_ofSource h.prot rule true).bind fun copy =>
      (Bucket.fails_set copy rule _ alg).bind fun filled =>
        (isHeader_checkBuckets filled h.unprot).bind fun _ => .ok _

/-- What precedes signing and tagging: the rules, the bucket to sign and the log line. -/
theorem technical_prepare {alg : Except Error Algorithm} (known : Technical alg) (what : String) :
    Technical (do
      let alg ← alg
      h.check
      let prot ← h.withAlgorithm (.algorithm alg)
      prot.validate
      let line ← operationLine what alg h.kid
      return (prot, line)) := by
  apply Fails.bind known
  intro alg
  apply Fails.bind h.isHeader_check.technical
  intro _
  apply Fails.bind (h.technical_withAlgorithm _)
  intro prot
  apply Fails.bind prot.isHeader_validate.technical
  intro _
  exact (operationLine_technical _ _ _).bind fun _ => .ok _

end Layer

/-! ## Agents -/

namespace Agent

/-- An agent works properly: no signature and no tag that it makes is empty, and when it makes
none it says so with technical errors. -/
structure Proper (agent : Agent) : Prop where
  algorithm : Technical agent.algorithm
  sign : ∀ data, Technical (agent.sign data)
  createTag : ∀ data, Technical (agent.createTag data)
  signature_ne : ∀ data signature, agent.sign data = .ok signature → signature ≠ []
  tag_ne : ∀ data tag, agent.createTag data = .ok tag → tag ≠ []

variable {agent : Agent}

theorem technical_signatureAlgorithm (known : Technical agent.algorithm) (shape : Shape) :
    Technical (agent.signatureAlgorithm shape) := by
  refine known.bind fun alg => ?_
  split
  · exact .ok _
  · exact .error rfl

theorem technical_macAlgorithm (known : Technical agent.algorithm) :
    Technical agent.macAlgorithm := by
  refine known.bind fun alg => ?_
  split
  · exact .ok _
  · exact .error rfl

end Agent

end Cose
