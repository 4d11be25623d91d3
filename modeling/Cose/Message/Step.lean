import Cose.Error

/-!
# Steps

An operation on a message answers or fails, leaves the message in some state in either case, and
writes to the log. A step holds all three.

## Main definitions

* `LogLine`: a line of the log
* `Step`: what an operation leaves behind
-/

namespace Cose

/-- The levels of log lines. -/
inductive Level where
  | debug
  | warning
  | error
  | success
  deriving DecidableEq, Repr

/-- The name of a level. -/
def Level.name : Level → String
  | .debug => "DEBUG"
  | .warning => "WARNING"
  | .error => "ERROR"
  | .success => "SUCCESS"

/-- **A line of the log.** -/
structure LogLine where
  level : Level
  text : String
  deriving DecidableEq, Repr

/-- **What an operation leaves behind**: the object as it is afterwards, the answer or the error,
and the lines written to the log. -/
structure Step (σ α : Type) where
  after : σ
  result : Except Error α
  log : List LogLine := []

namespace Step

variable {σ τ α : Type}

/-- The step that fails and changes nothing. -/
def fail (s : σ) (e : Error) : Step σ α := ⟨s, .error e, []⟩

/-- A step with lines written before it. -/
def logging (lines : List LogLine) (step : Step σ α) : Step σ α :=
  { step with log := lines ++ step.log }

/-- A step on a part, seen as a step on the whole. -/
def within (put : σ → τ) (step : Step σ α) : Step τ α :=
  ⟨put step.after, step.result, step.log⟩

/-- The step of an operation that computes the new object and an answer, or fails and changes
nothing. -/
def ofExcept (s : σ) : Except Error (σ × α) → Step σ α
  | .ok (s, a) => ⟨s, .ok a, []⟩
  | .error e => fail s e

/-- The step of an operation that changes nothing. -/
def pure (s : σ) (r : Except Error α) : Step σ α := ⟨s, r, []⟩

@[simp] theorem fail_after (s : σ) (e : Error) : (fail s e : Step σ α).after = s := rfl

@[simp] theorem fail_result (s : σ) (e : Error) : (fail s e : Step σ α).result = .error e := rfl

@[simp] theorem fail_log (s : σ) (e : Error) : (fail s e : Step σ α).log = [] := rfl

@[simp] theorem logging_after (lines : List LogLine) (step : Step σ α) :
    (logging lines step).after = step.after := rfl

@[simp] theorem logging_result (lines : List LogLine) (step : Step σ α) :
    (logging lines step).result = step.result := rfl

@[simp] theorem logging_log (lines : List LogLine) (step : Step σ α) :
    (logging lines step).log = lines ++ step.log := rfl

@[simp] theorem within_after (put : σ → τ) (step : Step σ α) :
    (within put step).after = put step.after := rfl

@[simp] theorem within_result (put : σ → τ) (step : Step σ α) :
    (within put step).result = step.result := rfl

@[simp] theorem within_log (put : σ → τ) (step : Step σ α) :
    (within put step).log = step.log := rfl

end Step

end Cose
