import Cose.CommandLine.HeaderItem
import Cose.Text.Character

/-!
# Options

A command line is a list of options, each with a value or without. A value stands behind an equals
sign or is the next argument; the name of an option may be cut short as long as it stays
unambiguous. An argument that starts with a dash is no value of its own, unless it is a number or
has a space in it. Arguments that belong to no option are refused.

## Main definitions

* `OptionSpec`: an option that a command knows
* `Argument`, `classify`: what an argument is on its own
* `parseOptions`: the options of a command line and their values
-/

namespace Cose.CommandLine

/-- **An option that a command knows**: its name with the dashes, and which values it takes, if it
takes one. -/
structure OptionSpec where
  name : String
  accepts : Option (String → Bool)

/-- Why a command line is not carried out: it asks for help, or it is refused. -/
inductive Stop where
  | help
  | refused
  deriving DecidableEq, Repr

/-- What an argument is on its own: an option with what stands behind its equals sign, the request
for help, something that may be a value, or neither. -/
inductive Argument where
  | option (spec : OptionSpec) (value : Option String)
  | help
  | plain (s : String)
  | stray

/-- The option that asks for help. -/
def helpName : String := "--help"

/-- Whether a text is a number with a minus sign. -/
def isNegativeNumber (cs : List Char) : Bool :=
  let isDigit (c : Char) : Bool := (Text.digitValue? c).isSome
  match cs with
  | '-' :: rest =>
    match rest.dropWhile isDigit with
    | [] => !rest.isEmpty
    | '.' :: fraction => !fraction.isEmpty && fraction.all isDigit
    | _ => false
  | _ => false

/-- The options whose name starts with a text, the option for help among them. -/
def matching (specs : List OptionSpec) (start : String) : List (Option OptionSpec) :=
  let known := specs.filter fun o => start.toList.isPrefixOf o.name.toList
  (if start.toList.isPrefixOf helpName.toList then [none] else []) ++ known.map some

/-- The option that a text names in full. -/
def exactly? (specs : List OptionSpec) (name : String) : Option (Option OptionSpec) :=
  if name = helpName then some none
  else (specs.find? fun o => o.name == name).map some

/-- An option, or the request for help, with what stands behind its equals sign. Help has no
value. -/
def Argument.ofMatch (value : Option String) : Option OptionSpec → Except Stop Argument
  | some spec => .ok (.option spec value)
  | none => .ok (if value.isNone then .help else .option ⟨helpName, none⟩ value)

/-- What an argument that names no option is. -/
def classifyOther (s : String) : Argument :=
  if isNegativeNumber s.toList || s.toList.contains ' ' then .plain s else .stray

/-- What an argument that starts with two dashes is. An ambiguous name is refused. -/
def classifyLong (specs : List OptionSpec) (s : String) : Except Stop Argument :=
  let (name, value) := match splitEquals? s.toList with
    | some (before, after) => (String.ofList before, some (String.ofList after))
    | none => (s, none)
  match exactly? specs name with
  | some found => Argument.ofMatch value found
  | none =>
    match matching specs name with
    | [found] => Argument.ofMatch value found
    | [] => .ok (classifyOther s)
    | _ => .error .refused

/-- **What an argument is on its own.** -/
def classify (specs : List OptionSpec) (s : String) : Except Stop Argument :=
  match s.toList with
  | '-' :: '-' :: _ => classifyLong specs s
  | '-' :: 'h' :: '=' :: _ => .ok (.option ⟨helpName, none⟩ (some ""))
  | '-' :: 'h' :: _ => .ok .help
  | '-' :: _ :: _ => .ok (classifyOther s)
  | _ => .ok (.plain s)

/-- What arguments are. Behind two dashes that stand alone there are no options. -/
def classifyAll (specs : List OptionSpec) : List String → Except Stop (List Argument)
  | [] => .ok []
  | "--" :: rest => .ok (.stray :: rest.map .plain)
  | s :: rest => do
    let a ← classify specs s
    let others ← classifyAll specs rest
    return a :: others

/-- An option with its value, unless the value is not accepted. -/
def accept (spec : OptionSpec) (value : String) : Except Stop (String × String) :=
  match spec.accepts with
  | some accepts => if accepts value then .ok (spec.name, value) else .error .refused
  | none => .error .refused

/-- The options among arguments and their values, and whether all arguments belong to options. -/
def consume : List Argument → Except Stop (List (String × String) × Bool)
  | [] => .ok ([], true)
  | .help :: _ => .error .help
  | .plain _ :: rest | .stray :: rest => (consume rest).map fun (found, _) => (found, false)
  | .option spec (some value) :: rest => do
    let given ← accept spec value
    let (found, complete) ← consume rest
    return (given :: found, complete)
  | .option spec none :: .plain value :: rest => do
    match spec.accepts with
    | some _ =>
      let given ← accept spec value
      let (found, complete) ← consume rest
      return (given :: found, complete)
    | none =>
      let (found, _) ← consume rest
      return ((spec.name, "") :: found, false)
  | .option spec none :: rest => do
    match spec.accepts with
    | some _ => throw .refused
    | none =>
      let (found, complete) ← consume rest
      return ((spec.name, "") :: found, complete)

/-- **The options of a command line and their values**, in order. -/
def parseOptions (specs : List OptionSpec) (arguments : List String) :
    Except Stop (List (String × String)) := do
  let (found, complete) ← consume (← classifyAll specs arguments)
  if complete then return found else throw .refused

end Cose.CommandLine
