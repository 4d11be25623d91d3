import Cose.CommandLine.Options
import Cose.Message.Certified
import Cose.Text.Json
import Cose.Text.Character

/-!
# Commands

The commands sign a file for a certificate, prepare and finish an offline signature, and verify a
message. A command reads its files and the standard input, and leaves an exit code or an error,
what it writes to the standard output, and the log.

## Main definitions

* `Command`, `Command.options`: the commands and their options
* `Environment`: what a command can read
* `Report`: what a command leaves behind
* `Command.run`: carrying a command out
-/

namespace Cose.CommandLine

/-- **The commands.** -/
inductive Command where
  | sign
  | prepare
  | finish
  | verify
  deriving DecidableEq, Repr

/-- **What a command can read**: files, the standard input, and entropy for signatures that are
not deterministic. -/
structure Environment where
  file : String → Except Error Bytes
  input : Bytes
  entropy : Bytes

/-- **What a command leaves behind.** The result is an exit code, or an error that the command does
not handle. -/
structure Report where
  result : Except Error Nat
  output : Bytes := []
  log : List LogLine := []

/-- How a command ends: refused or asking for help before it starts, or carried out. -/
inductive Ending where
  | refused
  | help
  | done (report : Report)

namespace Command

/-- The option of a given name that takes any value. -/
def valued (name : String) : OptionSpec := ⟨name, some fun _ => true⟩

/-- Whether a text is a header parameter. -/
def isHeaderItem (s : String) : Bool :=
  match parseHeaderItem s with
  | .ok _ => true
  | .error _ => false

/-- The options that all commands but the last share. -/
def commonOptions : List OptionSpec :=
  [valued "--content", valued "--signing-cert", ⟨"--header", some isHeaderItem⟩]

/-- The options of a command. -/
def options : Command → List OptionSpec
  | .sign => commonOptions ++ [valued "--signing-key", ⟨"--deterministic", none⟩]
  | .prepare => commonOptions
  | .finish => commonOptions ++ [valued "--signature"]
  | .verify => [valued "--cose", valued "--cert"]

/-- The options that a command requires. -/
def required : Command → List String
  | .sign => ["--content", "--signing-cert", "--signing-key"]
  | .prepare => ["--content", "--signing-cert"]
  | .finish => ["--content", "--signing-cert", "--signature"]
  | .verify => ["--cose", "--cert"]

end Command

/-- **The options that were given**, in order. -/
structure Given where
  values : List (String × String)

namespace Given

/-- The value of an option; the last one counts. -/
def value (g : Given) (name : String) : String :=
  (g.values.reverse.lookup name).getD ""

/-- Whether an option was given. -/
def has (g : Given) (name : String) : Bool :=
  g.values.any fun v => v.1 == name

/-- The header parameters that were given, as a map. -/
def header (g : Given) : Value :=
  let items := g.values.filterMap fun (name, item) =>
    if name = "--header" then (parseHeaderItem item).toOption else none
  .map (Value.ofEntries items)

end Given

namespace Environment

/-- The content of a file, or of the standard input for a dash. -/
def binary (env : Environment) (path : String) : Except Error Bytes :=
  if path = "-" then .ok env.input else env.file path

/-- The text of a file. -/
def text (env : Environment) (path : String) : Except Error String := do
  match Bytes.toText? (← env.file path) with
  | some s => return Text.unifyLines s
  | none => throw (.fault .utf8Text)

/-- The signature in a file: the member "value" of an object. -/
def signature (env : Environment) (path : String) : Except Error Value := do
  match Text.Json.read (← env.text path) with
  | .error fault => throw (.fault fault)
  | .ok (.object members) =>
    match Text.Json.member? "value" members with
    | none => throw (.fault .missingKey)
    | some (.text s) => return .text s
    | some _ => return .null
  | .ok _ => throw (.fault .type)

end Environment

namespace Report

/-- The report of a command that computes its output or fails. -/
def ofOutput (r : Except Error Bytes) (log : List LogLine := []) : Report :=
  match r with
  | .ok output => ⟨.ok 0, output, log⟩
  | .error e => ⟨.error e, [], log⟩

end Report

namespace OfflineRequest

/-- The text of a request. -/
def render (r : OfflineRequest) : String :=
  "\x7b\"alg\": \"" ++ r.algorithm ++ "\", \"value\": \"" ++ r.value ++ "\"\x7d"

end OfflineRequest

namespace Command

/-- Signs a file for a certificate. -/
def runSign [Key.Loader] [Crypto.Primitives] (env : Environment) (g : Given) : Report :=
  let read : Except Error (Bytes × String × String) := do
    let content ← env.binary (g.value "--content")
    let key ← env.text (g.value "--signing-key")
    return (content, key, ← env.text (g.value "--signing-cert"))
  match read with
  | .error e => .ofOutput (.error e)
  | .ok (content, key, certificate) =>
    let entropy := if g.has "--deterministic" then none else some env.entropy
    let (result, log) :=
      Sign1.createCertified (.bytes content) key certificate g.header entropy
    .ofOutput result log

/-- Prints what an offline signer has to sign. -/
def runPrepare [Key.Loader] (env : Environment) (g : Given) : Report :=
  .ofOutput do
    let content ← env.binary (g.value "--content")
    let certificate ← env.text (g.value "--signing-cert")
    let request ← Sign1.offlineRequest (.bytes content) certificate g.header
    return Bytes.ofText (OfflineRequest.render request)

/-- Puts a message together around a signature that was made offline. -/
def runFinish [Key.Loader] (env : Environment) (g : Given) : Report :=
  .ofOutput do
    let content ← env.binary (g.value "--content")
    let certificate ← env.text (g.value "--signing-cert")
    let signature ← env.signature (g.value "--signature")
    Sign1.finishOffline (.bytes content) certificate signature g.header

/-- The payload of a verified message, and the name of its algorithm. -/
def verified (m : Sign1) : Except Error (Bytes × String) := do
  let name := match ← m.prot.algorithm with
    | some alg => alg.name
    | none => "None"
  return (m.payload.bytes?.getD [], name)

/-- Verifies a message and prints its payload. -/
def runVerify [Cbor.Reader] [Key.Loader] [Crypto.Primitives] (env : Environment) (g : Given) :
    Report :=
  match env.text (g.value "--cert") with
  | .error e => .ofOutput (.error e)
  | .ok certificate =>
    let validated : Except Error (Bytes × String) := do
      let data ← env.binary (g.value "--cose")
      verified (← Sign1.validate certificate (.bytes data))
    match validated with
    | .ok (payload, name) =>
      .ofOutput (.ok payload) [⟨.success, s!"Verified COSE Sign1 signed with {name}"⟩]
    | .error e =>
      if e.isCose then ⟨.ok 1, [], [⟨.error, s!"Verification failed: {e.message}"⟩]⟩
      else .ofOutput (.error e)

/-- The options of a command whose values are paths of files. -/
def pathOptions : List String :=
  ["--content", "--signing-cert", "--signing-key", "--signature", "--cose", "--cert"]

/-- The paths that a command line names. -/
def paths (c : Command) (arguments : List String) : List String :=
  match parseOptions c.options arguments with
  | .ok values => (values.filter fun v => pathOptions.contains v.1).map Prod.snd
  | .error _ => []

/-- The command of a name. -/
def ofName? : String → Option Command
  | "sign" => some .sign
  | "prepare" => some .prepare
  | "finish" => some .finish
  | "verify" => some .verify
  | _ => none

/-- How a command is used: its required options, and the others that it knows. -/
def usage (c : Command) (name : String) : String :=
  let optional := (c.options.map OptionSpec.name).filter fun o => !c.required.contains o
  let words := c.required.map (· ++ " FILE") ++ optional.map fun o => "[" ++ o ++ "]"
  "usage: cose " ++ name ++ " " ++ " ".intercalate words

/-- Carries a command out with the options that were given. -/
def perform [Cbor.Reader] [Key.Loader] [Crypto.Primitives] :
    Command → Environment → Given → Report
  | .sign => runSign
  | .prepare => runPrepare
  | .finish => runFinish
  | .verify => runVerify

/-- **Carries a command line out**, unless an argument is refused or a required option is
missing. -/
def run [Cbor.Reader] [Key.Loader] [Crypto.Primitives] (c : Command) (env : Environment)
    (arguments : List String) : Ending :=
  match parseOptions c.options arguments with
  | .error .help => .help
  | .error .refused => .refused
  | .ok values =>
    let given : Given := ⟨values⟩
    if c.required.all given.has then .done (c.perform env given) else .refused

end Command

end Cose.CommandLine
