import Cose.CommandLine.Command

/-!
# The program

The first argument names a command, the others are its options. Output goes to the standard output,
the log to the standard error. The exit code is two for a command line that is refused, and one for
an error.

## Main definitions

* `main`: the program
-/

namespace Cose.CommandLine

/-- The files at the given paths that can be read. -/
def readFiles (paths : List String) : IO (List (String × Bytes)) :=
  paths.filterMapM fun (path : String) => do
    try
      let content ← IO.FS.readBinFile path
      return some (path, content.toList)
    catch _ => return none

/-- What a command with the given arguments can read. -/
def Environment.read (c : Command) (arguments : List String) : IO Environment := do
  let paths := c.paths arguments
  let files ← readFiles paths
  let input ← if paths.contains "-" then (← IO.getStdin).readBinToEnd else pure ByteArray.empty
  let entropy ← IO.getRandomBytes 32
  let file (path : String) : Except Error Bytes :=
    match files.lookup path with
    | some content => .ok content
    | none => .error (.fault .noFile)
  return ⟨file, input.toList, entropy.toList⟩

/-- Writes what a command leaves behind, and answers with the exit code. -/
def Report.write (r : Report) : IO UInt32 := do
  for line in r.log do
    IO.eprintln line.text
  let output ← IO.getStdout
  output.write ⟨r.output.toArray⟩
  output.flush
  match r.result with
  | .ok code => return UInt32.ofNat code
  | .error e =>
    IO.eprintln e.message
    return 1

/-- Carries out the command of a name. -/
def start (name : String) (arguments : List String) : IO UInt32 := do
  match Command.ofName? name with
  | none =>
    IO.eprintln "usage: cose sign|prepare|finish|verify ..."
    return 2
  | some c =>
    match c.run (← Environment.read c arguments) arguments with
    | .help =>
      IO.println (c.usage name)
      return 0
    | .refused =>
      IO.eprintln (c.usage name)
      return 2
    | .done report => report.write

end Cose.CommandLine

/-- **The program.** -/
def main (arguments : List String) : IO UInt32 :=
  match arguments with
  | name :: rest => Cose.CommandLine.start name rest
  | [] => Cose.CommandLine.start "" []
