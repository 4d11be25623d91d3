import Cose.Error
import Cose.Text.Integer
import Cose.Value.Basic

/-!
# Header parameters on the command line

A header parameter is given as a label and a value with an equals sign between them. Both are
integers where they spell one and texts otherwise.

## Main definitions

* `parseHeaderItem`: the label and the value of an item
-/

namespace Cose.CommandLine

/-- What stands before the first equals sign, and what follows it. -/
def splitEquals? : List Char → Option (List Char × List Char)
  | [] => none
  | '=' :: rest => some ([], rest)
  | c :: rest => (splitEquals? rest).map fun (before, after) => (c :: before, after)

/-- The integer that a text spells, or the text. -/
def spelled (s : String) : Value :=
  match Text.readInt? s with
  | some n => .int n
  | none => .text s

/-- **The label and the value of an item.** The label is not empty. -/
def parseHeaderItem (item : String) : Except Error (Value × Value) :=
  match splitEquals? item.toList with
  | some (c :: label, value) =>
    .ok (spelled (String.ofList (c :: label)), spelled (String.ofList value))
  | _ => .error (.argument (.headerItem item))

end Cose.CommandLine
