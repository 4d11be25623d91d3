import Cose.Text.Base64

/-!
# Textual encoding of keys and certificates

A text may hold blocks between boundary lines that name what the block is. Inside a block the
content is in base64, after an optional group of headers that ends with a blank line; text outside
blocks is ignored.

## Main definitions

* `Pem.Block`: a block
* `Pem.blocks?`: the blocks of a text
* `Pem.find?`: the first block with one of the given labels
-/

namespace Cose.Pem

/-- **A block**: its label, the names and values of its headers, and its content. -/
structure Block where
  label : String
  headers : List (String × String)
  content : Bytes

/-- What stands before the first occurrence of a pattern, and what follows it. -/
def splitAt? (pattern : List Char) : List Char → Option (List Char × List Char)
  | [] => if pattern.isEmpty then some ([], []) else none
  | c :: cs =>
    if pattern.isPrefixOf (c :: cs) then some ([], (c :: cs).drop pattern.length)
    else (splitAt? pattern cs).map fun (before, after) => (c :: before, after)

/-- Whether a character is skipped around boundary lines. -/
def isSpace (c : Char) : Bool :=
  c == ' ' || c == '\t' || c == '\n' || c == '\r'

/-- The lines of a text without blanks at their ends. -/
def lines (cs : List Char) : List (List Char) :=
  (cs.splitOn '\n').map fun line => (line.reverse.dropWhile isSpace).reverse

/-- The name and the value of a header line. -/
def header? (line : List Char) : Option (String × String) :=
  (splitAt? [':'] line).map fun (name, value) =>
    (String.ofList name, String.ofList (value.dropWhile isSpace))

/-- The headers of a block and the lines of its content. -/
def splitHeaders (body : List Char) : List Char × List Char :=
  match splitAt? ['\n', '\n'] body with
  | some split => split
  | none => (splitAt? ['\r', '\n', '\r', '\n'] body).getD ([], body)

/-- A block from the labels of its boundary lines and what stands between them. -/
def block? (label closing body : List Char) : Option Block := do
  guard (!label.isEmpty && label == closing)
  let (headers, text) := splitHeaders body
  let headers ← ((lines headers).filter fun line => !line.isEmpty).mapM header?
  let content ← Text.decode64? (lines text).flatten
  return ⟨String.ofList label, headers, content⟩

/-- The text behind the first opening boundary of a label, cut into the label, the body and the
closing label, and what follows. -/
def cut? (cs : List Char) : Option (List Char × List Char × List Char × List Char) := do
  let (_, rest) ← splitAt? "-----BEGIN ".toList cs
  let (label, rest) ← splitAt? "-----".toList rest
  let (body, rest) ← splitAt? "-----END ".toList (rest.dropWhile isSpace)
  let (closing, rest) ← splitAt? "-----".toList rest
  return (label, body, closing, rest)

/-- The blocks of a text, at most as many as the count, unless one of them is malformed. -/
def blocksUpTo? : Nat → List Char → Option (List Block)
  | 0, _ => some []
  | count + 1, cs =>
    match cut? cs with
    | none => some []
    | some (label, body, closing, rest) => do
      let block ← block? label closing body
      let blocks ← blocksUpTo? count rest
      return block :: blocks

/-- **The blocks of a text.** -/
def blocks? (s : String) : Option (List Block) :=
  blocksUpTo? s.length s.toList

/-- The first block with one of the given labels. -/
def find? (labels : List String) (s : String) : Option Block := do
  (← blocks? s).find? fun b => labels.contains b.label

end Cose.Pem
