import Cose.Text.Integer

/-!
# Header labels

A header parameter is addressed by an integer or a text. The common parameters have a text alias
beside their integer, and the integer is their canonical label.

## Main definitions

* `Label`: an integer or a text
* `Label.common`: the aliases and the integers of the common parameters
* `Label.ofText`: the canonical label of a text
* `Label.name`: how a label is written in messages
-/

namespace Cose

/-- **A header label.** -/
inductive Label where
  | int (n : Int)
  | text (s : String)
  deriving DecidableEq, Repr

namespace Label

def alg : Label := .int 1
def crit : Label := .int 2
def contentType : Label := .int 3
def kid : Label := .int 4
def iv : Label := .int 5
def partialIv : Label := .int 6
def counterSignature : Label := .int 7

/-- The common header parameters, by alias. -/
def common : List (String × Label) :=
  [("alg", alg), ("crit", crit), ("content type", contentType), ("kid", kid), ("IV", iv),
    ("Partial IV", partialIv), ("counter signature", counterSignature)]

/-- The canonical label of a text: the integer of a common parameter for its alias, the text
itself otherwise. -/
def ofText (s : String) : Label :=
  (common.lookup s).getD (.text s)

/-- A label as it was given, without its alias. -/
def spelling : Label → String
  | .int n => toString n
  | .text s => s

/-- How a label is written in messages: by the alias of a common parameter. -/
def name (l : Label) : String :=
  ((common.find? fun entry => entry.2 == l).map Prod.fst).getD l.spelling

/-- Whether a label can be written in a message. -/
def isWritable : Label → Bool
  | .int n => Text.isWritable n
  | .text _ => true

end Label

end Cose
