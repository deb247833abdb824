import ValuePipeline.Document.Record
import ValuePipeline.Document.Yaml.Scan
import ValuePipeline.Document.Yaml.Tree

/-!
# YAML

A text is cut into tokens and the tokens are put together to the tree of its one
document.  So that links cannot make a small document a huge one, they may be
followed a hundred times for each mark in it.
-/

namespace ValuePipeline.Yaml

/-- How many links may be followed for each mark of a document. -/
def linksPerMark : Nat := 100

def anchorTable (anchored : List Anchored) : List (Nat × Node) :=
  (anchored.mergeSort fun a b => a.order ≥ b.order).map fun anchor =>
    (anchor.number, anchor.node)

def parse? (text : String) : Option Document := do
  let tokens ← tokens? text
  let (root, parser) ← (Parse.stream (6 * (tokens.length + 1))).run { tokens }
  return {
    root
    anchors := anchorTable parser.anchored
    links := linksPerMark * weight root }

/-- A label may stand before nothing. -/
def isUnit : Node → Bool
  | .plain word _ => word.isEmpty || Plain.isNullWord word
  | _ => false

def dialect : Dialect where
  positional := .never
  wordTables := false
  isUnit := isUnit
  depth := 128

end ValuePipeline.Yaml
