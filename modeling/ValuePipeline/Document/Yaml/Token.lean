/-!
# Tokens of YAML

Besides the marks that are written there are tokens for what the indentation
says: where a list or a table without brackets starts and where it ends, and which
scalar is a key.
-/

namespace ValuePipeline.Yaml

/-- How a scalar is written: without quotes, as a block that keeps its lines, or otherwise. -/
inductive ScalarStyle where
  | plain
  | literal
  | quoted
  deriving DecidableEq, Repr

inductive Token where
  | versionDirective (major minor : Nat)
  | tagDirective (handle tagStart : String)
  | documentStart
  | documentEnd
  | streamEnd
  | blockListStart
  | blockTableStart
  | blockEnd
  | blockItem
  | flowListStart
  | flowListEnd
  | flowTableStart
  | flowTableEnd
  | flowItem
  | key
  | value
  | alias (name : String)
  | anchor (name : String)
  | tag (handle suffix : String)
  | scalar (text : String) (style : ScalarStyle)
  deriving DecidableEq, Repr

end ValuePipeline.Yaml
