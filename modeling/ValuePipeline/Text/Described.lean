import ValuePipeline.Text.Quoted

/-!
# Descriptions

A thing is described by its kind and its parts: `Kind`, a brace, each part with
its name, a brace.  A list of parts stands in brackets.
-/

namespace ValuePipeline.Text

def listed (items : List String) : String :=
  "[" ++ String.intercalate ", " items ++ "]"

def described (kind : String) (parts : List (String × String)) : String :=
  if parts.isEmpty then kind
  else
    kind ++ " \x7b " ++
      String.intercalate ", " (parts.map fun (name, text) => name ++ ": " ++ text) ++ " \x7d"

end ValuePipeline.Text
