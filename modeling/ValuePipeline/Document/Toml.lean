import ValuePipeline.Document.Record
import ValuePipeline.Document.Toml.Scalar
import ValuePipeline.Document.Toml.Table
import ValuePipeline.Document.Toml.Text

/-!
# TOML

A document is a list of lines: headers, and pairs of a path and a value.  Lists and
tables between braces may go over several lines.
-/

namespace ValuePipeline.Toml

/-! ## Values -/

def listItems (value : List Char → Option (Node × List Char)) :
    Nat → List Char → Option (List Node × List Char)
  | 0, _ => none
  | fuel + 1, chars => do
      match ← skipLines false chars with
      | ']' :: rest => return ([], rest)
      | chars =>
          let (item, rest) ← value chars
          match ← skipLines false rest with
          | ']' :: rest => return ([item], rest)
          | ',' :: rest =>
              let (items, rest) ← listItems value fuel rest
              return (item :: items, rest)
          | _ => failure

def pair (value : List Char → Option (Node × List Char)) (chars : List Char) :
    Option (List String × Node × List Char) := do
  let (path, rest) ← path? chars
  match rest with
  | '=' :: rest =>
      let (node, rest) ← value (skipBlanks rest)
      return (path, node, rest)
  | _ => failure

def tablePairs (value : List Char → Option (Node × List Char)) :
    Nat → Members → List Char → Option (Members × List Char)
  | 0, _, _ => none
  | fuel + 1, members, chars => do
      match ← skipLines false chars with
      | '\x7d' :: rest => return (members, rest)
      | chars =>
          let (path, node, rest) ← pair value chars
          let members ← addPair path node members
          match ← skipLines false rest with
          | '\x7d' :: rest => return (members, rest)
          | ',' :: rest => tablePairs value fuel members rest
          | _ => failure

def value : Nat → List Char → Option (Node × List Char)
  | depth, '[' :: rest =>
      match depth with
      | 0 => none
      | depth + 1 => do
          let (items, rest) ← listItems (value depth) (rest.length + 1) rest
          return (.list items, rest)
  | depth, '\x7b' :: rest =>
      match depth with
      | 0 => none
      | depth + 1 => do
          let (members, rest) ← tablePairs (value depth) (rest.length + 1) [] rest
          return (.table (memberNodes members), rest)
  | _, c :: rest =>
      if c = '"' ∨ c = '\'' then do
        let (chars, rest) ← quotedText? (c :: rest)
        return (.text (String.ofList chars), rest)
      else scalar? (c :: rest)
  | _, [] => none

def maxDepth : Nat := 80

/-! ## Documents -/

structure State where
  root : Members := []
  path : List String := []

def State.open? (state : State) (path : List String)
    (open_ : String → Members → Option Members) : Option State := do
  let name ← path.getLast?
  return { root := ← atPath (open_ name) path.dropLast state.root, path }

def State.add? (state : State) (path : List String) (node : Node) : Option State := do
  return { state with root := ← atPath (addPair path node) state.path state.root }

def State.line? (state : State) (chars : List Char) : Option (State × List Char) := do
  match chars with
  | '[' :: '[' :: rest =>
      let (path, rest) ← path? rest
      match rest with
      | ']' :: ']' :: rest => return (← state.open? path openNext, ← endLine false rest)
      | _ => failure
  | '[' :: rest =>
      let (path, rest) ← path? rest
      match rest with
      | ']' :: rest => return (← state.open? path openTable, ← endLine false rest)
      | _ => failure
  | chars =>
      let (path, node, rest) ← pair (value maxDepth) chars
      return (← state.add? path node, ← endLine false rest)

/-- All lines; each has a character at least, so as much fuel as there are is enough. -/
def State.lines? : Nat → State → List Char → Option State
  | 0, _, _ => none
  | fuel + 1, state, chars => do
      match ← skipLines false chars with
      | [] => return state
      | chars =>
          let (state, rest) ← state.line? chars
          lines? fuel state rest

def withoutMark (chars : List Char) : List Char :=
  match chars with
  | '\ufeff' :: rest => rest
  | chars => chars

def parse? (text : String) : Option Document := do
  let chars := withoutMark text.toList
  let state ← State.lines? (chars.length + 1) {} chars
  return { root := .table (memberNodes state.root) }

/-- A word may stand beside an empty list or table. -/
def isUnit : Node → Bool
  | .list [] | .table [] => true
  | _ => false

def dialect : Dialect where
  positional := .extensible
  wordTables := true
  isUnit := isUnit
  depth := (maxPath + 1) * (maxDepth + 1)

end ValuePipeline.Toml
