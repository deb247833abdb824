import ValuePipeline.Document.Plain

/-!
# Reading trees

What is wanted decides how a node is read: a plain scalar is a text where a text
is wanted, and a truth value where that is wanted.  Formats differ in what may
stand for a record and for a word out of a fixed list; a dialect says so.
-/

namespace ValuePipeline

/-- May a record be written as the list of its members? -/
inductive Positional where
  | never
  /-- Yes, and the list ends with the last member at the latest. -/
  | exact
  /-- Yes, and what follows the last member is passed over. -/
  | extensible
  deriving DecidableEq, Repr

structure Dialect where
  positional : Positional
  /-- May a word be the only key of a table? -/
  wordTables : Bool
  /-- What may stand beside such a word, or beside a word that is a label. -/
  isUnit : Node → Bool
  /-- How many lists and tables may be read one inside the other. -/
  depth : Nat

namespace Reading

/-! ## Scalars -/

def plainText? : Node → Option String
  | .text value => some value
  | .plain value _ => some value
  | .declared value _ => some value
  | .labelled _ node => plainText? node
  | _ => none

def text (node : Node) : Reading String := do
  ofOption (plainText? (← follow node))

def plainBool? : Node → Option Bool
  | .bool value => some value
  | .plain value _ => Plain.bool? value
  | .labelled _ node => plainBool? node
  | _ => none

def bool (node : Node) : Reading Bool := do
  ofOption (plainBool? (← follow node))

def word (dialect : Dialect) (node : Node) : Reading String := do
  match ← follow node with
  | .table [(key, value)] =>
      if dialect.wordTables ∧ dialect.isUnit value then text key else failure
  | .labelled label node => if dialect.isUnit node then return label else failure
  | node => ofOption (plainText? node)

/-! ## Lists and tables -/

/-- The items of a list; a plain scalar without characters is an empty one. -/
def plainItems? : Node → Option (List Node)
  | .list items => some items
  | .plain "" _ => some []
  | .labelled _ node => plainItems? node
  | _ => none

def items (node : Node) : Reading (List Node) := do
  ofOption (plainItems? (← follow node))

/-- The members of a table; a plain scalar without characters is an empty one. -/
def plainMembers? : Node → Option (List (Node × Node))
  | .table members => some members
  | .plain "" _ => some []
  | .labelled _ node => plainMembers? node
  | _ => none

def members (node : Node) : Reading (List (String × Node)) := do
  let members ← ofOption (plainMembers? (← follow node))
  members.mapM fun (key, value) => do return (← text key, value)

/-- The members that are named; one that comes twice is refused, others are passed over. -/
def known? (names : List String) :
    List (String × Node) → Option (List (String × Node))
  | [] => some []
  | (name, value) :: rest => do
      let known ← known? names rest
      if !names.contains name then return known
      else if (known.lookup name).isSome then failure
      else return (name, value) :: known

def positional? (positional : Positional) (names : List String) (items : List Node) :
    Option (List (String × Node)) :=
  match positional with
  | .never => none
  | .exact => if items.length ≤ names.length then some (names.zip items) else none
  | .extensible => some (names.zip items)

def record (dialect : Dialect) (names : List String) (node : Node) :
    Reading (List (String × Node)) := do
  match ← follow node with
  | .list items => ofOption (positional? dialect.positional names items)
  | node => do ofOption (known? names (← members node))

/-- A member of a record, or what holds where it is left out. -/
def member {α : Type} (fields : List (String × Node)) (name : String) (default_ : α)
    (read : Node → Reading α) : Reading α :=
  match fields.lookup name with
  | some node => read node
  | none => return default_

/-! ## Values -/

/-- The value of a node, with at most so many lists and tables one inside the other. -/
def value : Nat → Node → Reading Value
  | depth, node => do
      match ← follow node with
      | .null => return .null
      | .bool b => return .bool b
      | .integer n => return .integer n
      | .decimal => return .decimal
      | .text s => return .text s
      | .plain word tag => ofOption (Plain.tagged? tag word)
      | .declared word kind => ofOption (Plain.declared? kind word)
      | .list items =>
          match depth with
          | 0 => failure
          | depth + 1 => .list <$> items.mapM (value depth)
      | .table members =>
          match depth with
          | 0 => failure
          | depth + 1 =>
              .table <$> members.mapM fun (key, node) => do
                return (← value depth key, ← value depth node)
      | .labelled _ _ | .link _ | .unreadable => failure

end Reading

end ValuePipeline
