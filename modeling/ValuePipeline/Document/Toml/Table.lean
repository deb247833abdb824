import ValuePipeline.Document.Node

/-!
# Tables in TOML

A document fills one tree of tables.  A header opens a table, or a new table at
the end of a list of tables, and the pairs below it go there; a path of several
keys goes through tables that it makes where there are none.  What made a table
decides who may still add to it: a header may open, once, a table that a header
went through; a pair with a path may add only to tables that such pairs made.
-/

namespace ValuePipeline.Toml

inductive Maker where
  /-- A header of its own; the document itself counts as one. -/
  | header
  | headerPath
  | pairPath
  deriving DecidableEq, Repr

/-- What a key stands for.  Lists of tables grow at the end, so the last one comes first. -/
inductive Item where
  | value (node : Node)
  | table (maker : Maker) (members : List (String × Item))
  | tables (last : List (String × Item)) (earlier : List (List (String × Item)))

abbrev Members : Type := List (String × Item)

def put (name : String) (item : Item) : Members → Members
  | [] => [(name, item)]
  | (other, old) :: rest =>
      if other = name then (name, item) :: rest else (other, old) :: put name item rest

def atPath (change : Members → Option Members) : List String → Members → Option Members
  | [], members => change members
  | key :: keys, members =>
      match members.lookup key with
      | none => do return put key (.table .headerPath (← atPath change keys [])) members
      | some (.table maker inner) => do
          return put key (.table maker (← atPath change keys inner)) members
      | some (.tables last earlier) => do
          return put key (.tables (← atPath change keys last) earlier) members
      | some (.value _) => none

def openTable (name : String) (members : Members) : Option Members :=
  match members.lookup name with
  | none => some (put name (.table .header []) members)
  | some (.table .headerPath inner) => some (put name (.table .header inner) members)
  | some _ => none

def openNext (name : String) (members : Members) : Option Members :=
  match members.lookup name with
  | none => some (put name (.tables [] []) members)
  | some (.tables last earlier) => some (put name (.tables [] (last :: earlier)) members)
  | some _ => none

def addNew (name : String) (node : Node) (members : Members) : Option Members :=
  if (members.lookup name).isSome then none else some (put name (.value node) members)

/-- Adds a pair whose path has keys before its name; the table in the end must be such a pair's. -/
def addAlong (name : String) (node : Node) : List String → Maker → Members → Option Members
  | [], maker, members => if maker = .pairPath then addNew name node members else none
  | key :: keys, _, members =>
      match members.lookup key with
      | none => do
          return put key (.table .pairPath (← addAlong name node keys .pairPath [])) members
      | some (.table .header _) => none
      | some (.table maker inner) => do
          return put key (.table maker (← addAlong name node keys maker inner)) members
      | some (.tables last earlier) => do
          return put key (.tables (← addAlong name node keys .header last) earlier) members
      | some (.value _) => none

def addPair (path : List String) (node : Node) (members : Members) : Option Members :=
  match path.reverse with
  | [] => none
  | [name] => addNew name node members
  | name :: keys => addAlong name node keys.reverse .header members

/-! ## The tree of a document -/

mutual

def Item.node : Item → Node
  | .value node => node
  | .table _ members => .table (memberNodes members)
  | .tables last earlier => .list (tableNodes earlier [.table (memberNodes last)])

def memberNodes : List (String × Item) → List (Node × Node)
  | [] => []
  | (name, item) :: rest => (.text name, item.node) :: memberNodes rest

/-- The nodes of tables, last first, before those that follow them. -/
def tableNodes : List (List (String × Item)) → List Node → List Node
  | [], later => later
  | members :: earlier, later => tableNodes earlier (.table (memberNodes members) :: later)

end

end ValuePipeline.Toml
