import ValuePipeline.Document.Value

/-!
# Document trees

A tree is what a document looks like before it is known what is wanted of it.  A
plain scalar can still be read as text or by its form; a link stands for the node
that bears an anchor; some nodes can be passed over but not read.

Reading a tree may fail, and it may follow only so many links.
-/

namespace ValuePipeline

/-- The types that a scalar can be declared to be of. -/
inductive ScalarKind where
  | null
  | bool
  | integer
  | decimal
  deriving DecidableEq, Repr

inductive PlainTag where
  | untagged
  | kind (kind : ScalarKind)
  /-- Any other type, which makes it a text. -/
  | other
  deriving DecidableEq, Repr

inductive Node where
  | null
  | bool (value : Bool)
  | integer (value : Int)
  | decimal
  | text (value : String)
  | plain (value : String) (tag : PlainTag)
  | declared (value : String) (kind : ScalarKind)
  | labelled (label : String) (node : Node)
  | link (anchor : Nat)
  /-- A node that can only be passed over. -/
  | unreadable
  | list (items : List Node)
  | table (members : List (Node × Node))
  deriving Repr, Inhabited

/-- A tree, the nodes that its links stand for, and the number of links that may be followed. -/
structure Document where
  root : Node
  anchors : List (Nat × Node) := []
  links : Nat := 0

/-- Reading with the anchors at hand; the state is how many links may still be followed. -/
abbrev Reading : Type → Type := ReaderT (List (Nat × Node)) (StateT Nat Option)

namespace Reading

variable {α : Type}

def ofOption (result : Option α) : Reading α := fun _ links => result.map (·, links)

def follow (node : Node) : Reading Node := do
  match node with
  | .link anchor =>
      match ← getThe Nat with
      | 0 => failure
      | links + 1 =>
          set links
          ofOption ((← readThe (List (Nat × Node))).lookup anchor)
  | node => return node

end Reading

def Document.read {α : Type} (document : Document) (reader : Node → Reading α) : Option α :=
  ((reader document.root).run document.anchors).run' document.links

end ValuePipeline
