import ValuePipeline.Document.Node
import ValuePipeline.Document.Yaml.Token

/-!
# Trees of YAML

A node may have an anchor and a tag before it.  A link to an anchor is a node by
itself.  Anchors are numbered; one whose name was used before takes the number
after all names so far, and of two anchors with one number the later one counts.

A tag that starts with an exclamation mark is a label; the tags of the core types
declare the type of a scalar.
-/

namespace ValuePipeline.Yaml

structure Anchored where
  number : Nat
  /-- How many anchors were there before. -/
  order : Nat
  node : Node

structure Parser where
  tokens : List Token
  handles : List (String × String) := []
  /-- The numbers of the names of anchors; a name occurs once. -/
  names : List (String × Nat) := []
  anchors : Nat := 0
  anchored : List Anchored := []

/-- Parsing changes what is left of the tokens and may fail. -/
abbrev Parse : Type → Type := StateT Parser Option

namespace Parse

def peek : Parse Token := do
  match (← get).tokens with
  | [] => failure
  | token :: _ => return token

def skip : Parse Unit := modify fun parser => { parser with tokens := parser.tokens.drop 1 }

def expect (token : Token) : Parse Unit := do
  if (← peek) = token then skip else failure

def nextIn (tokens : List Token) : Parse Bool := return tokens.contains (← peek)

/-! ## Anchors and tags -/

/-- Numbers an anchor: its number, and how many anchors there were before. -/
def nameAnchor (name : String) : Parse (Nat × Nat) := do
  let parser ← get
  let number := parser.names.length
  set { parser with
    names := (name, number) :: parser.names.filter (·.1 ≠ name)
    anchors := parser.anchors + 1 }
  return (number, parser.anchors)

def keepAnchor (anchor : Option (Nat × Nat)) (node : Node) : Parse Unit :=
  match anchor with
  | none => return
  | some (number, order) =>
      modify fun parser => { parser with anchored := ⟨number, order, node⟩ :: parser.anchored }

def tagName (handle suffix : String) : Parse String := do
  if handle = "" then return suffix
  match (← get).handles.lookup handle with
  | some tagStart => return tagStart ++ suffix
  | none => failure

def properties : Parse (Option (Nat × Nat) × Option String) := do
  match ← peek with
  | .anchor name =>
      skip
      match ← peek with
      | .tag handle suffix =>
          skip
          return (some (← nameAnchor name), some (← tagName handle suffix))
      | _ => return (some (← nameAnchor name), none)
  | .tag handle suffix =>
      skip
      match ← peek with
      | .anchor name =>
          skip
          return (some (← nameAnchor name), some (← tagName handle suffix))
      | _ => return (none, some (← tagName handle suffix))
  | _ => return (none, none)

def coreKind? : String → Option ScalarKind
  | "tag:yaml.org,2002:null" => some .null
  | "tag:yaml.org,2002:bool" => some .bool
  | "tag:yaml.org,2002:int" => some .integer
  | "tag:yaml.org,2002:float" => some .decimal
  | _ => none

/-- The label that a tag is, if it is one. -/
def label? (tag : String) : Option String :=
  match tag.toList with
  | '!' :: label => some (String.ofList label)
  | _ => none

def labelled (tag : Option String) (node : Node) : Node :=
  match tag >>= label? with
  | some label => .labelled label node
  | none => node

def scalarNode (text : String) (style : ScalarStyle) (tag : Option String) : Node :=
  let bare : Node := if style = .plain then .plain text .untagged else .text text
  match tag with
  | none => bare
  | some tag =>
      match label? tag, coreKind? tag, style with
      | some label, _, _ => .labelled label bare
      | none, some kind, .plain => .plain text (.kind kind)
      | none, some .bool, .literal => .plain text (.kind .bool)
      | none, some kind, _ => .declared text kind
      | none, none, .plain => .plain text .other
      | none, none, _ => .text text

/-- What stands where nothing is written. -/
def absent : Node := .plain "" .untagged

/-- A node that is not there, which needs an anchor or a tag. -/
def missing (optional : Bool) (tag : Option String) : Parse Node :=
  if optional then return scalarNode "" .plain tag else failure

/-! ## Nodes -/

mutual

/-- A node; outside brackets it may be a block, and a list may stand as far out as its key. -/
def node : Nat → (block sameColumn : Bool) → Parse Node
  | 0, _, _ => failure
  | fuel + 1, block, sameColumn => do
      match ← peek with
      | .alias name =>
          skip
          match (← get).names.lookup name with
          | some number => return .link number
          | none => failure
      | _ =>
          let (anchor, tag) ← properties
          let found ← content fuel block sameColumn (anchor.isSome || tag.isSome) tag
          keepAnchor anchor found
          return found

def content : Nat → (block sameColumn optional : Bool) → Option String → Parse Node
  | 0, _, _, _, _ => failure
  | fuel + 1, block, sameColumn, optional, tag => do
      match ← peek with
      | .blockItem =>
          if sameColumn then return labelled tag (.list (← sameColumnItems fuel))
          else missing optional tag
      | .scalar text style =>
          skip
          return scalarNode text style tag
      | .flowListStart =>
          skip
          return labelled tag (.list (← flowItems fuel true))
      | .flowTableStart =>
          skip
          return labelled tag (.table (← flowMembers fuel true))
      | .blockListStart =>
          if block then do
            skip
            return labelled tag (.list (← blockItems fuel))
          else missing optional tag
      | .blockTableStart =>
          if block then do
            skip
            return labelled tag (.table (← blockMembers fuel))
          else missing optional tag
      | _ => missing optional tag

/-- A node, unless one of the tokens comes that may follow a missing one. -/
def nodeUnless : Nat → (block sameColumn : Bool) → List Token → Parse Node
  | 0, _, _, _ => failure
  | fuel + 1, block, sameColumn, ends => do
      if ← nextIn ends then return absent else node fuel block sameColumn

def memberValue : Nat → (block : Bool) → List Token → Parse Node
  | 0, _, _ => failure
  | fuel + 1, block, ends => do
      if (← peek) = .value then
        skip
        nodeUnless fuel block block ends
      else return absent

def blockItems : Nat → Parse (List Node)
  | 0 => failure
  | fuel + 1 => do
      match ← peek with
      | .blockItem =>
          skip
          let item ← nodeUnless fuel true false [.blockItem, .blockEnd]
          return item :: (← blockItems fuel)
      | .blockEnd =>
          skip
          return []
      | _ => failure

/-- The items of a list that stands as far out as its key; what follows them ends it. -/
def sameColumnItems : Nat → Parse (List Node)
  | 0 => failure
  | fuel + 1 => do
      if (← peek) = .blockItem then
        skip
        let item ← nodeUnless fuel true false [.blockItem, .key, .value, .blockEnd]
        return item :: (← sameColumnItems fuel)
      else return []

def blockMembers : Nat → Parse (List (Node × Node))
  | 0 => failure
  | fuel + 1 => do
      match ← peek with
      | .key =>
          skip
          let name ← nodeUnless fuel true true [.key, .value, .blockEnd]
          let value ← memberValue fuel true [.key, .value, .blockEnd]
          return (name, value) :: (← blockMembers fuel)
      | .blockEnd =>
          skip
          return []
      | _ => failure

/-- A list between brackets; an item that is a key makes a table of one member. -/
def flowItems : Nat → (first : Bool) → Parse (List Node)
  | 0, _ => failure
  | fuel + 1, first => do
      if (← peek) = .flowListEnd then
        skip
        return []
      unless first do expect .flowItem
      match ← peek with
      | .flowListEnd =>
          skip
          return []
      | .key =>
          skip
          let name ←
            if ← nextIn [.value, .flowItem, .flowListEnd] then
              skip
              pure absent
            else node fuel false false
          let value ← memberValue fuel false [.flowItem, .flowListEnd]
          return .table [(name, value)] :: (← flowItems fuel false)
      | _ =>
          let item ← node fuel false false
          return item :: (← flowItems fuel false)

def flowMembers : Nat → (first : Bool) → Parse (List (Node × Node))
  | 0, _ => failure
  | fuel + 1, first => do
      if (← peek) = .flowTableEnd then
        skip
        return []
      unless first do expect .flowItem
      match ← peek with
      | .flowTableEnd =>
          skip
          return []
      | .key =>
          skip
          let name ← nodeUnless fuel false false [.value, .flowItem, .flowTableEnd]
          let value ← memberValue fuel false [.flowItem, .flowTableEnd]
          return (name, value) :: (← flowMembers fuel false)
      | _ =>
          let name ← node fuel false false
          return (name, absent) :: (← flowMembers fuel false)

end

/-! ## Documents -/

def coreHandles : List (String × String) := [("!", "!"), ("!!", "tag:yaml.org,2002:")]

/-- The directives before a document: one version at most, and one meaning for each handle. -/
def directives : Nat → (versioned : Bool) → List (String × String) →
    Parse (List (String × String))
  | 0, _, _ => failure
  | fuel + 1, versioned, handles => do
      match ← peek with
      | .versionDirective major minor =>
          if versioned ∨ major ≠ 1 ∨ (minor ≠ 1 ∧ minor ≠ 2) then failure
          skip
          directives fuel true handles
      | .tagDirective handle tagStart =>
          if (handles.lookup handle).isSome then failure
          skip
          directives fuel versioned ((handle, tagStart) :: handles)
      | _ => return handles

/-- The one document of a stream; a stream may have none. -/
def stream (fuel : Nat) : Parse Node := do
  match ← peek with
  | .streamEnd => return absent
  | .versionDirective _ _ | .tagDirective _ _ | .documentStart =>
      let handles ← directives fuel false []
      modify fun parser => { parser with handles := handles ++ coreHandles }
      expect .documentStart
      let root ←
        if ← nextIn [.documentStart, .documentEnd, .streamEnd] then pure absent
        else node fuel true false
      ending fuel root
  | _ =>
      modify fun parser => { parser with handles := coreHandles }
      let root ← node fuel true false
      ending fuel root
where
  /-- Marks of an end, and then nothing more. -/
  ending : Nat → Node → Parse Node
    | 0, _ => failure
    | fuel + 1, root => do
        match ← peek with
        | .documentEnd =>
            skip
            ending fuel root
        | .streamEnd => return root
        | _ => failure

end Parse

/-! ## Sizes -/

mutual

/-- How many marks a node takes: one, or for a list or a table two more than what is in it. -/
def weight : Node → Nat
  | .list items => itemsWeight items + 2
  | .table members => membersWeight members + 2
  | .labelled _ node => weight node
  | _ => 1

def itemsWeight : List Node → Nat
  | [] => 0
  | item :: rest => weight item + itemsWeight rest

def membersWeight : List (Node × Node) → Nat
  | [] => 0
  | (name, value) :: rest => weight name + weight value + membersWeight rest

end

end ValuePipeline.Yaml
