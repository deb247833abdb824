import ValuePipeline.Path.Expression

/-!
# Field chains

A chain lists the fields to go through from a root value to a leaf, outermost
first.  `resolve` makes one from a path expression and refuses every expression
that is not a place that can be read and written back: the body must be a chain
of member accesses on the one parameter, each field must be declared on the type
the field before yields, and each must have an open setter.

`Chain.update` changes the leaf of a value.  It reads each field on the way
down, and on the way back writes each changed part into the whole it was read
from, also when the change at the leaf failed.
-/

namespace ValuePipeline

variable {Ty : Type} [TypeCode Ty] [DecidableEq Ty]

structure Chain (root leaf : Ty) where
  fields : List (Descriptor Ty)

namespace Chain

variable {root leaf : Ty}

def length (chain : Chain root leaf) : Nat := chain.fields.length

def isEmpty (chain : Chain root leaf) : Bool := chain.fields.isEmpty

def last? (chain : Chain root leaf) : Option (Descriptor Ty) := chain.fields.getLast?

def path (chain : Chain root leaf) : String :=
  String.intercalate "." (chain.fields.map Descriptor.name)

/-- The identity of every field, by which a path that is registered twice is found. -/
def keys (chain : Chain root leaf) : List (FieldKey Ty) :=
  chain.fields.map Descriptor.key

def described (chain : Chain root leaf) : String :=
  Text.described "FieldChain"
    [("root", Text.quoted (TypeCode.name root)),
      ("fields", Text.listed (chain.fields.map Descriptor.described))]

end Chain

/-! ## Resolution -/

/-- The fields on the way from the parameter to this node, innermost first. -/
def PathNode.spine (root : Parameter) : PathNode Ty → Except PathError (List (Descriptor Ty))
  | .member base field => do
      let outer ← base.spine root
      return field :: outer
  | .parameter p => if p = root then return [] else throw .foreignParameter
  | node => throw (.unsupportedBase node.kind)

/-- The type that a chain of fields yields, if each field continues where the one before ends. -/
def yieldedType (type : Ty) : List (Descriptor Ty) → Except PathError Ty
  | [] => return type
  | field :: fields =>
      if field.owner = type then yieldedType field.value fields
      else throw (.discontinuousChain field.name field.ownerName (TypeCode.name type))

def resolve {root leaf : Ty} (path : PathExpression root leaf) :
    Except SetupError (Chain root leaf) := do
  let parameter ← match path.parameters with
    | [parameter] => pure parameter
    | parameters => throw (.invalidPath (.parameterCount parameters.length))
  let spine ← match path.body with
    | .member _ _ => (path.body.spine parameter).mapError .invalidPath
    | body => throw (.invalidPath (.notMemberAccess body.kind))
  let fields := spine.reverse
  let yielded ← (yieldedType root fields).mapError .invalidPath
  if yielded ≠ leaf then
    throw (.invalidPath (.leafTypeMismatch (TypeCode.name leaf) (TypeCode.name yielded)))
  match fields.find? fun field => !field.access.isExposed with
  | some field => throw (.fieldNotWritable field.ownerName field.name field.access)
  | none => return ⟨fields⟩

/-! ## Reading and writing back -/

namespace Chain

variable {root leaf : Ty}

/-- Goes down the fields, changes what is there, and writes back on the way up. -/
def throughFields (change : Packed Ty → ExceptT SetupError Run (Outcome (Packed Ty))) :
    List (Descriptor Ty) → Packed Ty → ExceptT SetupError Run (Outcome (Packed Ty))
  | [], whole => change whole
  | field :: fields, whole => do
      let part ← field.read whole
      let changed ← throughFields change fields part
      let whole ← field.write whole changed.value
      return ⟨whole, changed.failure⟩

def atLeaf (chain : Chain root leaf) (change : Carrier leaf → Run (Outcome (Carrier leaf)))
    (packed : Packed Ty) : ExceptT SetupError Run (Outcome (Packed Ty)) :=
  match packed.as? leaf with
  | some value => do
      let changed ← ExceptT.lift (change value)
      return ⟨⟨leaf, changed.value⟩, changed.failure⟩
  | none =>
      throw (.valueTypeMismatch ((chain.last?.map Descriptor.name).getD "") (TypeCode.name leaf))

/-- Changes the leaf of a root value.  A chain without fields changes nothing. -/
def update (chain : Chain root leaf) (change : Carrier leaf → Run (Outcome (Carrier leaf)))
    (whole : Carrier root) : Run (Outcome (Carrier root)) :=
  if chain.isEmpty then return .ok whole
  else do
    match ← (throughFields (chain.atLeaf change) chain.fields ⟨root, whole⟩).run with
    | .ok changed =>
        match changed.value.as? root with
        | some value => return ⟨value, changed.failure⟩
        | none => return .failed whole (.setup (.valueTypeMismatch "" (TypeCode.name root)))
    | .error error => return .failed whole (.setup error)

end Chain

end ValuePipeline
