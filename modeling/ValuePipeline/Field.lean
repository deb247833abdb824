import ValuePipeline.TypeCode
import ValuePipeline.Step
import ValuePipeline.Text.Described

/-!
# Fields

A field is the capability to read, and perhaps to write, one member of a type.
A pipeline never looks inside a value otherwise.

A descriptor is a field with its two types packed in, so that fields of
different types fit in one list.  It reads and writes packed values, and checks
the type of each value it is given.
-/

namespace ValuePipeline

variable {Ty : Type} [TypeCode Ty]

inductive Setter (α β : Type) where
  | exposed (set : α → β → α)
  | hidden
  | absent

def Setter.access {α β : Type} : Setter α β → Access
  | exposed _ => .exposed
  | hidden => .hidden
  | absent => .absent

/-- A field of type `value` declared on `owner`.  Uses of a watched field go to the log. -/
structure Field (owner value : Ty) where
  name : String
  get : Carrier owner → Carrier value
  setter : Setter (Carrier owner) (Carrier value)
  watched : Bool := false

namespace Field

variable {owner value : Ty}

def exposed (name : String) (get : Carrier owner → Carrier value)
    (set : Carrier owner → Carrier value → Carrier owner) : Field owner value :=
  { name, get, setter := .exposed set }

def access (field : Field owner value) : Access := field.setter.access

def read (field : Field owner value) (whole : Carrier owner) : Run (Carrier value) := do
  Run.tell (.read (TypeCode.name owner) field.name field.watched)
  return field.get whole

/-- Writes through the setter; a setter that is not open refuses and reports nothing. -/
def write (field : Field owner value) (whole : Carrier owner) (part : Carrier value) :
    ExceptT SetupError Run (Carrier owner) :=
  match field.setter with
  | .exposed set => do
      ExceptT.lift (Run.tell (.write (TypeCode.name owner) field.name field.watched))
      return set whole part
  | .hidden | .absent =>
      throw (.fieldNotWritable (TypeCode.name owner) field.name field.access)

def described (kind : String) (field : Field owner value) : String :=
  Text.described kind
    [("owner", Text.quoted (TypeCode.name owner)), ("name", Text.quoted field.name),
      ("value", Text.quoted (TypeCode.name value)), ("access", field.access.label)]

end Field

/-- What tells one field from another: the declaring type and the name. -/
structure FieldKey (Ty : Type) where
  owner : Ty
  name : String
  deriving DecidableEq

structure Descriptor (Ty : Type) [TypeCode Ty] where
  owner : Ty
  value : Ty
  field : Field owner value

namespace Descriptor

variable [DecidableEq Ty] (descriptor : Descriptor Ty)

def ofField {owner value : Ty} (field : Field owner value) : Descriptor Ty :=
  ⟨owner, value, field⟩

def name : String := descriptor.field.name

def ownerName : String := TypeCode.name descriptor.owner

def valueName : String := TypeCode.name descriptor.value

def access : Access := descriptor.field.access

def key : FieldKey Ty := ⟨descriptor.owner, descriptor.name⟩

def read (whole : Packed Ty) : ExceptT SetupError Run (Packed Ty) :=
  match whole.as? descriptor.owner with
  | some whole => do
      let part ← ExceptT.lift (descriptor.field.read whole)
      return ⟨descriptor.value, part⟩
  | none => throw (.valueTypeMismatch descriptor.name descriptor.ownerName)

/-- A setter that is not open refuses whatever the values are. -/
def write (whole part : Packed Ty) : ExceptT SetupError Run (Packed Ty) :=
  if !descriptor.access.isExposed then
    throw (.fieldNotWritable descriptor.ownerName descriptor.name descriptor.access)
  else match whole.as? descriptor.owner, part.as? descriptor.value with
  | some whole, some part => do
      let changed ← descriptor.field.write whole part
      return ⟨descriptor.owner, changed⟩
  | _, _ => throw (.valueTypeMismatch descriptor.name descriptor.valueName)

def described : String := descriptor.field.described "FieldDescriptor"

end Descriptor

end ValuePipeline
