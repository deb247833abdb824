/-!
# Type codes

A pipeline for one type holds pipelines for the types of its fields, so values
of many types travel through one program.  A type code names such a type; its
carrier is the type of the values themselves.  Two codes can be compared, which
two carriers cannot, and this is what lets a field chain be checked before any
value is read.
-/

namespace ValuePipeline

class TypeCode (Ty : Type) where
  Carrier : Ty → Type
  name : Ty → String

export TypeCode (Carrier)

variable {Ty : Type} [TypeCode Ty] [DecidableEq Ty]

structure Packed (Ty : Type) [TypeCode Ty] where
  type : Ty
  value : Carrier type

namespace Packed

def as? (packed : Packed Ty) (type : Ty) : Option (Carrier type) :=
  if same : packed.type = type then some (same ▸ packed.value) else none

@[simp]
theorem as?_self (type : Ty) (value : Carrier type) :
    (Packed.mk type value).as? type = some value := by
  simp [as?]

end Packed

end ValuePipeline
