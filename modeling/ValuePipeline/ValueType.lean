import ValuePipeline.Number.BoundedInt
import ValuePipeline.Number.Decimal
import ValuePipeline.Time.Instant
import ValuePipeline.TypeCode

/-!
# The types of values

The library knows texts, integers of several widths, binary floating-point
numbers, characters, truth values, lengths of time, instants and date-times.
Records are the caller's own: a schema gives the record types their carriers, and
all types their names.
-/

namespace ValuePipeline

/-- Integer types.  The two of 64 bits with a sign are told apart by name only. -/
inductive IntType where
  | int8 | int16 | int32 | int64 | int128 | intSize
  | uint8 | uint32 | uint64
  deriving DecidableEq, Repr

def IntType.width : IntType → IntWidth
  | int8 => ⟨true, 8⟩
  | int16 => ⟨true, 16⟩
  | int32 => ⟨true, 32⟩
  | int64 => ⟨true, 64⟩
  | int128 => ⟨true, 128⟩
  | intSize => ⟨true, 64⟩
  | uint8 => ⟨false, 8⟩
  | uint32 => ⟨false, 32⟩
  | uint64 => ⟨false, 64⟩

inductive Scalar where
  | text
  | int (type : IntType)
  | single
  | double
  | char
  | bool
  | delta
  | instant
  | dateTime
  deriving DecidableEq, Repr

@[reducible]
def Scalar.Carrier : Scalar → Type
  | text => String
  | int type => FixedInt type.width
  | single => BinaryFloat .single
  | double => BinaryFloat .double
  | char => Char
  | bool => Bool
  | delta => TimeDelta
  | instant => Instant
  | dateTime => DateTime

class Schema (R : Type) where
  Carrier : R → Type
  recordName : R → String
  scalarName : Scalar → String

inductive ValueType (R : Type) where
  | scalar (type : Scalar)
  | record (type : R)
  deriving DecidableEq, Repr

namespace ValueType

variable {R : Type} [Schema R]

@[reducible]
def Carrier : ValueType R → Type
  | scalar type => type.Carrier
  | record type => Schema.Carrier type

def name : ValueType R → String
  | scalar type => Schema.scalarName R type
  | record type => Schema.recordName type

instance : TypeCode (ValueType R) where
  Carrier := Carrier
  name := name

abbrev text : ValueType R := scalar .text

end ValueType

end ValuePipeline
