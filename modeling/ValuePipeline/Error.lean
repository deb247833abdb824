import ValuePipeline.Pattern.Error

/-!
# Errors

Three families, by the moment they arise.

* `SetupError` is raised while a pipeline is put together: a path that is no
  chain of fields, a field that cannot be written, a type that is registered
  twice or not at all.
* `StepError` belongs to the ready-made steps.  Some settings are refused when
  the step is made, some values when it runs.
* `Failure` is what can end a run: the error of a step, the setup error of an
  accessor that met a value of another type, or the text of a caller's own step.

Each family has one function that names its errors and one that words them.  How a
fault of a pattern is worded is left to the reader of patterns, so the message about
a bad one ends with the pattern, and the error carries the fault.
-/

namespace ValuePipeline

/-- How a field may be written by a pipeline. -/
inductive Access where
  | exposed
  /-- A setter exists but is not visible to the caller. -/
  | hidden
  /-- The field has no setter. -/
  | absent
  deriving DecidableEq, Repr

namespace Access

def isExposed : Access → Bool
  | exposed => true
  | hidden | absent => false

def label : Access → String
  | exposed => "Public"
  | hidden => "Private"
  | absent => "Absent"

def message : Access → String
  | exposed => "setter is public"
  | hidden => "setter is not publicly accessible"
  | absent => "field has no setter"

end Access

/-- Why a path expression names no place that can be read and written. -/
inductive PathError where
  | parameterCount (count : Nat)
  | notMemberAccess (kind : String)
  | unsupportedBase (kind : String)
  | foreignParameter
  /-- A field is declared on another type than the value it is read from. -/
  | discontinuousChain (field owner expected : String)
  | leafTypeMismatch (expected found : String)
  deriving DecidableEq, Repr

def PathError.name : PathError → String
  | parameterCount _ => "ParameterCount"
  | notMemberAccess _ => "NotMemberAccess"
  | unsupportedBase _ => "UnsupportedBase"
  | foreignParameter => "ForeignParameter"
  | discontinuousChain _ _ _ => "DiscontinuousChain"
  | leafTypeMismatch _ _ => "LeafTypeMismatch"

def PathError.message : PathError → String
  | parameterCount count =>
      "the expression must take exactly one parameter, found " ++ toString count
  | notMemberAccess kind => "the expression body must be a member access, found " ++ kind
  | unsupportedBase kind => "only simple field-access chains are supported, found " ++ kind
  | foreignParameter => "the chain is not rooted at the expression's parameter"
  | discontinuousChain field owner expected =>
      "field '" ++ field ++ "' is declared on " ++ owner ++ ", but the chain yields " ++
        expected ++ " at that point"
  | leafTypeMismatch expected found =>
      "the chain yields " ++ found ++ ", but the expression declares " ++ expected

def maxRoundDigits : Nat := 15

inductive StepError where
  | invalidPattern (pattern : String) (reason : Pattern.ParseError)
  | invalidBounds
  | invalidDigits (digits : Nat)
  | outOfRange (step : String) (start stop length : Nat)
  | overflow (step : String)
  | dateOutOfRange (step : String)
  deriving DecidableEq, Repr

def StepError.name : StepError → String
  | invalidPattern _ _ => "InvalidPattern"
  | invalidBounds => "InvalidBounds"
  | invalidDigits _ => "InvalidDigits"
  | outOfRange _ _ _ _ => "OutOfRange"
  | overflow _ => "Overflow"
  | dateOutOfRange _ => "DateOutOfRange"

def StepError.message : StepError → String
  | invalidPattern pattern _ => "Invalid pattern '" ++ pattern ++ "'"
  | invalidBounds => "Invalid bounds: lower bound is greater than upper bound"
  | invalidDigits digits =>
      "Cannot round to " ++ toString digits ++ " digits (maximum is " ++
        toString maxRoundDigits ++ ")"
  | outOfRange step start stop length =>
      step ++ ": range " ++ toString start ++ ".." ++ toString stop ++
        " is outside a string of " ++ toString length ++ " characters"
  | overflow step => step ++ ": arithmetic overflow"
  | dateOutOfRange step => step ++ ": date/time out of range"

inductive SetupError where
  | invalidPath (reason : PathError)
  | fieldNotWritable (owner field : String) (access : Access)
  | duplicateField (path : String)
  | typeNotRegistered (type : String)
  | duplicateType (type : String)
  | invalidSettings (reason : StepError)
  /-- An accessor met a value of another type than it was declared for. -/
  | valueTypeMismatch (field expected : String)
  deriving DecidableEq, Repr

def SetupError.name : SetupError → String
  | invalidPath reason => "InvalidPath." ++ reason.name
  | fieldNotWritable _ _ _ => "FieldNotWritable"
  | duplicateField _ => "DuplicateField"
  | typeNotRegistered _ => "TypeNotRegistered"
  | duplicateType _ => "DuplicateType"
  | invalidSettings _ => "InvalidSettings"
  | valueTypeMismatch _ _ => "ValueTypeMismatch"

def SetupError.message : SetupError → String
  | invalidPath reason => "Invalid path expression: " ++ reason.message
  | fieldNotWritable owner field access =>
      "Field '" ++ field ++ "' on " ++ owner ++ " is not writable: " ++ access.message
  | duplicateField path => "Field path '" ++ path ++ "' is already registered on this builder"
  | typeNotRegistered type => "The type " ++ type ++ " wasn't registered"
  | duplicateType type => "The type " ++ type ++ " is already registered"
  | invalidSettings reason => "Invalid transformation settings: " ++ reason.message
  | valueTypeMismatch field expected =>
      "Field '" ++ field ++ "' received a value that is not a " ++ expected

inductive Failure where
  | step (error : StepError)
  | setup (error : SetupError)
  | custom (text : String)
  deriving DecidableEq, Repr

def Failure.name : Failure → String
  | step error => error.name
  | setup error => error.name
  | custom _ => "Custom"

def Failure.message : Failure → String
  | step error => error.message
  | setup error => error.message
  | custom text => text

end ValuePipeline
