import ValuePipeline.Document.Value
import ValuePipeline.Builder
import ValuePipeline.Steps.Replace
import ValuePipeline.Steps.Text
import ValuePipeline.ValueType

/-!
# Rules

A rule is a step for text that a document can write down.  A rule set is a list
of rules; applying it gives a builder one step per rule, up to the first one whose
pattern cannot be read.
-/

namespace ValuePipeline

inductive Rule where
  | trim (chars : String)
  | trimStart (chars : String)
  | trimEnd (chars : String)
  | upper
  | lower
  | replace (pattern replacement : String)
  | append (ending : String)
  | prepend (start : String)
  | padLeft (width : UInt64) (fill : Char)
  | padRight (width : UInt64) (fill : Char)
  | substring (start : UInt64) (length : Option UInt64)
  | remove (start : UInt64) (count : Option UInt64)
  deriving DecidableEq, Repr

structure RuleSet where
  rules : List Rule := []
  deriving DecidableEq, Repr

namespace Rule

/-- The step of a rule.  Only a pattern can be refused. -/
def step : Rule → Except StepError (Step String)
  | trim chars => .ok (Text.trimCharsStep chars.toList)
  | trimStart chars => .ok (Text.trimStartStep chars.toList)
  | trimEnd chars => .ok (Text.trimEndStep chars.toList)
  | upper => .ok Text.toUpperStep
  | lower => .ok Text.toLowerStep
  | replace pattern replacement => Text.replaceStep pattern replacement
  | append ending => .ok (Text.appendStep ending)
  | prepend start => .ok (Text.prependStep start)
  | padLeft width fill => .ok (Text.padLeftStep width.toNat fill)
  | padRight width fill => .ok (Text.padRightStep width.toNat fill)
  | substring start length =>
      .ok (Text.substringStep start.toNat (length.map UInt64.toNat))
  | remove start count => .ok (Text.removeStep start.toNat (count.map UInt64.toNat))

variable {R : Type} [Schema R] [DecidableEq R] {m : Type → Type} [Monad m]

def apply (rule : Rule) (builder : Builder (ValueType.text (R := R))) :
    SetupT (ValueType R) m Unit := do
  builder.addStep (← SetupT.ofExcept (rule.step.mapError .invalidSettings))

/-! ## The written form -/

/-- The character that fills where none is named. -/
def defaultFill : Char := ' '

def operation : Rule → String
  | trim _ => "trim"
  | trimStart _ => "trim_start"
  | trimEnd _ => "trim_end"
  | upper => "upper"
  | lower => "lower"
  | replace _ _ => "replace"
  | append _ => "append"
  | prepend _ => "prepend"
  | padLeft _ _ => "pad_left"
  | padRight _ _ => "pad_right"
  | substring _ _ => "substring"
  | remove _ _ => "remove"

def sizeValue (size : UInt64) : Value := .ofNat size.toNat

def optionalSizeValue : Option UInt64 → Value
  | none => .null
  | some size => sizeValue size

def settings : Rule → List (String × Value)
  | trim chars | trimStart chars | trimEnd chars => [("chars", .text chars)]
  | upper | lower => []
  | replace pattern replacement =>
      [("pattern", .text pattern), ("replacement", .text replacement)]
  | append value | prepend value => [("value", .text value)]
  | padLeft width fill | padRight width fill =>
      [("width", sizeValue width), ("fill", .text fill.toString)]
  | substring start length => [("start", sizeValue start), ("len", optionalSizeValue length)]
  | remove start count => [("start", sizeValue start), ("count", optionalSizeValue count)]

def written (rule : Rule) : Value :=
  .record (("op", .text rule.operation) :: rule.settings)

/-! ## Reading the written form -/

def required {α : Type} (fields : List (String × Value)) (name : String)
    (read : Value → Option α) : Option α := do
  read (← fields.lookup name)

def optional {α : Type} (fields : List (String × Value)) (name : String) (default_ : α)
    (read : Value → Option α) : Option α :=
  match fields.lookup name with
  | some value => read value
  | none => some default_

def readChars (make : String → Rule) (settings : Value) : Option Rule := do
  let fields ← settings.fields? ["chars"]
  return make (← optional fields "chars" "" Value.text?)

/-- A rule without settings takes any table and the empty list. -/
def readBare (rule : Rule) : Value → Option Rule
  | .table _ | .list [] => some rule
  | _ => none

def readReplace (settings : Value) : Option Rule := do
  let fields ← settings.fields? ["pattern", "replacement"]
  return replace (← required fields "pattern" Value.text?)
    (← optional fields "replacement" "" Value.text?)

def readValue (make : String → Rule) (settings : Value) : Option Rule := do
  let fields ← settings.fields? ["value"]
  return make (← required fields "value" Value.text?)

def readPad (make : UInt64 → Char → Rule) (settings : Value) : Option Rule := do
  let fields ← settings.fields? ["width", "fill"]
  return make (← required fields "width" Value.size?)
    (← optional fields "fill" defaultFill Value.char?)

def readRange (make : UInt64 → Option UInt64 → Rule) (count : String) (settings : Value) :
    Option Rule := do
  let fields ← settings.fields? ["start", count]
  return make (← required fields "start" Value.size?)
    (← optional fields count none Value.optionalSize?)

def read? (operation : String) (settings : Value) : Option Rule :=
  match operation with
  | "trim" => readChars trim settings
  | "trim_start" => readChars trimStart settings
  | "trim_end" => readChars trimEnd settings
  | "upper" => readBare upper settings
  | "lower" => readBare lower settings
  | "replace" => readReplace settings
  | "append" => readValue append settings
  | "prepend" => readValue prepend settings
  | "pad_left" => readPad padLeft settings
  | "pad_right" => readPad padRight settings
  | "substring" => readRange substring "len" settings
  | "remove" => readRange remove "count" settings
  | _ => none

end Rule

namespace RuleSet

variable {R : Type} [Schema R] [DecidableEq R] {m : Type → Type} [Monad m]

def length (set : RuleSet) : Nat := set.rules.length

def isEmpty (set : RuleSet) : Bool := set.rules.isEmpty

/-- Applies the rules in order.  Those before one that is refused stay applied. -/
def apply (set : RuleSet) (builder : Builder (ValueType.text (R := R))) :
    SetupT (ValueType R) m Unit :=
  set.rules.forM fun rule => rule.apply builder

def written (set : RuleSet) : Value :=
  .record [("steps", .list (set.rules.map Rule.written))]

end RuleSet

end ValuePipeline
