import ValuePipeline.Text.Category
import ValuePipeline.Text.Property

/-!
# Log filters

A filter is a text of directives with commas between them.  A directive is a
level for everything, a target with or without a level of its own, or a span in
brackets, which may name fields in braces, with or without a target before and a
level after it.
-/

namespace ValuePipeline.Filter

def levelNames : List String := ["off", "error", "warn", "info", "debug", "trace"]

/-- A digit up to 5, perhaps with zeros before it. -/
def isPaddedDigit (digits : List Char) : Bool :=
  match digits.dropWhile (· = '0') with
  | [] => !digits.isEmpty
  | [c] => ['1', '2', '3', '4', '5'].contains c
  | _ => false

/-- A number up to 5, perhaps with a plus sign and zeros before it. -/
def isLevelNumber : List Char → Bool
  | '+' :: digits => isPaddedDigit digits
  | digits => isPaddedDigit digits

def isLevel (text : String) : Bool :=
  levelNames.contains (text.map Char.toLower) || isLevelNumber text.toList

/-- The characters a target can start with; Latin letters and digits need no table. -/
def startsTarget (c : Char) : Bool :=
  ['-', ':', '_'].contains c || c.isAlphanum || Text.Property.alphabetic.contains c ||
    (Text.Category.set [.decimalNumber, .letterNumber, .otherNumber]).contains c

/-- What follows a target or a span: nothing, or a level; no level written means the highest. -/
def levelPart : List Char → Bool
  | [] => true
  | '=' :: level => level.isEmpty || isLevel (String.ofList level)
  | _ => false

inductive SpanPart where
  | name
  | field (started : Bool)
  | fields

def spanPart : SpanPart → List Char → Bool
  | _, [] => false
  | .name, c :: rest =>
      if c = ']' then levelPart rest
      else spanPart (if c = '\x7b' then .field false else .name) rest
  | .field started, c :: rest =>
      if c = '\x7d' then started && spanPart .fields rest
      else spanPart (.field true) rest
  | .fields, c :: rest => c = ']' && levelPart rest

/-- Is this one directive?  Blanks at its ends count as part of its last and first word. -/
def isDirective (text : String) : Bool :=
  let blank := Text.Property.whiteSpace.contains
  match text.toList.dropWhile blank with
  | [] => false
  | '[' :: rest => spanPart .name rest
  | first :: rest =>
      startsTarget first &&
        match (first :: rest).dropWhile fun c => c ≠ '=' ∧ c ≠ '[' with
        | [] => true
        | '[' :: span => spanPart .name span
        | level => text.toList.head? = some first && levelPart level

def parts (separator : Char) (text : String) : List String :=
  (text.split separator).toList.map (·.copy)

def isFilter (text : String) : Bool :=
  ((parts ',' text).filter (· ≠ "")).all isDirective

end ValuePipeline.Filter
