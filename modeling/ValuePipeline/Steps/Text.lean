import ValuePipeline.Number.Power
import ValuePipeline.Step
import ValuePipeline.Text.Case
import ValuePipeline.Text.Trim

/-!
# Steps for text

Positions and lengths count characters.  A range outside the text fails with the
range asked for; its end is the start and the count together, at most the largest
size there is.
-/

namespace ValuePipeline.Text

def maxSize : Nat := 2 ^ 64 - 1

/-- A range of so many characters, or of all that follow, if the text has them. -/
def range (step text : String) (start : Nat) (count : Option Nat) :
    Except StepError (Nat × Nat) :=
  let total := text.length
  let stop := match count with
    | none => total
    | some count => min (start + count) maxSize
  if start > total ∨ stop > total then throw (.outOfRange step start stop total)
  else return (start, stop)

def substring (start : Nat) (count : Option Nat) (text : String) : Except StepError String := do
  let (start, stop) ← range "substring" text start count
  return String.ofList ((text.toList.drop start).take (stop - start))

def remove (start : Nat) (count : Option Nat) (text : String) : Except StepError String := do
  let (start, stop) ← range "remove" text start count
  let kept := text.toList.zipIdx.filter fun (_, index) => index < start || stop ≤ index
  return String.ofList (kept.map Prod.fst)

/-! ## The steps -/

def trimStep : Step String := .total "trim" (trimBoth [])

def trimCharsStep (chars : List Char) : Step String := .total "trim" (trimBoth chars)

def trimStartStep (chars : List Char) : Step String := .total "trim_start" (trimStart chars)

def trimEndStep (chars : List Char) : Step String := .total "trim_end" (trimEnd chars)

def toUpperStep : Step String := .total "to_upper" toUpper

def toLowerStep : Step String := .total "to_lower" toLower

def appendStep (ending : String) : Step String := .total "append" (· ++ ending)

def prependStep (start : String) : Step String := .total "prepend" (start ++ ·)

def substringStep (start : Nat) (count : Option Nat) : Step String :=
  .checked "substring" (substring start count)

def removeStep (start : Nat) (count : Option Nat) : Step String :=
  .checked "remove" (remove start count)

def padLeftStep (width : Nat) (fill : Char) : Step String :=
  .total "pad_left" (padLeft width fill)

def padRightStep (width : Nat) (fill : Char) : Step String :=
  .total "pad_right" (padRight width fill)

end ValuePipeline.Text
