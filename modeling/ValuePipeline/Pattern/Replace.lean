import ValuePipeline.Pattern.Parse
import ValuePipeline.Pattern.Search
import ValuePipeline.Pattern.Template

/-!
# Replacing matches

Matches are taken from left to right, each search starting where the last match
ended.  A match of nothing right at the end of the last match is passed over: the
search then starts one character further on.
-/

namespace ValuePipeline

structure Pattern where
  program : Array Pattern.Instruction
  captures : Nat
  names : List (String × Nat)

namespace Pattern

def compile (text : String) : Except ParseError Pattern := do
  let parsed ← parse text
  return ⟨parsed.expr.program, parsed.captures, parsed.names⟩

structure Match where
  start : Nat
  stop : Nat
  slots : Slots

def Match.capture (found : Match) (index : Nat) : Option (Nat × Nat) := do
  let start ← (← found.slots[2 * index]?)
  let stop ← (← found.slots[2 * index + 1]?)
  return (start, stop)

def find (pattern : Pattern) (place : Place) : Option Match := do
  let slots ← search pattern.program (2 * (pattern.captures + 1)) place
  let start ← (← slots[0]?)
  let stop ← (← slots[1]?)
  return ⟨start, stop, slots⟩

def findAfter (pattern : Pattern) (last : Option Nat) (place : Place) : Option Match := do
  let found ← pattern.find place
  if found.start = found.stop ∧ last = some found.stop then
    if place.after.isEmpty then none else pattern.find place.next
  else return found

def Place.advance : Nat → Place → Place
  | 0, place => place
  | count + 1, place => Place.advance count place.next

/-- All matches, each ending after the one before it. -/
def findAllFrom (pattern : Pattern) : Nat → Option Nat → Place → List Match
  | 0, _, _ => []
  | fuel + 1, last, place =>
      match pattern.findAfter last place with
      | none => []
      | some found =>
          found :: pattern.findAllFrom fuel (some found.stop)
            (Place.advance (found.stop - place.index) place)

def findAll (pattern : Pattern) (text : String) : List Match :=
  pattern.findAllFrom (text.length + 2) none (Place.start text)

def slice (text : Array Char) (range : Nat × Nat) : List Char :=
  (text.extract range.1 range.2).toList

/-- The text a template makes of a match; a capture that took no part is empty. -/
def expand (pattern : Pattern) (text : Array Char) (found : Match) (pieces : List Piece) :
    List Char :=
  let taken (index : Nat) : List Char :=
    match found.capture index with
    | some range => slice text range
    | none => []
  pieces.flatMap fun
    | .char c => [c]
    | .captureIndex index => taken index
    | .captureName name =>
        match pattern.names.lookup name with
        | some index => taken index
        | none => []

def replaceMatches (pattern : Pattern) (text : Array Char) (pieces : List Piece) (done : Nat) :
    List Match → List Char
  | [] => slice text (done, text.size)
  | found :: rest =>
      slice text (done, found.start) ++ pattern.expand text found pieces ++
        pattern.replaceMatches text pieces found.stop rest

def replaceAll (pattern : Pattern) (replacement text : String) : String :=
  String.ofList <|
    pattern.replaceMatches text.toList.toArray (template replacement) 0 (pattern.findAll text)

end Pattern

end ValuePipeline
