import ValuePipeline.Pattern.Class
import ValuePipeline.Pattern.Program

/-!
# Searching

All ways to match are followed side by side, character by character, in order of
preference; two ways that meet at one instruction go on as the preferred one.  A
way that accepts ends those after it.  So the match found is the one that trying
the ways one after another would find first, in time bounded by the lengths of
the text and of the program.
-/

namespace ValuePipeline.Pattern

abbrev Slots : Type := Array (Option Nat)

/-- A place in the text: its number, and the characters before and after it. -/
structure Place where
  index : Nat
  before : Option Char
  after : List Char

def Place.next (place : Place) : Place :=
  match place.after with
  | [] => place
  | c :: rest => ⟨place.index + 1, some c, rest⟩

def Place.start (text : String) : Place := ⟨0, none, text.toList⟩

/-! ## Assertions -/

def isWord (unicode : Bool) (c : Option Char) : Bool :=
  match c with
  | some c => (if unicode then wordChars else asciiWordChars).contains c
  | none => false

def Look.holds (look : Look) (place : Place) : Bool :=
  let before := place.before
  let after := place.after.head?
  match look with
  | textStart => before.isNone
  | textEnd => after.isNone
  | lineStart => before.isNone || before = some '\n'
  | lineEnd => after.isNone || after = some '\n'
  | lineStartCrlf =>
      before.isNone || before = some '\n' || (before = some '\r' && after ≠ some '\n')
  | lineEndCrlf =>
      after.isNone || after = some '\r' || (after = some '\n' && before ≠ some '\r')
  | wordBoundary unicode => isWord unicode before != isWord unicode after
  | notWordBoundary unicode => isWord unicode before == isWord unicode after
  | wordStart unicode => !isWord unicode before && isWord unicode after
  | wordEnd unicode => isWord unicode before && !isWord unicode after
  | wordStartHalf unicode => !isWord unicode before
  | wordEndHalf unicode => !isWord unicode after

/-! ## Ways -/

structure Way where
  point : Nat
  slots : Slots

/-- The ways at one place, in order, and the instructions that have been reached there. -/
structure Front where
  ways : Array Way
  reached : Array Bool

def Front.empty (size : Nat) : Front := ⟨#[], Array.replicate size false⟩

/-- Follows jumps, branches, notes and assertions from the instructions on the stack. -/
def Front.follow (program : Array Instruction) (place : Place) :
    Nat → List Way → Front → Front
  | 0, _, front => front
  | _, [], front => front
  | fuel + 1, way :: stack, front =>
      if (front.reached[way.point]?).getD true then front.follow program place fuel stack
      else
        let front := { front with reached := front.reached.set! way.point true }
        match program[way.point]? with
        | none => front.follow program place fuel stack
        | some (.chars _) | some .accept =>
            { front with ways := front.ways.push way }.follow program place fuel stack
        | some (.look look) =>
            if look.holds place then
              front.follow program place fuel (⟨way.point + 1, way.slots⟩ :: stack)
            else front.follow program place fuel stack
        | some (.save slot) =>
            front.follow program place fuel
              (⟨way.point + 1, way.slots.set! slot (some place.index)⟩ :: stack)
        | some (.jump target) => front.follow program place fuel (⟨target, way.slots⟩ :: stack)
        | some (.branch first second) =>
            front.follow program place fuel (⟨first, way.slots⟩ :: ⟨second, way.slots⟩ :: stack)

/-- Adds a way after those that are there.  Each instruction is reached once, with two ways on. -/
def Front.add (program : Array Instruction) (place : Place) (way : Way) (front : Front) : Front :=
  front.follow program place (2 * program.size + 1) [way]

/-- Moves the ways over the next character; the first that has accepted ends the list. -/
def Front.advance (program : Array Instruction) (place : Place) :
    List Way → Front → Front × Option Slots
  | [], front => (front, none)
  | way :: ways, front =>
      match program[way.point]? with
      | some .accept => (front, some way.slots)
      | some (.chars set) =>
          match place.after with
          | c :: _ =>
              if set.contains c then
                Front.advance program place ways
                  (front.add program place.next ⟨way.point + 1, way.slots⟩)
              else Front.advance program place ways front
          | [] => Front.advance program place ways front
      | _ => Front.advance program place ways front

def searchFrom (program : Array Instruction) (slotCount : Nat) (index : Nat)
    (before : Option Char) (front : Front) (best : Option Slots) (after : List Char) :
    Option Slots :=
  let place : Place := ⟨index, before, after⟩
  let front :=
    match best with
    | none => front.add program place ⟨0, Array.replicate slotCount none⟩
    | some _ => front
  if front.ways.isEmpty ∧ best.isSome then best
  else
    let (next, found) := Front.advance program place front.ways.toList (.empty program.size)
    let best := found <|> best
    match after with
    | [] => best
    | c :: rest => searchFrom program slotCount (index + 1) (some c) next best rest
termination_by after.length

/-- The leftmost match at this place or after it, and of those the preferred one. -/
def search (program : Array Instruction) (slotCount : Nat) (place : Place) : Option Slots :=
  searchFrom program slotCount place.index place.before (.empty program.size) none place.after

end ValuePipeline.Pattern
