/-!
# Characters in place

YAML looks at where a character stands: indentation says how lists and tables
nest, and a key must end on the line it starts on.  So a text is read as a list
of characters with their places.

The usual line ends, a next-line character among them, all count as a line feed;
the line and the paragraph separator are line ends that stay what they are.
-/

namespace ValuePipeline.Yaml

structure Spot where
  char : Char
  index : Nat
  line : Nat
  column : Nat
  deriving DecidableEq, Repr

abbrev Input : Type := List Spot

def isSeparator (c : Char) : Bool := c = '\u2028' ∨ c = '\u2029'

def isBreak (c : Char) : Bool := c = '\n' ∨ isSeparator c

def isBlank (c : Char) : Bool := c = ' ' ∨ c = '\t'

/-- May the character stand in a document? -/
def isAllowed (c : Char) : Bool :=
  ['\t', '\n', '\r', '\u0085'].contains c ∨ (' ' ≤ c ∧ c ≤ '~') ∨
    ('\u00a0' ≤ c ∧ c ≠ '\ufffe' ∧ c ≠ '\uffff')

def placeFrom : Nat → Nat → Nat → List Char → Input
  | _, _, _, [] => []
  | index, line, column, '\r' :: '\n' :: rest =>
      ⟨'\n', index, line, column⟩ :: placeFrom (index + 1) (line + 1) 0 rest
  | index, line, column, c :: rest =>
      if c = '\r' ∨ c = '\u0085' ∨ c = '\n' then
        ⟨'\n', index, line, column⟩ :: placeFrom (index + 1) (line + 1) 0 rest
      else if isSeparator c then
        ⟨c, index, line, column⟩ :: placeFrom (index + 1) (line + 1) 0 rest
      else ⟨c, index, line, column⟩ :: placeFrom (index + 1) line (column + 1) rest

/-- The characters of a text with their places; a mark of the byte order at the start is none. -/
def place? (text : String) : Option Input :=
  let chars :=
    match text.toList with
    | '\ufeff' :: rest => rest
    | chars => chars
  if chars.all isAllowed then some (placeFrom 0 0 0 chars) else none

/-! ## Looking ahead -/

def charAt (input : Input) (n : Nat) : Option Char := input[n]?.map Spot.char

def isGapAt (input : Input) (n : Nat) : Bool :=
  match charAt input n with
  | none => true
  | some c => isBlank c || isBreak c

def isBlankAt (input : Input) (n : Nat) : Bool := (charAt input n).any isBlank

def isMarker (c : Char) (input : Input) : Bool :=
  (input.head?.any fun spot => spot.column = 0) &&
    ((input.take 3).map Spot.char = [c, c, c]) && isGapAt input 3

def isDocumentMarker (input : Input) : Bool := isMarker '-' input || isMarker '.' input

def textOf (reversed : List Char) : String := String.ofList reversed.reverse

end ValuePipeline.Yaml
