import ValuePipeline.Number.Power

/-!
# Replacement templates

A template is text with references to captures: `$name` takes the longest run of
ASCII letters, digits and underscores, `${name}` takes everything up to the brace,
and `$$` is a dollar sign.  A name that is a number means the capture with that
number.  A dollar sign that starts no reference stands for itself.
-/

namespace ValuePipeline.Pattern

inductive Piece where
  | char (c : Char)
  | captureIndex (index : Nat)
  | captureName (name : String)
  deriving DecidableEq, Repr

def isReferenceChar (c : Char) : Bool := c.isAlphanum || c = '_'

/-- A number of digits with perhaps a plus sign before them, as large as a size can be. -/
def indexOf? (name : List Char) : Option Nat :=
  let digits := match name with
    | '+' :: digits => digits
    | digits => digits
  if digits.isEmpty ∨ !digits.all Char.isDigit then none
  else
    let value := digits.foldl (fun total c => total * 10 + (c.toNat - '0'.toNat)) 0
    if value < 2 ^ 64 then some value else none

def reference (name : List Char) : Piece :=
  match indexOf? name with
  | some index => .captureIndex index
  | none => .captureName (String.ofList name)

def templateFrom : Nat → List Char → List Piece
  | 0, _ => []
  | _, [] => []
  | fuel + 1, '$' :: rest =>
      match rest with
      | '$' :: rest => .char '$' :: templateFrom fuel rest
      | '\x7b' :: inside =>
          let name := inside.takeWhile (· ≠ '\x7d')
          match inside.drop name.length with
          | _ :: rest => reference name :: templateFrom fuel rest
          | [] => .char '$' :: templateFrom fuel rest
      | _ =>
          let name := rest.takeWhile isReferenceChar
          if name.isEmpty then .char '$' :: templateFrom fuel rest
          else reference name :: templateFrom fuel (rest.drop name.length)
  | fuel + 1, c :: rest => .char c :: templateFrom fuel rest

def template (text : String) : List Piece :=
  templateFrom text.length text.toList

end ValuePipeline.Pattern
