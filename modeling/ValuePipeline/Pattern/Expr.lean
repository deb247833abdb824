import ValuePipeline.Number.Power
import ValuePipeline.Text.CharSet

/-!
# Pattern expressions

A pattern is built from single characters of a set and from assertions about the
place in the text, by sequence, choice, repetition and capture.  Choice prefers
its first part, and a repetition prefers more rounds or fewer.
-/

namespace ValuePipeline.Pattern

open ValuePipeline.Text (CharSet)

/-- Assertions about the characters before and after a place. -/
inductive Look where
  | textStart
  | textEnd
  | lineStart
  | lineEnd
  /-- Lines that may also end in a carriage return, with or without a line feed. -/
  | lineStartCrlf
  | lineEndCrlf
  | wordBoundary (unicode : Bool)
  | notWordBoundary (unicode : Bool)
  | wordStart (unicode : Bool)
  | wordEnd (unicode : Bool)
  | wordStartHalf (unicode : Bool)
  | wordEndHalf (unicode : Bool)
  deriving DecidableEq, Repr

inductive Expr where
  | empty
  | chars (set : CharSet)
  | look (look : Look)
  | capture (index : Nat) (inner : Expr)
  | sequence (first second : Expr)
  | choice (first second : Expr)
  | repetition (inner : Expr) (least : Nat) (most : Option Nat) (greedy : Bool)
  deriving Repr

namespace Expr

def ofList : List Expr → Expr
  | [] => empty
  | [expr] => expr
  | expr :: rest => sequence expr (ofList rest)

def choices : List Expr → Expr
  | [] => empty
  | [expr] => expr
  | expr :: rest => choice expr (choices rest)

def minLength : Expr → Nat
  | empty | look _ => 0
  | chars _ => 1
  | capture _ inner => inner.minLength
  | sequence first second => first.minLength + second.minLength
  | choice first second => min first.minLength second.minLength
  | repetition inner least _ _ => inner.minLength * least

/-! ## Size -/

def encodedLength (code : Nat) : Nat :=
  if code < 0x80 then 1 else if code < 0x800 then 2 else if code < 0x10000 then 3 else 4

/-- What a set of characters weighs: one state for each byte of a character, or its ranges. -/
def setWeight (set : CharSet) : Nat :=
  match set.ranges with
  | [(first, last)] =>
      if first = last then 32 * encodedLength first else 64 * encodedLength last
  | ranges =>
      ranges.foldl (fun total (_, last) =>
        total + if last < 0x80 then 8 else 32 * encodedLength last) 64

/-- An estimate, in bytes, of what an automaton for the expression takes. -/
def weight : Expr → Nat
  | empty | look _ => 32
  | chars set => setWeight set
  | capture _ inner => inner.weight + 64
  | sequence first second => first.weight + second.weight
  | choice first second => first.weight + second.weight + 40
  | repetition inner least most _ =>
      inner.weight * max 1 (most.getD least) + 40 * (most.getD least - least + 1)

/-- Patterns that weigh more are refused. -/
def maxWeight : Nat := 10 * 2 ^ 20

end Expr

end ValuePipeline.Pattern
