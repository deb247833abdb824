import ValuePipeline.Pattern.Expr

/-!
# Programs

A pattern is searched for by following a program.  Each instruction goes on to the
next one, jumps, or tries two places in order of preference; the last one accepts.
The code of an expression fills the places from its start to just before the code
that follows it.
-/

namespace ValuePipeline.Pattern

open ValuePipeline.Text (CharSet)

inductive Instruction where
  | chars (set : CharSet)
  | look (look : Look)
  | save (slot : Nat)
  | jump (target : Nat)
  /-- Tries the first place, then the second. -/
  | branch (first second : Nat)
  | accept
  deriving Repr

namespace Expr

/-- Length of the optional rounds of a repetition. -/
def optionalLength (inner : Nat) (rounds : Nat) : Nat := rounds * (inner + 1)

def codeLength : Expr → Nat
  | empty => 0
  | chars _ | look _ => 1
  | capture _ inner => inner.codeLength + 2
  | sequence first second => first.codeLength + second.codeLength
  | choice first second => first.codeLength + second.codeLength + 2
  | repetition inner least most _ =>
      let size := inner.codeLength
      match most with
      | some most => least * size + optionalLength size (most - least)
      | none =>
          if least = 0 then size + 2
          else least * size + 1

def preferring (greedy : Bool) (again out : Nat) : Instruction :=
  if greedy then .branch again out else .branch out again

def emitTimes (emitInner : Array Instruction → Array Instruction) :
    Nat → Array Instruction → Array Instruction
  | 0, code => code
  | times + 1, code => emitTimes emitInner times (emitInner code)

/-- Puts optional rounds in; every one of them can be left for the end. -/
def emitOptional (emitInner : Array Instruction → Array Instruction) (greedy : Bool) (out : Nat) :
    Nat → Array Instruction → Array Instruction
  | 0, code => code
  | rounds + 1, code =>
      emitOptional emitInner greedy out rounds
        (emitInner (code.push (preferring greedy (code.size + 1) out)))

/--
Adds the code of an expression.  Endless repetition of something that may match
nothing is an optional loop of at least one round, so that the order of preference
holds for rounds that match nothing.
-/
def emit : Expr → Array Instruction → Array Instruction
  | empty, code => code
  | chars set, code => code.push (.chars set)
  | look l, code => code.push (.look l)
  | capture index inner, code =>
      (inner.emit (code.push (.save (2 * index)))).push (.save (2 * index + 1))
  | sequence first second, code => second.emit (first.emit code)
  | choice first second, code =>
      let start := code.size
      let other := start + first.codeLength + 2
      let code := first.emit (code.push (.branch (start + 1) other))
      second.emit (code.push (.jump (other + second.codeLength)))
  | repetition inner least most greedy, code =>
      match most with
      | some most =>
          let code := emitTimes inner.emit least code
          let out := code.size + optionalLength inner.codeLength (most - least)
          emitOptional inner.emit greedy out (most - least) code
      | none =>
          if least = 0 then
            let start := code.size
            let out := start + inner.codeLength + 2
            let code := inner.emit (code.push (preferring greedy (start + 1) out))
            if inner.minLength > 0 then code.push (.jump start)
            else code.push (preferring greedy (start + 1) out)
          else
            let code := emitTimes inner.emit (least - 1) code
            let start := code.size
            let code := inner.emit code
            code.push (preferring greedy start (code.size + 1))

/-- The whole match is capture 0. -/
def program (expr : Expr) : Array Instruction :=
  ((expr.emit #[.save 0]).push (.save 1)).push .accept

end Expr

end ValuePipeline.Pattern
