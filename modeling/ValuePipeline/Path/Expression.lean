import ValuePipeline.Field

/-!
# Path expressions

A path expression is a function of one value, written as a tree: `|x| x.a.b`
reads field `a` of the parameter and then field `b` of that.  The tree can also
say what no pipeline can use as a place to write to, a method call, a constant
or the bare parameter, so that whoever checks it can say what is wrong.
-/

namespace ValuePipeline

variable {Ty : Type} [TypeCode Ty]

/-- A parameter is known by its number; the name is for display. -/
structure Parameter where
  id : Nat
  name : String
  deriving DecidableEq, Repr

/-- The next parameter of the program: the number is how many were made before. -/
def Parameter.new (name : String) : StateM Nat Parameter :=
  modifyGet fun made => (⟨made, name⟩, made + 1)

inductive PathNode (Ty : Type) [TypeCode Ty] where
  | parameter (parameter : Parameter)
  | member (base : PathNode Ty) (field : Descriptor Ty)
  | call (base : PathNode Ty) (method : String)
  /-- A constant, known by the text of its value. -/
  | constant (text : String)

namespace PathNode

def kind : PathNode Ty → String
  | parameter _ => "parameter reference"
  | member _ _ => "member access"
  | call _ _ => "method call"
  | constant _ => "constant"

def display : PathNode Ty → String
  | parameter p => p.name
  | member base field => base.display ++ "." ++ field.field.name
  | call base method => base.display ++ "." ++ method ++ "()"
  | constant text => text

end PathNode

/-- A function from `root` to `leaf`.  Nothing about the body is checked here. -/
structure PathExpression (root leaf : Ty) where
  parameters : List Parameter
  body : PathNode Ty

namespace PathExpression

variable {root middle leaf : Ty}

/-- The start of a path, with a parameter of its own: the one made after `made` others. -/
def identity (root : Ty) (made : Nat := 0) : PathExpression root root :=
  let x := ((Parameter.new "x").run made).1
  ⟨[x], .parameter x⟩

/-- A constant function; the value is known by its text. -/
def constant (root leaf : Ty) (text : String) (made : Nat := 0) : PathExpression root leaf :=
  ⟨[((Parameter.new "_").run made).1], .constant text⟩

def field (path : PathExpression root middle) (field : Field middle leaf) :
    PathExpression root leaf :=
  ⟨path.parameters, .member path.body (.ofField field)⟩

def call (path : PathExpression root middle) (leaf : Ty) (method : String) :
    PathExpression root leaf :=
  ⟨path.parameters, .call path.body method⟩

def display (path : PathExpression root leaf) : String :=
  "|" ++ String.intercalate ", " (path.parameters.map Parameter.name) ++ "| " ++
    path.body.display

end PathExpression

end ValuePipeline
