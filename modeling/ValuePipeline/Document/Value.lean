import ValuePipeline.Number.Power

/-!
# Document values

A value is what a document says once every scalar has a type.  Numbers that are
not written as integers are told apart from integers and not from each other:
nothing that is read here takes them.
-/

namespace ValuePipeline

inductive Value where
  | null
  | bool (value : Bool)
  | integer (value : Int)
  | decimal
  | text (value : String)
  | list (items : List Value)
  | table (members : List (Value × Value))
  deriving Repr, Inhabited

namespace Value

def record (members : List (String × Value)) : Value :=
  table (members.map fun (name, value) => (text name, value))

def ofNat (n : Nat) : Value := integer n

def named (names : List String) (items : List Value) : Option (List (String × Value)) :=
  if items.length ≤ names.length then some (names.zip items) else none

def memberName? (names : List String) : Value → Option (Option String)
  | text name => some (if names.contains name then some name else none)
  | integer n => if 0 ≤ n then some names[n.toNat]? else none
  | _ => none

/-- The members of a record that are known by name; one that comes twice is refused. -/
def members? (names : List String) :
    List (Value × Value) → Option (List (String × Value))
  | [] => some []
  | (key, value) :: rest => do
      let known ← members? names rest
      match ← memberName? names key with
      | none => return known
      | some name =>
          if (known.lookup name).isSome then failure else return (name, value) :: known

/-- What a value says about the members named: as a table, or as a list in their order. -/
def fields? (names : List String) : Value → Option (List (String × Value))
  | table members => members? names members
  | list items => named names items
  | _ => none

/-! ## Reading single values -/

def text? : Value → Option String
  | text value => some value
  | _ => none

def char? : Value → Option Char
  | text value =>
      match value.toList with
      | [c] => some c
      | _ => none
  | _ => none

def size? : Value → Option UInt64
  | integer n => if 0 ≤ n ∧ n < 2 ^ 64 then some (.ofNat n.toNat) else none
  | _ => none

def optionalSize? : Value → Option (Option UInt64)
  | null => some none
  | value => some <$> value.size?

end Value

end ValuePipeline
