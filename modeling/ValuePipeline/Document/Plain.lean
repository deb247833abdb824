import ValuePipeline.Document.Node
import ValuePipeline.Document.Numeral

/-!
# Plain scalars

The type of a scalar without quotes follows from its form: a word for nothing, a
truth value, an integer in one of four bases, a number, and otherwise text.
Integers of more than 64 bits are of no type that can be read, until they exceed
128 bits and count as numbers.
-/

namespace ValuePipeline.Plain

open Numeral

def isNullWord (word : String) : Bool :=
  ["null", "Null", "NULL", "~"].contains word

def bool? (word : String) : Option Bool :=
  if ["true", "True", "TRUE"].contains word then some true
  else if ["false", "False", "FALSE"].contains word then some false
  else none

/-! ## Integers -/

/-- Digits that start with a zero they do not need are no number. -/
def hasSpareZero (chars : List Char) : Bool :=
  match chars with
  | '0' :: c :: rest => (c :: rest).all Char.isDigit
  | _ => false

/-- The digits of an integer in the base that their first characters tell. -/
def magnitude? : List Char → Option Nat
  | '0' :: 'x' :: digits => digits? 16 digits
  | '0' :: 'o' :: digits => digits? 8 digits
  | '0' :: 'b' :: digits => digits? 2 digits
  | digits => if hasSpareZero digits then none else digits? 10 digits

def integer? (chars : List Char) : Option Int :=
  match chars with
  | '+' :: digits => (magnitude? digits).map (fun n => (n : Int))
  | '-' :: digits => (magnitude? digits).map (fun n => -(n : Int))
  | digits => (magnitude? digits).map (fun n => (n : Int))

def fits (low high : Int) (n : Int) : Bool := low ≤ n ∧ n < high

/-- The value of an integer, if there is one: `none` inside when it cannot be read. -/
def integerValue? (word : String) : Option (Option Value) :=
  match integer? word.toList with
  | none => none
  | some n =>
      if fits (-2 ^ 63) (2 ^ 64) n then some (some (.integer n))
      else if fits (-2 ^ 127) (2 ^ 128) n then some none
      else none

/-! ## Numbers -/

def withoutSign (chars : List Char) : List Char :=
  match chars with
  | '+' :: rest | '-' :: rest => rest
  | chars => chars

def isDecimal (word : String) : Bool :=
  if [".inf", ".Inf", ".INF", "+.inf", "+.Inf", "+.INF", "-.inf", "-.Inf", "-.INF",
      ".nan", ".NaN", ".NAN"].contains word then true
  else
    match decimal? (withoutSign word.toList) with
    | some (digits, places, exponent) => isFinite digits places exponent
    | none => false

/-! ## Values -/

def value? (word : String) : Option Value :=
  if word.isEmpty ∨ isNullWord word then some .null
  else
    match bool? word, integerValue? word with
    | some b, _ => some (.bool b)
    | none, some value => value
    | none, none =>
        if !hasSpareZero (withoutSign word.toList) ∧ isDecimal word then some .decimal
        else some (.text word)

def declared? (kind : ScalarKind) (word : String) : Option Value :=
  match kind with
  | .null => if isNullWord word then some .null else none
  | .bool => (bool? word).map .bool
  | .integer => (integerValue? word).join
  | .decimal => if isDecimal word then some .decimal else none

def tagged? (tag : PlainTag) (word : String) : Option Value :=
  match tag with
  | .untagged => value? word
  | .kind kind => declared? kind word
  | .other => some (.text word)

end ValuePipeline.Plain
