import ValuePipeline.Text.CaseTable
import ValuePipeline.Text.Property

/-!
# Upper and lower case

A text changes case character by character; a character may become several.
Only the capital sigma looks around itself: at the end of a word it becomes the
final small sigma, elsewhere the other one.
-/

namespace ValuePipeline.Text

/-- Looks a code point up between two places of a table in ascending order. -/
def CaseTable.search (table : Array (Nat × List Char)) (code low high : Nat) :
    Option (List Char) :=
  if low < high then
    let middle := (low + high) / 2
    match table[middle]? with
    | none => none
    | some (key, form) =>
        if key = code then some form
        else if key < code then CaseTable.search table code (middle + 1) high
        else CaseTable.search table code low middle
  else none
termination_by high - low

def CaseTable.form (table : Array (Nat × List Char)) (c : Char) : List Char :=
  (CaseTable.search table c.toNat 0 table.size).getD [c]

def upperForm (c : Char) : List Char := CaseTable.form CaseTable.upper c

def lowerForm (c : Char) : List Char := CaseTable.form CaseTable.lower c

/-- The nearest character that casing does not ignore is a cased one. -/
def casedNext (chars : List Char) : Bool :=
  match chars.find? fun c => !Property.caseIgnorable.contains c with
  | some c => Property.cased.contains c
  | none => false

def lowerAfter (before : List Char) : List Char → List Char
  | [] => []
  | c :: rest =>
      let form :=
        if c = 'Σ' then [if casedNext before && !casedNext rest then 'ς' else 'σ']
        else lowerForm c
      form ++ lowerAfter (c :: before) rest

def toUpper (text : String) : String := String.ofList (text.toList.flatMap upperForm)

def toLower (text : String) : String := String.ofList (lowerAfter [] text.toList)

end ValuePipeline.Text
