/-!
# Sets of characters

A set of code points is a list of ranges, ascending and with a gap between any
two.  Large sets are written as tables of gaps and lengths in base 36.
-/

namespace ValuePipeline.Text

/-! ## Numbers in base 36 -/

def base36 (c : Char) : Nat :=
  if '0' ≤ c ∧ c ≤ '9' then c.toNat - '0'.toNat else c.toNat - 'a'.toNat + 10

def number36 (digits : List Char) : Nat :=
  digits.foldl (fun total c => total * 36 + base36 c) 0

/-- The parts between separators that are not empty. -/
def words (separates : Char → Bool) (chars : List Char) : List (List Char) :=
  let (word, found) := chars.foldr (fun c (word, found) =>
    if separates c then ([], if word.isEmpty then found else word :: found)
    else (c :: word, found)) ([], [])
  if word.isEmpty then found else word :: found

/-! ## Sets -/

structure CharSet where
  ranges : List (Nat × Nat)
  deriving DecidableEq, Repr

namespace CharSet

def maxCode : Nat := 0x10FFFF

def empty : CharSet := ⟨[]⟩

def any : CharSet := ⟨[(0, maxCode)]⟩

/-- Joins ranges that meet or overlap.  The ranges come in ascending order. -/
def joinRanges : List (Nat × Nat) → List (Nat × Nat)
  | [] => []
  | [range] => [range]
  | (first, last) :: (first', last') :: rest =>
      if first' ≤ last + 1 then joinRanges ((first, max last last') :: rest)
      else (first, last) :: joinRanges ((first', last') :: rest)
termination_by ranges => ranges.length

def ofRanges (ranges : List (Nat × Nat)) : CharSet :=
  ⟨joinRanges ((ranges.filter fun range => range.1 ≤ range.2).mergeSort
    fun a b => a.1 < b.1 || (a.1 == b.1 && a.2 ≤ b.2))⟩

def singleton (c : Char) : CharSet := ⟨[(c.toNat, c.toNat)]⟩

def ofChars (chars : List Char) : CharSet :=
  ofRanges (chars.map fun c => (c.toNat, c.toNat))

private def gapRanges (start : Nat) : List Nat → List (Nat × Nat)
  | gap :: size :: rest =>
      (start + gap, start + gap + size - 1) :: gapRanges (start + gap + size) rest
  | _ => []

/-- Reads a table: gap, length, gap, length and so on. -/
def ofGaps (table : String) : CharSet :=
  ⟨gapRanges 0 ((words Char.isWhitespace table.toList).map number36)⟩

def containsCode (code : Nat) : List (Nat × Nat) → Bool
  | [] => false
  | (first, last) :: rest =>
      if code < first then false else code ≤ last || containsCode code rest

def contains (set : CharSet) (c : Char) : Bool := containsCode c.toNat set.ranges

def isEmpty (set : CharSet) : Bool := set.ranges.isEmpty

def union (a b : CharSet) : CharSet := ofRanges (a.ranges ++ b.ranges)

private def gapsFrom (start : Nat) : List (Nat × Nat) → List (Nat × Nat)
  | [] => if start ≤ maxCode then [(start, maxCode)] else []
  | (first, last) :: rest =>
      if start < first then (start, first - 1) :: gapsFrom (last + 1) rest
      else gapsFrom (last + 1) rest

def complement (set : CharSet) : CharSet := ⟨gapsFrom 0 set.ranges⟩

def intersection (a b : CharSet) : CharSet :=
  (a.complement.union b.complement).complement

def difference (a b : CharSet) : CharSet := a.intersection b.complement

def symmetricDifference (a b : CharSet) : CharSet :=
  (a.union b).difference (a.intersection b)

end CharSet

end ValuePipeline.Text
