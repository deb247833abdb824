import ValuePipeline.Pattern.Class
import ValuePipeline.Pattern.Error
import ValuePipeline.Pattern.Expr

/-!
# Reading patterns

The written form of patterns: literal characters, `.`, classes in brackets with
`&&`, `--` and `~~`, escapes, groups with names and flags, choice, repetition and
assertions.  There are no references back and no looking around.

Flags hold from where they stand to the end of their group, so they are applied
to each part as it is read and the result is an expression without flags.
-/

namespace ValuePipeline.Pattern

open ValuePipeline.Text (CharSet)

/-! ## Flags -/

structure Flags where
  ignoreCase : Bool := false
  multiLine : Bool := false
  dotAll : Bool := false
  swapGreed : Bool := false
  unicode : Bool := true
  crlf : Bool := false
  ignoreBlank : Bool := false
  deriving DecidableEq, Repr

def Flags.set? (flags : Flags) (value : Bool) : Char → Option Flags
  | 'i' => some { flags with ignoreCase := value }
  | 'm' => some { flags with multiLine := value }
  | 's' => some { flags with dotAll := value }
  | 'U' => some { flags with swapGreed := value }
  | 'u' => some { flags with unicode := value }
  | 'R' => some { flags with crlf := value }
  | 'x' => some { flags with ignoreBlank := value }
  | _ => none

/-- Reads flags up to the character that ends them, which is kept in the rest. -/
def readFlags (flags : Flags) (value : Bool) (seen : List Char) :
    List Char → Except ParseError (Flags × List Char × List Char)
  | [] => throw .endOfPattern
  | c :: rest =>
      if c = ':' ∨ c = ')' then
        if seen.head? = some '-' then throw .badFlags else return (flags, seen, c :: rest)
      else if seen.contains c then throw .badFlags
      else if c = '-' then readFlags flags false (c :: seen) rest
      else
        match flags.set? value c with
        | some flags => readFlags flags value (c :: seen) rest
        | none => throw .badFlags

def Flags.fold (flags : Flags) (set : CharSet) : CharSet :=
  if !flags.ignoreCase then set
  else if flags.unicode then closeUnderCase set
  else closeUnderAsciiCase set

/-- Bytes above ASCII are no text by themselves, so a class of bytes must not hold any. -/
def Flags.check (flags : Flags) (set : CharSet) : Except ParseError CharSet :=
  if !flags.unicode ∧ set.ranges.any (fun range => range.2 > 0x7F) then throw .notText
  else return set

def Flags.negate (flags : Flags) (negated : Bool) (set : CharSet) : CharSet :=
  if !negated then set
  else if flags.unicode then set.complement
  else set.complement.intersection ⟨[(0, 0xFF)]⟩

/-! ## Blanks and numbers -/

def skipComments : Bool → List Char → List Char
  | _, [] => []
  | true, c :: rest => skipComments (c ≠ '\n') rest
  | false, c :: rest =>
      if Text.Property.whiteSpace.contains c then skipComments false rest
      else if c = '#' then skipComments true rest
      else c :: rest

/-- Skips blanks and comments where the flags say that they do not count. -/
def Flags.skip (flags : Flags) (chars : List Char) : List Char :=
  if flags.ignoreBlank then skipComments false chars else chars

def skipWhite (chars : List Char) : List Char :=
  chars.dropWhile Text.Property.whiteSpace.contains

def takeRun (flags : Flags) (test : Char → Bool) : Nat → List Char → List Char × List Char
  | 0, chars => ([], chars)
  | fuel + 1, chars =>
      match chars with
      | c :: rest =>
          if test c then
            let (run, rest) := takeRun flags test fuel (flags.skip rest)
            (c :: run, rest)
          else ([], c :: rest)
      | [] => ([], [])

def readCount (flags : Flags) (chars : List Char) :
    Except ParseError (Option Nat × List Char) := do
  let (digits, rest) := takeRun flags Char.isDigit chars.length (skipWhite chars)
  let rest := flags.skip (skipWhite rest)
  if digits.isEmpty then return (none, rest)
  let value := digits.foldl (fun total c => total * 10 + (c.toNat - '0'.toNat)) 0
  if value ≥ 2 ^ 32 then throw .badNumber
  return (some value, rest)

def hexValue? (c : Char) : Option Nat :=
  if '0' ≤ c ∧ c ≤ '9' then some (c.toNat - '0'.toNat)
  else if 'a' ≤ c ∧ c ≤ 'f' then some (c.toNat - 'a'.toNat + 10)
  else if 'A' ≤ c ∧ c ≤ 'F' then some (c.toNat - 'A'.toNat + 10)
  else none

def charOfHex (digits : List Char) : Except ParseError Char := do
  let mut value := 0
  for digit in digits do
    match hexValue? digit with
    | some n => value := value * 16 + n
    | none => throw .badHex
  if digits.isEmpty then throw .badHex
  if value.isValidChar then return Char.ofNat value else throw .badHex

/-! ## Escapes -/

inductive Atom where
  /-- A character, and whether it was written as a byte. -/
  | literal (c : Char) (byte : Bool)
  | look (look : Look)
  | chars (set : CharSet)

def readHexDigits (flags : Flags) : Nat → List Char → Except ParseError (List Char × List Char)
  | 0, chars => return ([], chars)
  | count + 1, chars =>
      match chars with
      | [] => throw .endOfPattern
      | c :: rest => do
          if (hexValue? c).isNone then throw .badHex
          let (digits, rest) ← readHexDigits flags count (flags.skip rest)
          return (c :: digits, rest)

/-- A character by its code: in braces, or with the number of digits its letter asks for. -/
def readHex (flags : Flags) (letter : Char) (chars : List Char) :
    Except ParseError (Atom × List Char) := do
  match flags.skip chars with
  | [] => throw .endOfPattern
  | '\x7b' :: rest =>
      let (digits, rest) := takeRun flags (· ≠ '\x7d') rest.length (flags.skip rest)
      match rest with
      | _ :: rest => return (.literal (← charOfHex digits) false, flags.skip rest)
      | [] => throw .endOfPattern
  | chars =>
      let count := if letter = 'x' then 2 else if letter = 'u' then 4 else 8
      let (digits, rest) ← readHexDigits flags count chars
      return (.literal (← charOfHex digits) (letter = 'x'), rest)

def splitAtMark (mark : List Char) : List Char → Option (List Char × List Char)
  | [] => none
  | c :: rest =>
      if (c :: rest).take mark.length = mark then some ([], (c :: rest).drop mark.length)
      else (splitAtMark mark rest).map fun (before, after) => (c :: before, after)

/-- The class a property name in braces stands for, and whether it is the others. -/
def propertyClass? (name : List Char) : Option CharSet :=
  match splitAtMark ['!', '='] name with
  | some (property, value) =>
      (valueClass? (String.ofList property) (String.ofList value)).map CharSet.complement
  | none =>
      match splitAtMark [':'] name <|> splitAtMark ['='] name with
      | some (property, value) => valueClass? (String.ofList property) (String.ofList value)
      | none => namedClass? (String.ofList name)

def readProperty (flags : Flags) (negated : Bool) (chars : List Char) :
    Except ParseError (Atom × List Char) := do
  let (found, rest) ← match flags.skip chars with
    | [] => throw .endOfPattern
    | '\x7b' :: rest =>
        let (name, rest) := takeRun flags (· ≠ '\x7d') rest.length (flags.skip rest)
        match rest with
        | _ :: rest => pure (propertyClass? name, rest)
        | [] => throw .endOfPattern
    | '\\' :: _ => throw .unknownClass
    | c :: rest => pure (namedClass? c.toString, flags.skip rest)
  if !flags.unicode then throw .notText
  match found with
  | some set => return (.chars (flags.negate negated (flags.fold set)), rest)
  | none => throw .unknownClass

/-- The special word boundaries.  A brace that starts no name is left for a repetition. -/
def readBoundary (flags : Flags) (chars : List Char) : Except ParseError (Atom × List Char) := do
  let isNameChar (c : Char) := c.isAlpha || c = '-'
  match chars with
  | '\x7b' :: rest =>
      match flags.skip rest with
      | [] => throw .endOfPattern
      | c :: inside =>
          if !isNameChar c then return (.look (.wordBoundary flags.unicode), chars)
          let (name, rest) := takeRun flags isNameChar (inside.length + 1) (c :: inside)
          match rest with
          | '\x7d' :: rest =>
              match String.ofList name with
              | "start" => return (.look (.wordStart flags.unicode), rest)
              | "end" => return (.look (.wordEnd flags.unicode), rest)
              | "start-half" => return (.look (.wordStartHalf flags.unicode), rest)
              | "end-half" => return (.look (.wordEndHalf flags.unicode), rest)
              | _ => throw .unknownBoundary
          | _ => throw .unknownBoundary
  | _ => return (.look (.wordBoundary flags.unicode), chars)

def shortClass (flags : Flags) (short : ShortClass) (negated : Bool) : Except ParseError Atom :=
  .chars <$> flags.check (flags.negate negated (short.set flags.unicode))

def readEscape (flags : Flags) : List Char → Except ParseError (Atom × List Char)
  | [] => throw .endOfPattern
  | c :: rest => do
      let literal (c : Char) : Except ParseError (Atom × List Char) :=
        return (.literal c false, rest)
      let short (class_ : ShortClass) (negated : Bool) : Except ParseError (Atom × List Char) :=
        return (← shortClass flags class_ negated, rest)
      match c with
      | 'x' | 'u' | 'U' => readHex flags c rest
      | 'p' => readProperty flags false rest
      | 'P' => readProperty flags true rest
      | 'd' => short .digit false
      | 'D' => short .digit true
      | 's' => short .blank false
      | 'S' => short .blank true
      | 'w' => short .word false
      | 'W' => short .word true
      | 'a' => literal '\x07'
      | 'f' => literal '\x0c'
      | 't' => literal '\t'
      | 'n' => literal '\n'
      | 'r' => literal '\r'
      | 'v' => literal '\x0b'
      | 'A' => return (.look .textStart, rest)
      | 'z' => return (.look .textEnd, rest)
      | 'b' => readBoundary flags rest
      | 'B' => return (.look (.notWordBoundary flags.unicode), rest)
      | '<' => return (.look (.wordStart flags.unicode), rest)
      | '>' => return (.look (.wordEnd flags.unicode), rest)
      | _ =>
          if c.isDigit then throw .backReference
          else if c.isAlpha ∨ c.toNat ≥ 0x80 then throw .unknownEscape
          else literal c

/-! ## Classes in brackets -/

structure ClassUnion where
  set : CharSet := .empty
  count : Nat := 0
  depth : Nat := 0

def ClassUnion.push (union : ClassUnion) (set : CharSet) (depth : Nat) : ClassUnion :=
  ⟨union.set.union set, union.count + 1, max union.depth depth⟩

def ClassUnion.nesting (union : ClassUnion) : Nat :=
  if union.count ≤ 1 then union.depth else union.depth + 1

inductive ClassOperator where
  | intersection
  | difference
  | symmetricDifference
  deriving DecidableEq, Repr

def ClassOperator.apply : ClassOperator → CharSet → CharSet → CharSet
  | intersection => CharSet.intersection
  | difference => CharSet.difference
  | symmetricDifference => CharSet.symmetricDifference

/-- A bracket that is open: an operation waiting for its right side, and the union so far. -/
structure ClassLevel where
  negated : Bool
  waiting : Option (ClassOperator × CharSet × Nat) := none
  union : ClassUnion := {}

def ClassLevel.value (level : ClassLevel) (flags : Flags) : CharSet × Nat :=
  match level.waiting with
  | none => (level.union.set, level.union.nesting)
  | some (operator, left, depth) =>
      (operator.apply (flags.fold left) (flags.fold level.union.set),
        max depth level.union.nesting + 1)

def ClassLevel.operate (level : ClassLevel) (flags : Flags) (operator : ClassOperator) :
    ClassLevel :=
  let (set, depth) := level.value flags
  { level with waiting := some (operator, set, depth), union := {} }

def ClassLevel.add (level : ClassLevel) (set : CharSet) (depth : Nat) : ClassLevel :=
  { level with union := level.union.push set depth }

/-- Hyphens at the start of a bracket stand for themselves. -/
def readLeadingHyphens (flags : Flags) (level : ClassLevel) :
    Nat → List Char → ClassLevel × List Char
  | fuel + 1, '-' :: rest =>
      readLeadingHyphens flags (level.add (.singleton '-') 0) fuel (flags.skip rest)
  | _, chars => (level, chars)

def openClass (flags : Flags) (chars : List Char) : Except ParseError (ClassLevel × List Char) := do
  let (negated, chars) ← match flags.skip chars with
    | [] => throw .classUnclosed
    | '^' :: rest => pure (true, flags.skip rest)
    | chars => pure (false, chars)
  let (level, chars) := readLeadingHyphens flags { negated } chars.length chars
  match chars with
  | [] => throw .classUnclosed
  | ']' :: rest =>
      if level.union.count = 0 then
        match flags.skip rest with
        | [] => throw .classUnclosed
        | rest => return (level.add (.singleton ']') 0, rest)
      else return (level, chars)
  | _ => return (level, chars)

/-- A named ASCII class after its opening bracket, if there is one. -/
def readAsciiClass? (flags : Flags) (chars : List Char) : Option (CharSet × List Char) := do
  let ':' :: rest := chars | none
  let (negated, rest) := match rest with
    | '^' :: rest => (true, rest)
    | _ => (false, rest)
  let name := rest.takeWhile (· ≠ ':')
  let ':' :: ']' :: rest := rest.dropWhile (· ≠ ':') | none
  let set ← asciiClass? (String.ofList name)
  return (flags.negate negated (flags.fold set), rest)

def readClassAtom (flags : Flags) : List Char → Except ParseError (Atom × List Char)
  | [] => throw .classUnclosed
  | '\\' :: rest => readEscape flags rest
  | c :: rest => return (.literal c false, rest)

def Atom.classChar (flags : Flags) : Atom → Except ParseError Char
  | .literal c _ => if !flags.unicode ∧ c.toNat > 0x7F then throw .notText else return c
  | _ => throw .classRangeEnds

def Atom.classSet (flags : Flags) : Atom → Except ParseError CharSet
  | .look _ => throw .classEscape
  | .chars set => return set
  | atom => return .singleton (← atom.classChar flags)

def readClassItem (flags : Flags) (level : ClassLevel) (chars : List Char) :
    Except ParseError (ClassLevel × List Char) := do
  let (first, rest) ← readClassAtom flags chars
  match flags.skip rest with
  | [] => throw .classUnclosed
  | '-' :: afterHyphen =>
      let next := (flags.skip afterHyphen).head?
      if next = some ']' ∨ next = some '-' then
        return (level.add (← first.classSet flags) 0, '-' :: afterHyphen)
      else
        let (second, rest) ← readClassAtom flags (flags.skip afterHyphen)
        let low ← first.classChar flags
        let high ← second.classChar flags
        if low.toNat > high.toNat then throw .classRangeReversed
        return (level.add ⟨[(low.toNat, high.toNat)]⟩ 0, rest)
  | rest => return (level.add (← first.classSet flags) 0, rest)

/-- Reads a class whose first bracket is open; `outer` are the brackets around the inner one. -/
def readClass (flags : Flags) :
    Nat → ClassLevel → List ClassLevel → List Char →
      Except ParseError (CharSet × Nat × List Char)
  | 0, _, _, _ => throw .classUnclosed
  | fuel + 1, level, outer, chars => do
      match flags.skip chars with
      | [] => throw .classUnclosed
      | '[' :: rest =>
          match readAsciiClass? flags rest with
          | some (set, rest) =>
              readClass flags fuel (level.add (← flags.check set) 0) outer rest
          | none =>
              let (inner, rest) ← openClass flags rest
              readClass flags fuel inner (level :: outer) rest
      | ']' :: rest =>
          let (set, depth) := level.value flags
          let set ← flags.check (flags.negate level.negated (flags.fold set))
          match outer with
          | [] => return (set, depth + 1, rest)
          | parent :: outer => readClass flags fuel (parent.add set (depth + 1)) outer rest
      | '&' :: '&' :: rest => readClass flags fuel (level.operate flags .intersection) outer rest
      | '-' :: '-' :: rest => readClass flags fuel (level.operate flags .difference) outer rest
      | '~' :: '~' :: rest =>
          readClass flags fuel (level.operate flags .symmetricDifference) outer rest
      | chars =>
          let (level, rest) ← readClassItem flags level chars
          readClass flags fuel level outer rest

/-! ## The pattern -/

/-- A part of a sequence: its expression, its nesting, and whether it can be repeated. -/
structure Part where
  expr : Expr
  depth : Nat := 0
  repeatable : Bool := true

structure Group where
  capture : Option Nat
  flags : Flags
  parts : List Part
  branches : List Part

/-- What has been read; parts and branches are kept last first. -/
structure Reading where
  flags : Flags := {}
  parts : List Part := []
  branches : List Part := []
  groups : List Group := []
  captures : Nat := 0
  names : List (String × Nat) := []

def nestingOf (parts : List Part) : Nat :=
  let deepest := (parts.map Part.depth).foldl max 0
  if parts.length ≤ 1 then deepest else deepest + 1

def sequenceOf (parts : List Part) : Part :=
  { expr := .ofList (parts.reverse.map Part.expr), depth := nestingOf parts }

def choiceOf (branches : List Part) : Part :=
  { expr := .choices (branches.reverse.map Part.expr), depth := nestingOf branches }

namespace Reading

def push (reading : Reading) (expr : Expr) (depth : Nat) : Reading :=
  { reading with parts := { expr, depth } :: reading.parts }

def level (reading : Reading) : Part :=
  choiceOf (sequenceOf reading.parts :: reading.branches)

def alternate (reading : Reading) : Reading :=
  { reading with parts := [], branches := sequenceOf reading.parts :: reading.branches }

def openGroup (reading : Reading) (capture : Option Nat) (flags : Flags) : Reading :=
  { reading with
    flags, parts := [], branches := [],
    groups := ⟨capture, reading.flags, reading.parts, reading.branches⟩ :: reading.groups }

def closeGroup (reading : Reading) : Except ParseError Reading :=
  match reading.groups with
  | [] => throw .groupUnopened
  | group :: groups =>
      let inner := reading.level
      let expr := match group.capture with
        | some index => .capture index inner.expr
        | none => inner.expr
      return {
        reading with
        flags := group.flags, branches := group.branches, groups,
        parts := { expr, depth := inner.depth + 1 } :: group.parts }

def repeatLast (reading : Reading) (least : Nat) (most : Option Nat) (greedy : Bool) :
    Except ParseError Reading :=
  match reading.parts with
  | part :: parts =>
      if part.repeatable then
        let expr := .repetition part.expr least most (greedy != reading.flags.swapGreed)
        return { reading with parts := { expr, depth := part.depth + 1 } :: parts }
      else throw .nothingToRepeat
  | [] => throw .nothingToRepeat

def literal (reading : Reading) (c : Char) : Reading :=
  reading.push (.chars (reading.flags.fold (.singleton c))) 0

def atom (reading : Reading) : Atom → Except ParseError Reading
  | .literal c byte =>
      if byte ∧ !reading.flags.unicode ∧ c.toNat > 0x7F then throw .notText
      else return reading.literal c
  | .look look => return reading.push (.look look) 0
  | .chars set => return reading.push (.chars set) 0

def dot (reading : Reading) : Except ParseError Reading :=
  if !reading.flags.unicode then throw .notText
  else
    let excluded :=
      if reading.flags.dotAll then []
      else if reading.flags.crlf then ['\n', '\r']
      else ['\n']
    return reading.push (.chars (CharSet.ofChars excluded).complement) 0

def lineStart (reading : Reading) : Reading :=
  reading.push (.look <|
    if !reading.flags.multiLine then .textStart
    else if reading.flags.crlf then .lineStartCrlf else .lineStart) 0

def lineEnd (reading : Reading) : Reading :=
  reading.push (.look <|
    if !reading.flags.multiLine then .textEnd
    else if reading.flags.crlf then .lineEndCrlf else .lineEnd) 0

end Reading

/-- Letters and the underscore start a group name; digits and some marks may follow. -/
def isNameChar (first : Bool) (c : Char) : Bool :=
  c = '_' || Text.Property.alphabetic.contains c ||
    !first && (c = '.' || c = '[' || c = ']' ||
      (Text.Category.set [.decimalNumber, .letterNumber, .otherNumber]).contains c)

def readNamedGroup (reading : Reading) (chars : List Char) :
    Except ParseError (Reading × List Char) := do
  let name := chars.takeWhile (· ≠ '>')
  match name, chars.drop name.length with
  | first :: others, _ :: rest =>
      if !(isNameChar true first && others.all (isNameChar false)) then throw .badGroupName
      let name := String.ofList name
      if (reading.names.lookup name).isSome then throw .repeatedGroupName
      let index := reading.captures + 1
      let reading := { reading with captures := index, names := (name, index) :: reading.names }
      return (reading.openGroup (some index) reading.flags, rest)
  | _, _ => throw .badGroupName

def readGroup (reading : Reading) (chars : List Char) :
    Except ParseError (Reading × List Char) := do
  match reading.flags.skip chars with
  | '?' :: '=' :: _ | '?' :: '!' :: _ | '?' :: '<' :: '=' :: _ | '?' :: '<' :: '!' :: _ =>
      throw .lookAround
  | '?' :: 'P' :: '<' :: rest | '?' :: '<' :: rest => readNamedGroup reading rest
  | '?' :: rest =>
      let (flags, seen, rest) ← readFlags reading.flags true [] rest
      match rest with
      | ':' :: rest => return (reading.openGroup none flags, rest)
      | _ :: rest =>
          if seen.isEmpty then throw .nothingToRepeat
          let mark : Part := { expr := .empty, repeatable := false }
          return ({ reading with flags, parts := mark :: reading.parts }, rest)
      | [] => throw .groupUnclosed
  | chars =>
      let index := reading.captures + 1
      let reading := { reading with captures := index }
      return (reading.openGroup (some index) reading.flags, chars)

/-- Whether a question mark follows, which makes a repetition prefer fewer rounds. -/
def readLazy (chars : List Char) : Bool × List Char :=
  match chars with
  | '?' :: rest => (false, rest)
  | _ => (true, chars)

def readRepetition (reading : Reading) (chars : List Char) :
    Except ParseError (Reading × List Char) := do
  let flags := reading.flags
  match reading.parts with
  | part :: _ => if !part.repeatable then throw .nothingToRepeat
  | [] => throw .nothingToRepeat
  let (least, rest) ← readCount flags (flags.skip chars)
  let (most, rest) ← match rest with
    | ',' :: rest =>
        match flags.skip rest with
        | '\x7d' :: rest => pure (none, '\x7d' :: rest)
        | rest => do
            let (most, rest) ← readCount flags rest
            if most.isNone then throw .badRepetition
            pure (most, rest)
    | rest => pure (least, rest)
  match least, rest with
  | some least, '\x7d' :: rest =>
      if most.any (· < least) then throw .badRepetition
      let (greedy, rest) := readLazy (flags.skip rest)
      return (← reading.repeatLast least most greedy, rest)
  | _, _ => throw .badRepetition

def readPart (reading : Reading) (c : Char) (rest : List Char) :
    Except ParseError (Reading × List Char) := do
  let repeated (least : Nat) (most : Option Nat) : Except ParseError (Reading × List Char) := do
    let (greedy, rest) := readLazy rest
    return (← reading.repeatLast least most greedy, rest)
  match c with
  | '(' => readGroup reading rest
  | ')' => return (← reading.closeGroup, rest)
  | '|' => return (reading.alternate, rest)
  | '[' =>
      let (level, rest) ← openClass reading.flags rest
      let (set, depth, rest) ← readClass reading.flags (rest.length + 1) level [] rest
      return (reading.push (.chars set) depth, rest)
  | '?' => repeated 0 (some 1)
  | '*' => repeated 0 none
  | '+' => repeated 1 none
  | '\x7b' => readRepetition reading rest
  | '\\' =>
      let (atom, rest) ← readEscape reading.flags rest
      return (← reading.atom atom, rest)
  | '.' => return (← reading.dot, rest)
  | '^' => return (reading.lineStart, rest)
  | '$' => return (reading.lineEnd, rest)
  | _ => return (reading.literal c, rest)

/-- Reads to the end; every round takes at least one character. -/
def readAll : Nat → Reading → List Char → Except ParseError Reading
  | 0, reading, _ => return reading
  | fuel + 1, reading, chars => do
      match reading.flags.skip chars with
      | [] => return reading
      | c :: rest =>
          let (reading, rest) ← readPart reading c rest
          readAll fuel reading rest

def maxDepth : Nat := 250

structure Parsed where
  expr : Expr
  captures : Nat
  names : List (String × Nat)

def parse (pattern : String) : Except ParseError Parsed := do
  let chars := pattern.toList
  let reading ← readAll (chars.length + 1) {} chars
  if !reading.groups.isEmpty then throw .groupUnclosed
  let whole := reading.level
  if whole.depth > maxDepth then throw .tooDeep
  if whole.expr.weight > Expr.maxWeight then throw .tooLarge
  return ⟨whole.expr, reading.captures, reading.names⟩

end ValuePipeline.Pattern
