import ValuePipeline.Document.Numeral
import ValuePipeline.Document.Yaml.Spot

/-!
# Scalars of YAML

A scalar can go over several lines.  A single line end in it is folded to a space
and of more than one the first is dropped, except in a literal block, which keeps
all of them.
-/

namespace ValuePipeline.Yaml

/-! ## Blanks between words -/

structure Gap where
  blanks : List Char := []
  broken : Bool := false
  firstBreak : List Char := []
  laterBreaks : List Char := []

namespace Gap

def addBlank (gap : Gap) (c : Char) : Gap :=
  if gap.broken then gap else { gap with blanks := c :: gap.blanks }

def addBreak (gap : Gap) (c : Char) : Gap :=
  if gap.broken then { gap with laterBreaks := c :: gap.laterBreaks }
  else { gap with blanks := [], broken := true, firstBreak := [c] }

/-- What the gap stands for when another word follows, last first. -/
def joined (gap : Gap) : List Char :=
  if !gap.broken then gap.blanks
  else if gap.firstBreak = ['\n'] then
    if gap.laterBreaks.isEmpty then [' '] else gap.laterBreaks
  else gap.laterBreaks ++ gap.firstBreak

end Gap

/-! ## Plain scalars -/

def isFlowMark (c : Char) : Bool := [',', '[', ']', '\x7b', '\x7d'].contains c

structure PlainEnd where
  text : List Char
  broken : Bool
  rest : Input

/--
A plain scalar whose lines are indented so far at least.  It ends before a comment,
a marker of documents, a colon with a gap after it, and, between brackets, before
a mark that divides what is there.
-/
def plainText? (flow : Bool) (indent : Int) :
    (text : List Char) → Gap → (started : Bool) → Input → Option PlainEnd
  | text, gap, _, [] => some ⟨text, gap.broken, []⟩
  | text, gap, started, spot :: rest =>
      let c := spot.char
      if isBlank c then
        if gap.broken ∧ (spot.column : Int) < indent ∧ c = '\t' then none
        else plainText? flow indent text (gap.addBlank c) true rest
      else if isBreak c then plainText? flow indent text (gap.addBreak c) true rest
      else
        let inGap := started ∧ (gap.broken ∨ !gap.blanks.isEmpty)
        let here : PlainEnd := ⟨text, gap.broken, spot :: rest⟩
        if inGap ∧ !flow ∧ (spot.column : Int) < indent then some here
        else if isDocumentMarker (spot :: rest) ∨ (c = '#' ∧ (inGap ∨ !started)) then some here
        else if flow ∧ c = ':' ∧ (charAt rest 0).any (fun c => c = '?' ∨ isFlowMark c) then none
        else if (c = ':' ∧ isGapAt rest 0) ∨ (flow ∧ isFlowMark c) then some here
        else plainText? flow indent (c :: (gap.joined ++ text)) {} true rest

/-! ## Quoted scalars -/

def shortEscape? : Char → Option Char
  | '0' => some '\x00'
  | 'a' => some '\x07'
  | 'b' => some '\x08'
  | 't' | '\t' => some '\t'
  | 'n' => some '\n'
  | 'v' => some '\x0b'
  | 'f' => some '\x0c'
  | 'r' => some '\r'
  | 'e' => some '\x1b'
  | ' ' => some ' '
  | '"' => some '"'
  | '/' => some '/'
  | '\\' => some '\\'
  | 'N' => some '\u0085'
  | '_' => some '\u00a0'
  | 'L' => some '\u2028'
  | 'P' => some '\u2029'
  | _ => none

def codeLength? : Char → Option Nat
  | 'x' => some 2
  | 'u' => some 4
  | 'U' => some 8
  | _ => none

inductive QuotePart where
  | words
  | escape
  /-- A code with so many digits still to come. -/
  | code (digits value : Nat)
  /-- A single quote, which another one may follow. -/
  | quote

def quotedText? (single : Bool) :
    (text : List Char) → Gap → QuotePart → Input → Option (List Char × Input)
  | text, gap, .quote, [] => some (gap.joined ++ text, [])
  | _, _, _, [] => none
  | text, gap, .quote, spot :: rest =>
      if spot.char = '\'' then
        quotedText? single ('\'' :: (gap.joined ++ text)) {} .words rest
      else some (gap.joined ++ text, spot :: rest)
  | text, gap, .code digits value, spot :: rest =>
      match digits, Numeral.digitValue? 16 spot.char with
      | digits + 1, some digit =>
          let value := value * 16 + digit
          if digits > 0 then quotedText? single text gap (.code digits value) rest
          else if value.isValidChar then
            quotedText? single (Char.ofNat value :: text) gap .words rest
          else none
      | _, _ => none
  | text, gap, .escape, spot :: rest =>
      if isBreak spot.char then
        quotedText? single (gap.joined ++ text) { broken := true } .words rest
      else
        match shortEscape? spot.char, codeLength? spot.char with
        | some c, _ => quotedText? single (c :: (gap.joined ++ text)) {} .words rest
        | none, some digits =>
            quotedText? single (gap.joined ++ text) {} (.code digits 0) rest
        | none, none => none
  | text, gap, .words, spot :: rest =>
      let c := spot.char
      if isBlank c then quotedText? single text (gap.addBlank c) .words rest
      else if isBreak c then quotedText? single text (gap.addBreak c) .words rest
      else if isDocumentMarker (spot :: rest) then none
      else if single ∧ c = '\'' then quotedText? single text gap .quote rest
      else if !single ∧ c = '"' then some (gap.joined ++ text, rest)
      else if !single ∧ c = '\\' then quotedText? single text gap .escape rest
      else quotedText? single (c :: (gap.joined ++ text)) {} .words rest

/-! ## Blocks -/

/-- Which line ends at the end of a block are kept. -/
inductive Chomping where
  | strip
  | clip
  | keep
  deriving DecidableEq

structure BlockHeader where
  chomping : Chomping := .clip
  /-- The indentation of the block, counted from what is around it; zero if it is not given. -/
  increment : Nat := 0

def chomping? : Char → Option Chomping
  | '+' => some .keep
  | '-' => some .strip
  | _ => none

def increment? (c : Char) : Option Nat :=
  if c.isDigit then some (c.toNat - '0'.toNat) else none

/-- The marks after the character that opens a block; an increment of zero is refused. -/
def blockHeader? (input : Input) : Option (BlockHeader × Input) := do
  let first := (charAt input 0).getD ' '
  let second := (charAt input 1).getD ' '
  let (header, length) : BlockHeader × Nat :=
    match chomping? first, increment? first with
    | some chomping, _ =>
        match increment? second with
        | some increment => (⟨chomping, increment⟩, 2)
        | none => (⟨chomping, 0⟩, 1)
    | none, some increment =>
        match chomping? second with
        | some chomping => (⟨chomping, increment⟩, 2)
        | none => (⟨.clip, increment⟩, 1)
    | none, none => ({}, 0)
  guard (header.increment > 0 ∨ !(((input.take length).map Spot.char).contains '0'))
  return (header, input.drop length)

/-- Goes past the end of a line on which only blanks and a comment may stand. -/
def endLine? (comment : Bool) : Input → Option Input
  | [] => some []
  | spot :: rest =>
      if isBreak spot.char then some rest
      else if comment ∨ isBlank spot.char then endLine? comment rest
      else if spot.char = '#' then endLine? true rest
      else none

/-- What stands before the next line of a block: line ends, and the deepest column reached. -/
structure BlockGap where
  breaks : List Char
  deepest : Nat
  rest : Input

/-- Skips indentation and empty lines; an indentation that is not known is unlimited. -/
def blockGap? (indent : Option Nat) : (breaks : List Char) → (deepest : Nat) → Input →
    Option BlockGap
  | breaks, deepest, [] => some ⟨breaks, deepest, []⟩
  | breaks, deepest, spot :: rest =>
      let c := spot.char
      let inside := indent.all (spot.column < ·)
      if inside ∧ c = ' ' then blockGap? indent breaks deepest rest
      else
        let deepest := max deepest spot.column
        if inside ∧ c = '\t' then none
        else if isBreak c then blockGap? indent (c :: breaks) deepest rest
        else some ⟨breaks, deepest, spot :: rest⟩

structure Block where
  text : List Char := []
  lineEnd : List Char := []
  breaks : List Char := []
  blankStart : Bool := false

/-- What stands between the lines before and a line that starts with a blank or not. -/
def Block.joint (literal blankStart : Bool) (block : Block) : List Char :=
  if !literal ∧ block.lineEnd = ['\n'] ∧ !block.blankStart ∧ !blankStart then
    if block.breaks.isEmpty then [' '] else block.breaks
  else block.breaks ++ block.lineEnd

/-- The lines that are indented so far; each takes a character, which bounds the fuel. -/
def blockLines? (literal : Bool) (indent : Nat) : Nat → Block → Input → Option (Block × Input)
  | 0, block, input => some (block, input)
  | fuel + 1, block, input =>
      match input with
      | [] => some (block, [])
      | spot :: _ =>
          if spot.column ≠ indent then some (block, input)
          else do
            let blankStart := isBlank spot.char
            let line := input.takeWhile fun spot => !isBreak spot.char
            let afterLine := input.dropWhile fun spot => !isBreak spot.char
            let gap ← blockGap? (some indent) [] 0 (afterLine.drop 1)
            blockLines? literal indent fuel
              { text :=
                  (line.map Spot.char).reverse ++ (block.joint literal blankStart ++ block.text)
                lineEnd := (afterLine.take 1).map Spot.char
                breaks := gap.breaks
                blankStart }
              gap.rest

def Block.chomped (chomping : Chomping) (block : Block) : List Char :=
  match chomping with
  | .strip => block.text
  | .clip => block.lineEnd ++ block.text
  | .keep => block.breaks ++ (block.lineEnd ++ block.text)

/-- A block after the character that opens it, with the indentation of what is around it. -/
def blockText? (literal : Bool) (around : Int) (input : Input) : Option (List Char × Input) := do
  let (header, rest) ← blockHeader? input
  let rest ← endLine? false rest
  let given : Option Nat :=
    if header.increment = 0 then none
    else some ((max around 0).toNat + header.increment)
  let gap ← blockGap? given [] 0 rest
  let indent := given.getD (max gap.deepest (max (around + 1) 1).toNat)
  let (block, rest) ←
    blockLines? literal indent (gap.rest.length + 1) { breaks := gap.breaks } gap.rest
  return (block.chomped header.chomping, rest)

end ValuePipeline.Yaml
