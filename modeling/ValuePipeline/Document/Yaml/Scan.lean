import ValuePipeline.Document.Yaml.Scalar
import ValuePipeline.Document.Yaml.Token

/-!
# Cutting YAML into tokens

Without brackets, a list or a table starts where a mark or a key stands further in
than what is around it, and ends where a line starts further out.

What could be a key is known to be one only when a colon follows.  So the place of
the last candidate is remembered, one for each pair of brackets that is open, and
when the colon comes a token is put in there.  A candidate is given up when its
line ends; one that stands where only a key can stand must not be given up.
-/

namespace ValuePipeline.Yaml

/-- The start of something that may turn out to be a key. -/
structure Candidate where
  /-- Can only a key stand here? -/
  required : Bool
  position : Nat
  spot : Spot

structure Scanner where
  input : Input
  tokens : List Token := []
  flow : Nat := 0
  /-- The column of the innermost list or table without brackets. -/
  indent : Int := -1
  outer : List Int := []
  /-- May a key start here? -/
  keyAllowed : Bool := true
  /-- The candidates, that of the innermost brackets first. -/
  candidate : Option Candidate := none
  outerCandidates : List (Option Candidate) := []

namespace Scanner

/-! ## Single moves -/

def skip (scanner : Scanner) (n : Nat) : Scanner :=
  { scanner with input := scanner.input.drop n }

def push (token : Token) (scanner : Scanner) : Scanner :=
  { scanner with tokens := token :: scanner.tokens }

def insert (position : Nat) (token : Token) (scanner : Scanner) : Scanner :=
  let later := scanner.tokens.length - position
  { scanner with tokens := scanner.tokens.take later ++ token :: scanner.tokens.drop later }

def allowKey (allowed : Bool) (scanner : Scanner) : Scanner :=
  { scanner with keyAllowed := allowed }

/-- Gives the candidate up, which must not be a required one. -/
def dropCandidate (scanner : Scanner) : Option Scanner :=
  if scanner.candidate.any Candidate.required then none
  else some { scanner with candidate := none }

/-- Can the candidate still be a key, seen from this place? -/
def isFresh (here : Option Spot) (candidate : Candidate) : Bool :=
  match here with
  | none => false
  | some here => candidate.spot.line = here.line ∧ here.index ≤ candidate.spot.index + 1024

def refresh (here : Option Spot) (candidate : Option Candidate) : Option (Option Candidate) :=
  match candidate with
  | none => some none
  | some candidate =>
      if isFresh here candidate then some (some candidate)
      else if candidate.required then none
      else some none

def refreshAll (scanner : Scanner) : Option Scanner := do
  let here := scanner.input.head?
  return { scanner with
    candidate := ← refresh here scanner.candidate
    outerCandidates := ← scanner.outerCandidates.mapM (refresh here) }

/-- Makes what starts here the candidate, if a key may start here. -/
def offerCandidate (scanner : Scanner) : Option Scanner :=
  match scanner.input.head?, scanner.keyAllowed with
  | some spot, true => do
      let scanner ← scanner.dropCandidate
      let required := scanner.flow = 0 ∧ scanner.indent = spot.column
      return { scanner with
        candidate := some { required, position := scanner.tokens.length, spot } }
  | _, _ => some scanner

/-- Starts a list or a table at a column, if that is further in. -/
def indentTo (column position : Nat) (start : Token) (scanner : Scanner) : Scanner :=
  if scanner.flow = 0 ∧ scanner.indent < column then
    { scanner with indent := column, outer := scanner.indent :: scanner.outer }.insert
      position start
  else scanner

/-- Ends the lists and tables that stand further in than a column. -/
def dedentFrom (column indent : Int) (tokens : List Token) :
    List Int → Int × List Int × List Token
  | [] => (indent, [], tokens)
  | next :: rest =>
      if indent > column then dedentFrom column next (.blockEnd :: tokens) rest
      else (indent, next :: rest, tokens)

def dedentTo (column : Int) (scanner : Scanner) : Scanner :=
  if scanner.flow > 0 then scanner
  else
    let (indent, outer, tokens) := dedentFrom column scanner.indent scanner.tokens scanner.outer
    { scanner with indent, outer, tokens }

/-! ## Blanks and comments -/

/-- Goes to the next token, and says whether a key may start there. -/
def toToken (flow : Bool) : (keyAllowed comment : Bool) → Input → Bool × Input
  | keyAllowed, _, [] => (keyAllowed, [])
  | keyAllowed, comment, spot :: rest =>
      let c := spot.char
      if isBreak c then toToken flow (keyAllowed || !flow) false rest
      else if comment ∨ c = ' ' ∨ (c = '\t' ∧ (flow ∨ !keyAllowed)) ∨
          (c = '\ufeff' ∧ spot.column = 0) then
        toToken flow keyAllowed comment rest
      else if c = '#' then toToken flow keyAllowed true rest
      else (keyAllowed, spot :: rest)

/-! ## Directives, anchors and tags -/

def isWordChar (c : Char) : Bool := c.isAlphanum ∨ c = '_' ∨ c = '-'

def run (test : Char → Bool) (input : Input) : List Char × Input :=
  ((input.takeWhile fun spot => test spot.char).map Spot.char,
    input.dropWhile fun spot => test spot.char)

def versionNumber? (input : Input) : Option (Nat × Input) := do
  let (digits, rest) := run Char.isDigit input
  guard (digits.length ≤ 9)
  return (← Numeral.digits? 10 digits, rest)

def isTagChar (verbatim : Bool) (c : Char) : Bool :=
  isWordChar c ∨ ";/?:@&=+$.!~*'()%".contains c ∨ (verbatim ∧ ",[]".contains c)

def unescaped? : List Char → Option (List Char)
  | [] => some []
  | '%' :: a :: b :: rest => do
      let code ← Numeral.digits? 16 [a, b]
      return (if code < 128 then Char.ofNat code else '\ufffd') :: (← unescaped? rest)
  | c :: rest => if c = '%' then none else (unescaped? rest).map (c :: ·)

def tagText? (verbatim : Bool) (input : Input) : Option (String × Input) := do
  let (chars, rest) := run (isTagChar verbatim) input
  return (String.ofList (← unescaped? chars), rest)

/-- An exclamation mark, and a word and another mark if both follow. -/
def tagHandle? (input : Input) : Option (String × Input) := do
  guard (charAt input 0 = some '!')
  let (word, rest) := run isWordChar (input.drop 1)
  if charAt rest 0 = some '!' then return (String.ofList ('!' :: word ++ ['!']), rest.drop 1)
  else return (String.ofList ('!' :: word), rest)

def endTag? (flow : Bool) (input : Input) : Option Unit :=
  guard (isGapAt input 0 ∨ (flow ∧ charAt input 0 = some ','))

def tag? (flow : Bool) (input : Input) : Option (Token × Input) := do
  if charAt input 1 = some '<' then
    let (suffix, rest) ← tagText? true (input.drop 2)
    guard (suffix ≠ "" ∧ charAt rest 0 = some '>')
    endTag? flow (rest.drop 1)
    return (.tag "" suffix, rest.drop 1)
  else
    let (handle, rest) ← tagHandle? input
    let (suffix, rest) ← tagText? false rest
    endTag? flow rest
    if handle.length ≥ 2 ∧ handle.endsWith "!" then
      guard (suffix ≠ "")
      return (.tag handle suffix, rest)
    else
      let suffix := String.ofList (handle.toList.drop 1) ++ suffix
      return (if suffix = "" then .tag "" "!" else .tag "!" suffix, rest)

def anchorName? (input : Input) : Option (String × Input) := do
  let (name, rest) := run isWordChar input
  guard (!name.isEmpty)
  guard (isGapAt rest 0 ∨ (charAt rest 0).any fun c =>
    ['?', ':', ',', ']', '\x7d', '%', '@', '\x60'].contains c)
  return (String.ofList name, rest)

def skipBlanks (input : Input) : Input := (run isBlank input).2

/-- A directive after its percent sign: the version, or a handle for tags. -/
def directive? (input : Input) : Option (Token × Input) := do
  let (name, rest) := run isWordChar input
  guard (isGapAt rest 0)
  let (token, rest) ←
    match String.ofList name with
    | "YAML" => do
        let (major, rest) ← versionNumber? (skipBlanks rest)
        guard (charAt rest 0 = some '.')
        let (minor, rest) ← versionNumber? (rest.drop 1)
        pure (Token.versionDirective major minor, rest)
    | "TAG" => do
        let (handle, rest) ← tagHandle? (skipBlanks rest)
        guard (handle = "!" ∨ (handle.length ≥ 2 ∧ handle.endsWith "!"))
        guard (isBlankAt rest 0)
        let (tagStart, rest) ← tagText? true (skipBlanks rest)
        guard (tagStart ≠ "" ∧ isGapAt rest 0)
        pure (Token.tagDirective handle tagStart, rest)
    | _ => none
  return (token, ← endLine? false rest)

/-! ## Tokens -/

def directive (scanner : Scanner) : Option Scanner := do
  let scanner ← (scanner.dedentTo (-1)).dropCandidate
  let (token, input) ← directive? (scanner.input.drop 1)
  return { scanner with input, keyAllowed := false }.push token

def documentMarker (token : Token) (scanner : Scanner) : Option Scanner := do
  let scanner ← (scanner.dedentTo (-1)).dropCandidate
  return ((scanner.allowKey false).push token).skip 3

def flowStart (token : Token) (scanner : Scanner) : Option Scanner := do
  let scanner ← scanner.offerCandidate
  return ({ scanner with
    flow := scanner.flow + 1
    candidate := none
    outerCandidates := scanner.candidate :: scanner.outerCandidates
    keyAllowed := true }.push token).skip 1

def flowEnd (token : Token) (scanner : Scanner) : Option Scanner := do
  let scanner ← scanner.dropCandidate
  let scanner :=
    match scanner.outerCandidates with
    | [] => scanner
    | candidate :: outerCandidates =>
        { scanner with flow := scanner.flow - 1, candidate, outerCandidates }
  return ((scanner.allowKey false).push token).skip 1

def flowItem (scanner : Scanner) : Option Scanner := do
  let scanner ← scanner.dropCandidate
  return ((scanner.allowKey true).push .flowItem).skip 1

/-- A mark that needs a column of its own outside brackets: an item, a key, a value. -/
def indented (column : Nat) (start : Token) (scanner : Scanner) : Option Scanner :=
  if scanner.flow > 0 then some scanner
  else if !scanner.keyAllowed then none
  else some (scanner.indentTo column scanner.tokens.length start)

def blockItem (column : Nat) (scanner : Scanner) : Option Scanner := do
  let scanner ← (← scanner.indented column .blockListStart).dropCandidate
  return ((scanner.allowKey true).push .blockItem).skip 1

def key (column : Nat) (scanner : Scanner) : Option Scanner := do
  let scanner ← (← scanner.indented column .blockTableStart).dropCandidate
  return ((scanner.allowKey (scanner.flow = 0)).push .key).skip 1

/-- A colon makes a key of the candidate, or follows a key that was marked as one. -/
def value (column : Nat) (scanner : Scanner) : Option Scanner := do
  match scanner.candidate with
  | some candidate =>
      let scanner := { scanner with candidate := none, keyAllowed := false }
      let scanner := scanner.insert candidate.position .key
      let scanner := scanner.indentTo candidate.spot.column candidate.position .blockTableStart
      return (scanner.push .value).skip 1
  | none =>
      let scanner ← scanner.indented column .blockTableStart
      return ((scanner.allowKey (scanner.flow = 0)).push .value).skip 1

/-- A token that may be a key or stand before one: an anchor, an alias, a tag, a quoted scalar. -/
def property (read : Input → Option (Token × Input)) (scanner : Scanner) : Option Scanner := do
  let scanner ← scanner.offerCandidate
  let (token, input) ← read scanner.input
  return { scanner with input, keyAllowed := false }.push token

def block (literal : Bool) (scanner : Scanner) : Option Scanner := do
  let scanner ← scanner.dropCandidate
  let (text, input) ← blockText? literal scanner.indent (scanner.input.drop 1)
  let style : ScalarStyle := if literal then .literal else .quoted
  return { scanner with input, keyAllowed := true }.push (.scalar (textOf text) style)

def quoted (single : Bool) (scanner : Scanner) : Option Scanner :=
  scanner.property fun input => do
    let (text, rest) ← quotedText? single [] {} .words (input.drop 1)
    return (.scalar (textOf text) .quoted, rest)

def plain (scanner : Scanner) : Option Scanner := do
  let scanner ← scanner.offerCandidate
  let found ← plainText? (scanner.flow > 0) (scanner.indent + 1) [] {} false scanner.input
  return { scanner with input := found.rest, keyAllowed := found.broken }.push
    (.scalar (textOf found.text) .plain)

def startsNothing (c : Char) : Bool := ['#', '%', '@', '\x60', '\t'].contains c

def token (scanner : Scanner) (spot : Spot) : Option Scanner :=
  let input := scanner.input
  let flow := decide (scanner.flow > 0)
  let gap := isGapAt input 1
  if spot.column = 0 ∧ spot.char = '%' then scanner.directive
  else if isMarker '-' input then scanner.documentMarker .documentStart
  else if isMarker '.' input then scanner.documentMarker .documentEnd
  else
    match spot.char with
    | '[' => scanner.flowStart .flowListStart
    | '\x7b' => scanner.flowStart .flowTableStart
    | ']' => scanner.flowEnd .flowListEnd
    | '\x7d' => scanner.flowEnd .flowTableEnd
    | ',' => scanner.flowItem
    | '-' => if gap then scanner.blockItem spot.column else scanner.plain
    | '?' => if gap ∨ flow then scanner.key spot.column else scanner.plain
    | ':' => if gap ∨ flow then scanner.value spot.column else scanner.plain
    | '*' => scanner.property fun input =>
        (anchorName? (input.drop 1)).map fun (name, rest) => (.alias name, rest)
    | '&' => scanner.property fun input =>
        (anchorName? (input.drop 1)).map fun (name, rest) => (.anchor name, rest)
    | '!' => scanner.property (tag? flow)
    | '|' => if flow then none else scanner.block true
    | '>' => if flow then none else scanner.block false
    | '\'' => scanner.quoted true
    | '"' => scanner.quoted false
    | c => if startsNothing c then none else scanner.plain

def finish (scanner : Scanner) : Option Scanner := do
  return ((← scanner.dropCandidate).dedentTo (-1)).push .streamEnd

def next (scanner : Scanner) : Option Scanner := do
  let (keyAllowed, input) :=
    toToken (scanner.flow > 0) scanner.keyAllowed false scanner.input
  let scanner ← { scanner with keyAllowed, input }.refreshAll
  match input with
  | [] => scanner.finish
  | spot :: _ => (scanner.dedentTo spot.column).token spot

/-- Every token takes a character, so one more than there are is fuel enough. -/
def all : Nat → Scanner → Option Scanner
  | 0, _ => none
  | fuel + 1, scanner => do
      let scanner ← scanner.next
      if scanner.tokens.head? = some .streamEnd then return scanner
      else all fuel scanner

end Scanner

def tokens? (text : String) : Option (List Token) := do
  let input ← place? text
  let scanner ← Scanner.all (input.length + 1) { input }
  return scanner.tokens.reverse

end ValuePipeline.Yaml
