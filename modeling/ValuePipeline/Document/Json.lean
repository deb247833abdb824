import ValuePipeline.Document.Node
import ValuePipeline.Document.Numeral
import ValuePipeline.Document.Record

/-!
# JSON

The text is cut into tokens, and the tokens are put together by a machine that
keeps the lists and tables that are still open on a stack.  A number too large
for double precision and a text with half a surrogate pair are nodes that can be
passed over but not read.
-/

namespace ValuePipeline.Json

/-! ## Tokens -/

inductive Token where
  | openList
  | closeList
  | openTable
  | closeTable
  | comma
  | colon
  | text (node : Node)
  | scalar (node : Node)

def isBlank (c : Char) : Bool := [' ', '\t', '\n', '\r'].contains c

inductive Piece where
  | char (c : Char)
  | unit (code : Nat)

def shortEscape? : Char → Option Char
  | '"' => some '"'
  | '\\' => some '\\'
  | '/' => some '/'
  | 'b' => some '\x08'
  | 'f' => some '\x0c'
  | 'n' => some '\n'
  | 'r' => some '\r'
  | 't' => some '\t'
  | _ => none

/-- What stands before the closing quote, and what follows it. -/
def pieces? : List Char → Option (List Piece × List Char)
  | [] => none
  | '"' :: rest => some ([], rest)
  | '\\' :: 'u' :: a :: b :: c :: d :: rest => do
      let code ← Numeral.digits? 16 [a, b, c, d]
      let (pieces, rest) ← pieces? rest
      return (.unit code :: pieces, rest)
  | '\\' :: c :: rest => do
      let c ← shortEscape? c
      let (pieces, rest) ← pieces? rest
      return (.char c :: pieces, rest)
  | c :: rest => do
      guard (' ' ≤ c)
      let (pieces, rest) ← pieces? rest
      return (.char c :: pieces, rest)

def isHighSurrogate (code : Nat) : Bool := 0xD800 ≤ code ∧ code < 0xDC00

def isLowSurrogate (code : Nat) : Bool := 0xDC00 ≤ code ∧ code < 0xE000

/-- The characters of the pieces, if every surrogate is one of a pair. -/
def joined? : List Piece → Option (List Char)
  | [] => some []
  | .char c :: rest => (joined? rest).map (c :: ·)
  | .unit high :: .unit low :: rest =>
      if isHighSurrogate high then
        if isLowSurrogate low then
          (joined? rest).map
            (Char.ofNat (0x10000 + (high - 0xD800) * 0x400 + (low - 0xDC00)) :: ·)
        else none
      else if isLowSurrogate high then none
      else (joined? (.unit low :: rest)).map (Char.ofNat high :: ·)
  | .unit code :: rest =>
      if isHighSurrogate code ∨ isLowSurrogate code then none
      else (joined? rest).map (Char.ofNat code :: ·)

def textNode (pieces : List Piece) : Node :=
  match joined? pieces with
  | some chars => .text (String.ofList chars)
  | none => .unreadable

/-! ## Numbers -/

def isNumberChar (c : Char) : Bool := c.isDigit || ['+', '-', '.', 'e', 'E'].contains c

def isNumber (chars : List Char) : Bool :=
  let whole := chars.takeWhile Char.isDigit
  let afterWhole := chars.dropWhile Char.isDigit
  let part := (afterWhole.drop 1).takeWhile Char.isDigit
  let (partGood, afterPart) :=
    match afterWhole with
    | '.' :: rest => (!part.isEmpty, rest.dropWhile Char.isDigit)
    | rest => (true, rest)
  let exponentGood :=
    match afterPart with
    | [] => true
    | c :: digits => (c = 'e' ∨ c = 'E') && (Numeral.exponent? digits).isSome
  !whole.isEmpty && (whole = ['0'] || whole.head? ≠ some '0') && partGood && exponentGood

/-- A negative zero is no integer, and neither is what does not fit in 64 bits. -/
def numberNode? (chars : List Char) : Option Node :=
  let negative := chars.head? = some '-'
  let unsigned := if negative then chars.drop 1 else chars
  if !isNumber unsigned then none
  else
    let asDecimal : Node :=
      match Numeral.decimal? unsigned with
      | some (digits, places, exponent) =>
          if Numeral.isFinite digits places exponent then .decimal else .unreadable
      | none => .unreadable
    match Numeral.digits? 10 unsigned with
    | some n =>
        if !negative ∧ n < 2 ^ 64 then some (.integer n)
        else if negative ∧ 0 < n ∧ n ≤ 2 ^ 63 then some (.integer (-n))
        else some asDecimal
    | none => some asDecimal

def word? (word : String) : Option Node :=
  match word with
  | "null" => some .null
  | "true" => some (.bool true)
  | "false" => some (.bool false)
  | _ => none

def token? : List Char → Option (Token × List Char)
  | '[' :: rest => some (.openList, rest)
  | ']' :: rest => some (.closeList, rest)
  | '\x7b' :: rest => some (.openTable, rest)
  | '\x7d' :: rest => some (.closeTable, rest)
  | ',' :: rest => some (.comma, rest)
  | ':' :: rest => some (.colon, rest)
  | '"' :: rest => do
      let (pieces, rest) ← pieces? rest
      return (.text (textNode pieces), rest)
  | chars =>
      if chars.head?.any Char.isAlpha then do
        let node ← word? (String.ofList (chars.takeWhile Char.isAlpha))
        return (.scalar node, chars.dropWhile Char.isAlpha)
      else do
        let node ← numberNode? (chars.takeWhile isNumberChar)
        return (.scalar node, chars.dropWhile isNumberChar)

/-- All tokens; each takes at least one character, so as much fuel as there are is enough. -/
def tokensFrom? : Nat → List Char → Option (List Token)
  | 0, chars => if chars.all isBlank then some [] else none
  | fuel + 1, chars =>
      match chars.dropWhile isBlank with
      | [] => some []
      | chars => do
          let (token, rest) ← token? chars
          return token :: (← tokensFrom? fuel rest)

def tokens? (text : String) : Option (List Token) :=
  tokensFrom? text.length text.toList

/-! ## Trees -/

/-- A list or a table that is still open, with what is in it, last first. -/
inductive Open where
  | list (items : List Node)
  | member (members : List (Node × Node)) (name : Node)

inductive State where
  | value (around : List Open)
  /-- After the bracket that opens a list. -/
  | firstItem (around : List Open)
  | key (members : List (Node × Node)) (first : Bool) (around : List Open)
  | colon (members : List (Node × Node)) (name : Node) (around : List Open)
  | complete (node : Node) (around : List Open)

def State.start (around : List Open) : Token → Option State
  | .scalar node | .text node => some (.complete node around)
  | .openList => some (.firstItem around)
  | .openTable => some (.key [] true around)
  | _ => none

def State.step : State → Token → Option State
  | .value around, token => start around token
  | .firstItem around, .closeList => some (.complete (.list []) around)
  | .firstItem around, token => start (.list [] :: around) token
  | .key _ true around, .closeTable => some (.complete (.table []) around)
  | .key members _ around, .text name => some (.colon members name around)
  | .colon members name around, .colon => some (.value (.member members name :: around))
  | .complete node (.list items :: around), .comma =>
      some (.value (.list (node :: items) :: around))
  | .complete node (.list items :: around), .closeList =>
      some (.complete (.list (node :: items).reverse) around)
  | .complete node (.member members name :: around), .comma =>
      some (.key ((name, node) :: members) false around)
  | .complete node (.member members name :: around), .closeTable =>
      some (.complete (.table ((name, node) :: members).reverse) around)
  | _, _ => none

def parse? (text : String) : Option Document := do
  match ← (← tokens? text).foldlM State.step (.value []) with
  | .complete node [] => return { root := node }
  | _ => failure

def isNull : Node → Bool
  | .null => true
  | _ => false

def dialect : Dialect where
  positional := .exact
  wordTables := true
  isUnit := isNull
  depth := 127

end ValuePipeline.Json
