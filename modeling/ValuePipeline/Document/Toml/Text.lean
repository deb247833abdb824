import ValuePipeline.Document.Numeral
import ValuePipeline.Document.Toml.Blank

/-!
# Text and keys in TOML

Text stands between double quotes, with escapes, or between single ones, without.
Three quotes open a text of several lines; up to two more quotes may stand before
the three that close it.  A key is a word or a text of one line, and a path of
keys has points between them.
-/

namespace ValuePipeline.Toml

/-! ## Escapes -/

def shortEscape? : Char → Option Char
  | 'b' => some '\x08'
  | 't' => some '\t'
  | 'n' => some '\n'
  | 'f' => some '\x0c'
  | 'r' => some '\r'
  | 'e' => some '\x1b'
  | '"' => some '"'
  | '\\' => some '\\'
  | _ => none

/-- The character whose code the digits write, if there is one. -/
def codeEscape? (digits : List Char) : Option Char := do
  let code ← Numeral.digits? 16 digits
  guard code.isValidChar
  return Char.ofNat code

/-! ## One line -/

def basicText? : List Char → Option (List Char × List Char)
  | [] => none
  | '"' :: rest => some ([], rest)
  | '\\' :: 'x' :: a :: b :: rest => do
      let c ← codeEscape? [a, b]
      let (chars, rest) ← basicText? rest
      return (c :: chars, rest)
  | '\\' :: 'u' :: a :: b :: c :: d :: rest => do
      let e ← codeEscape? [a, b, c, d]
      let (chars, rest) ← basicText? rest
      return (e :: chars, rest)
  | '\\' :: 'U' :: a :: b :: c :: d :: e :: f :: g :: h :: rest => do
      let e ← codeEscape? [a, b, c, d, e, f, g, h]
      let (chars, rest) ← basicText? rest
      return (e :: chars, rest)
  | '\\' :: c :: rest => do
      let c ← shortEscape? c
      let (chars, rest) ← basicText? rest
      return (c :: chars, rest)
  | c :: rest => do
      guard (isPrintable c)
      let (chars, rest) ← basicText? rest
      return (c :: chars, rest)

def literalText? : List Char → Option (List Char × List Char)
  | [] => none
  | '\'' :: rest => some ([], rest)
  | c :: rest => do
      guard (isPrintable c)
      let (chars, rest) ← literalText? rest
      return (c :: chars, rest)

/-! ## Several lines -/

/-- A line end right after the opening quotes does not count. -/
def skipFirstLineEnd : List Char → List Char
  | '\n' :: rest => rest
  | '\r' :: '\n' :: rest => rest
  | chars => chars

/-- The quotes that still belong to the text, after three that may close it. -/
def closing (quote : Char) : List Char → List Char × List Char
  | a :: b :: rest =>
      if a = quote ∧ b = quote then ([quote, quote], rest)
      else if a = quote then ([quote], b :: rest)
      else ([], a :: b :: rest)
  | [a] => if a = quote then ([quote], []) else ([], [a])
  | [] => ([], [])

/-- What a backslash at the end of a line still takes away. -/
inductive Fold where
  | nothing
  /-- Blanks, up to the line end that must follow. -/
  | blanks
  | lines
  deriving DecidableEq

def Fold.rank : Fold → Nat
  | nothing => 0
  | blanks | lines => 1

def basicLines? : Fold → List Char → Option (List Char × List Char)
  | _, [] => none
  | .blanks, '\r' :: '\n' :: rest => basicLines? .lines rest
  | .blanks, c :: rest =>
      if c = '\n' then basicLines? .lines rest
      else if isBlank c then basicLines? .blanks rest
      else none
  | .lines, c :: rest =>
      if isBlank c ∨ c = '\n' ∨ (c = '\r' ∧ rest.head? = some '\n') then basicLines? .lines rest
      else basicLines? .nothing (c :: rest)
  | .nothing, '"' :: '"' :: '"' :: rest => some (closing '"' rest)
  | .nothing, '\\' :: 'x' :: a :: b :: rest => do
      let c ← codeEscape? [a, b]
      let (chars, rest) ← basicLines? .nothing rest
      return (c :: chars, rest)
  | .nothing, '\\' :: 'u' :: a :: b :: c :: d :: rest => do
      let e ← codeEscape? [a, b, c, d]
      let (chars, rest) ← basicLines? .nothing rest
      return (e :: chars, rest)
  | .nothing, '\\' :: 'U' :: a :: b :: c :: d :: e :: f :: g :: h :: rest => do
      let e ← codeEscape? [a, b, c, d, e, f, g, h]
      let (chars, rest) ← basicLines? .nothing rest
      return (e :: chars, rest)
  | .nothing, '\\' :: c :: rest =>
      match shortEscape? c with
      | some c => do
          let (chars, rest) ← basicLines? .nothing rest
          return (c :: chars, rest)
      | none => basicLines? .blanks (c :: rest)
  | .nothing, '\r' :: '\n' :: rest => do
      let (chars, rest) ← basicLines? .nothing rest
      return ('\r' :: '\n' :: chars, rest)
  | .nothing, c :: rest =>
      if isPrintable c ∨ c = '\n' then do
        let (chars, rest) ← basicLines? .nothing rest
        return (c :: chars, rest)
      else none
termination_by fold chars => (chars.length, fold.rank)
decreasing_by all_goals (simp [Fold.rank]; omega)

def literalLines? : List Char → Option (List Char × List Char)
  | [] => none
  | '\'' :: '\'' :: '\'' :: rest => some (closing '\'' rest)
  | '\r' :: '\n' :: rest => do
      let (chars, rest) ← literalLines? rest
      return ('\r' :: '\n' :: chars, rest)
  | c :: rest => do
      guard (isPrintable c ∨ c = '\n')
      let (chars, rest) ← literalLines? rest
      return (c :: chars, rest)

def quotedText? : List Char → Option (List Char × List Char)
  | '"' :: '"' :: '"' :: rest => basicLines? .nothing (skipFirstLineEnd rest)
  | '\'' :: '\'' :: '\'' :: rest => literalLines? (skipFirstLineEnd rest)
  | '"' :: rest => basicText? rest
  | '\'' :: rest => literalText? rest
  | _ => none

/-! ## Keys -/

def isWordChar (c : Char) : Bool := c.isAlphanum ∨ c = '_' ∨ c = '-'

def key? : List Char → Option (String × List Char)
  | '"' :: '"' :: '"' :: _ => none
  | '\'' :: '\'' :: '\'' :: _ => none
  | '"' :: rest => (basicText? rest).map fun (chars, rest) => (String.ofList chars, rest)
  | '\'' :: rest => (literalText? rest).map fun (chars, rest) => (String.ofList chars, rest)
  | chars =>
      let word := chars.takeWhile isWordChar
      if word.isEmpty then none else some (String.ofList word, chars.dropWhile isWordChar)

/-- The largest number of keys before the last one of a path. -/
def maxPath : Nat := 80

def pathWithin? : Nat → List Char → Option (List String × List Char)
  | 0, _ => none
  | fuel + 1, chars => do
      let (key, rest) ← key? (skipBlanks chars)
      match skipBlanks rest with
      | '.' :: rest =>
          let (keys, rest) ← pathWithin? fuel rest
          return (key :: keys, rest)
      | rest => return ([key], rest)

def path? : List Char → Option (List String × List Char) := pathWithin? maxPath

end ValuePipeline.Toml
