/-!
# Blanks, lines and comments in TOML

A line ends with a line feed, which a carriage return may stand before; alone, a
carriage return is no blank.  Comments and quoted text hold no control characters
but tabs.
-/

namespace ValuePipeline.Toml

def isBlank (c : Char) : Bool := c = ' ' ∨ c = '\t'

/-- May the character stand in a comment, or between quotes? -/
def isPrintable (c : Char) : Bool := c = '\t' ∨ (' ' ≤ c ∧ c ≠ '\x7f')

def skipBlanks (chars : List Char) : List Char := chars.dropWhile isBlank

/-- Skips blanks, line ends and comments; the flag tells whether a comment has started. -/
def skipLines : Bool → List Char → Option (List Char)
  | _, [] => some []
  | _, '\r' :: '\n' :: rest => skipLines false rest
  | _, '\n' :: rest => skipLines false rest
  | true, c :: rest => if isPrintable c then skipLines true rest else none
  | false, c :: rest =>
      if isBlank c then skipLines false rest
      else if c = '#' then skipLines true rest
      else if c = '\r' then none
      else some (c :: rest)

/-- Goes to the start of the next line; nothing but a comment may stand before it. -/
def endLine : Bool → List Char → Option (List Char)
  | _, [] => some []
  | _, '\r' :: '\n' :: rest => some rest
  | _, '\n' :: rest => some rest
  | true, c :: rest => if isPrintable c then endLine true rest else none
  | false, c :: rest =>
      if isBlank c then endLine false rest
      else if c = '#' then endLine true rest
      else none

end ValuePipeline.Toml
