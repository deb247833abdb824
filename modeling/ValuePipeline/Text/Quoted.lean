import ValuePipeline.Text.Category
import ValuePipeline.Text.Property

/-!
# Quoted text

A string stands between double quotes and a character between single ones.  The
quote itself and the backslash are escaped with a backslash, the four common
controls have letters of their own, and every other character that does not show
by itself is written by its code point in hexadecimal: `\u` and braces around it.
-/

namespace ValuePipeline.Text

def visible : CharSet :=
  ((Category.set [.control, .format, .surrogate, .privateUse, .unassigned, .spaceSeparator,
    .lineSeparator, .paragraphSeparator]).union Property.graphemeExtend).complement.union
      (.singleton ' ')

def escapeCode (c : Char) : List Char :=
  ['\\', 'u', '\x7b'] ++ Nat.toDigits 16 c.toNat ++ ['\x7d']

def escape (quote c : Char) : List Char :=
  if c = quote ∨ c = '\\' then ['\\', c]
  else if c = '\x00' then ['\\', '0']
  else if c = '\t' then ['\\', 't']
  else if c = '\r' then ['\\', 'r']
  else if c = '\n' then ['\\', 'n']
  else if visible.contains c then [c]
  else escapeCode c

def quoted (text : String) : String :=
  String.ofList ('"' :: text.toList.flatMap (escape '"') ++ ['"'])

def quotedChar (c : Char) : String :=
  String.ofList ('\'' :: escape '\'' c ++ ['\''])

end ValuePipeline.Text
