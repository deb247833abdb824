import ValuePipeline.Text.Property

/-!
# Trimming and padding

Trimming takes characters of a set off one end of a text or off both; padding
adds a character at one end up to a width.  Lengths and positions count
characters.
-/

namespace ValuePipeline.Text

/-- What is trimmed: the characters given, or blank characters if none are. -/
def strips (chars : List Char) (c : Char) : Bool :=
  if chars.isEmpty then Property.whiteSpace.contains c else chars.contains c

def trimStart (chars : List Char) (text : String) : String :=
  String.ofList (text.toList.dropWhile (strips chars))

def trimEnd (chars : List Char) (text : String) : String :=
  String.ofList (text.toList.reverse.dropWhile (strips chars)).reverse

def trimBoth (chars : List Char) (text : String) : String :=
  String.ofList
    ((text.toList.dropWhile (strips chars)).reverse.dropWhile (strips chars)).reverse

def padding (fill : Char) (width : Nat) (text : String) : List Char :=
  List.replicate (width - text.length) fill

def padLeft (width : Nat) (fill : Char) (text : String) : String :=
  String.ofList (padding fill width text ++ text.toList)

def padRight (width : Nat) (fill : Char) (text : String) : String :=
  String.ofList (text.toList ++ padding fill width text)

end ValuePipeline.Text
