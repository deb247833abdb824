import ValuePipeline.Text.CaseTable
import ValuePipeline.Text.Category
import ValuePipeline.Text.Property
import ValuePipeline.Text.Script

/-!
# Named classes of characters

The classes a pattern can name: the one-letter ones (digits, blanks, word
characters), the bracketed ASCII ones, and the properties of the Unicode
standard.  Property names are compared without case, blanks, hyphens, underscores
and a leading `is`.
-/

namespace ValuePipeline.Pattern

open ValuePipeline.Text (CharSet Category Script Property.all)

/-- The characters that only case tells apart from one in the set, and the set itself. -/
def closeUnderCase (set : CharSet) : CharSet :=
  let added := (Text.CaseTable.classes.filter fun members =>
    members.any fun code => CharSet.containsCode code set.ranges).flatten
  set.union (.ofRanges (added.map fun code => (code, code)))

def closeUnderAsciiCase (set : CharSet) : CharSet :=
  let letters := (List.range 26).filterMap fun i =>
    if CharSet.containsCode (0x41 + i) set.ranges ∨ CharSet.containsCode (0x61 + i) set.ranges
    then some [0x41 + i, 0x61 + i] else none
  set.union (.ofRanges (letters.flatten.map fun code => (code, code)))

def rangesOf (ranges : List (Char × Char)) : CharSet :=
  .ofRanges (ranges.map fun (first, last) => (first.toNat, last.toNat))

/-! ## One-letter classes -/

inductive ShortClass where
  | digit
  | blank
  | word
  deriving DecidableEq, Repr

def wordChars : CharSet :=
  (Text.Property.alphabetic.union Text.Property.joinControl).union
    (Category.set [.nonspacingMark, .spacingMark, .enclosingMark, .decimalNumber,
      .connectorPunctuation])

def digitChars : CharSet := Category.set [.decimalNumber]

def asciiWordChars : CharSet := rangesOf [('0', '9'), ('A', 'Z'), ('_', '_'), ('a', 'z')]

def ShortClass.set (unicode : Bool) : ShortClass → CharSet
  | digit => if unicode then digitChars else rangesOf [('0', '9')]
  | blank => if unicode then Text.Property.whiteSpace else rangesOf [('\t', '\r'), (' ', ' ')]
  | word => if unicode then wordChars else asciiWordChars

/-! ## Bracketed ASCII classes -/

def asciiClass? (name : String) : Option CharSet :=
  (rangesOf ·) <$> ([
    ("alnum", [('0', '9'), ('A', 'Z'), ('a', 'z')]),
    ("alpha", [('A', 'Z'), ('a', 'z')]),
    ("ascii", [('\x00', '\x7f')]),
    ("blank", [('\t', '\t'), (' ', ' ')]),
    ("cntrl", [('\x00', '\x1f'), ('\x7f', '\x7f')]),
    ("digit", [('0', '9')]),
    ("graph", [('!', '~')]),
    ("lower", [('a', 'z')]),
    ("print", [(' ', '~')]),
    ("punct", [('!', '/'), (':', '@'), ('[', '\x60'), ('\x7b', '~')]),
    ("space", [('\t', '\r'), (' ', ' ')]),
    ("upper", [('A', 'Z')]),
    ("word", [('0', '9'), ('A', 'Z'), ('_', '_'), ('a', 'z')]),
    ("xdigit", [('0', '9'), ('A', 'F'), ('a', 'f')])] : List (String × List (Char × Char))).lookup
      name

/-! ## Properties -/

/-- A property name without what does not count in it. -/
def looseName (name : String) : String :=
  let chars := name.toList
  let lower := chars.map Char.toLower
  let hasIs := lower.take 2 = ['i', 's']
  let kept := (if hasIs then lower.drop 2 else lower).filter fun c =>
    c.toNat < 0x80 && c ≠ ' ' && c ≠ '_' && c ≠ '-'
  if hasIs ∧ kept = ['c'] then "isc" else String.ofList kept

def categoryNames : List (List String × List Category) := [
  (["lu", "uppercaseletter"], [.uppercaseLetter]),
  (["ll", "lowercaseletter"], [.lowercaseLetter]),
  (["lt", "titlecaseletter"], [.titlecaseLetter]),
  (["lc", "casedletter"], [.uppercaseLetter, .lowercaseLetter, .titlecaseLetter]),
  (["lm", "modifierletter"], [.modifierLetter]),
  (["lo", "otherletter"], [.otherLetter]),
  (["l", "letter"],
    [.uppercaseLetter, .lowercaseLetter, .titlecaseLetter, .modifierLetter, .otherLetter]),
  (["mn", "nonspacingmark"], [.nonspacingMark]),
  (["mc", "spacingmark"], [.spacingMark]),
  (["me", "enclosingmark"], [.enclosingMark]),
  (["m", "mark", "combiningmark"], [.nonspacingMark, .spacingMark, .enclosingMark]),
  (["nd", "decimalnumber", "digit"], [.decimalNumber]),
  (["nl", "letternumber"], [.letterNumber]),
  (["no", "othernumber"], [.otherNumber]),
  (["n", "number"], [.decimalNumber, .letterNumber, .otherNumber]),
  (["pc", "connectorpunctuation"], [.connectorPunctuation]),
  (["pd", "dashpunctuation"], [.dashPunctuation]),
  (["ps", "openpunctuation"], [.openPunctuation]),
  (["pe", "closepunctuation"], [.closePunctuation]),
  (["pi", "initialpunctuation"], [.initialPunctuation]),
  (["pf", "finalpunctuation"], [.finalPunctuation]),
  (["po", "otherpunctuation"], [.otherPunctuation]),
  (["p", "punctuation", "punct"],
    [.connectorPunctuation, .dashPunctuation, .openPunctuation, .closePunctuation,
      .initialPunctuation, .finalPunctuation, .otherPunctuation]),
  (["sm", "mathsymbol"], [.mathSymbol]),
  (["sc", "currencysymbol"], [.currencySymbol]),
  (["sk", "modifiersymbol"], [.modifierSymbol]),
  (["so", "othersymbol"], [.otherSymbol]),
  (["s", "symbol"], [.mathSymbol, .currencySymbol, .modifierSymbol, .otherSymbol]),
  (["zs", "spaceseparator"], [.spaceSeparator]),
  (["zl", "lineseparator"], [.lineSeparator]),
  (["zp", "paragraphseparator"], [.paragraphSeparator]),
  (["z", "separator"], [.spaceSeparator, .lineSeparator, .paragraphSeparator]),
  (["cc", "control", "cntrl"], [.control]),
  (["cf", "format"], [.format]),
  (["cs", "surrogate"], [.surrogate]),
  (["co", "privateuse"], [.privateUse]),
  (["cn", "unassigned"], [.unassigned]),
  (["c", "other"], [.control, .format, .surrogate, .privateUse, .unassigned])]

def category? (name : String) : Option CharSet :=
  if name = "any" then some .any
  else if name = "ascii" then some (rangesOf [('\x00', '\x7f')])
  else if name = "assigned" then some (Category.set [.unassigned]).complement
  else (categoryNames.find? fun (names, _) => names.contains name).map fun (_, categories) =>
    Category.set categories

def script? (name : String) : Option Script :=
  Script.all.find? fun script => looseName script.code = name ∨ looseName script.name = name ∨
    (name = "qaac" ∧ script.code = "Copt") ∨ (name = "qaai" ∧ script.code = "Zinh")

def property? (name : String) : Option CharSet :=
  if name = "space" then some Text.Property.whiteSpace
  else (Property.all.find? fun (long, short, _) =>
    looseName long = name ∨ looseName short = name).map fun (_, _, set) => set

/-- Names that are properties first, though they could be categories or scripts. -/
def isCategoryFirst (name : String) : Bool :=
  name = "cf" || name = "sc" || name = "lc"

/-- The class with one name: a yes-or-no property, a category or a script. -/
def namedClass? (name : String) : Option CharSet :=
  let name := looseName name
  (if isCategoryFirst name then none else property? name)
    <|> category? name <|> (script? name).map Script.members

def valueClass? (property value : String) : Option CharSet :=
  let value := looseName value
  match looseName property with
  | "gc" | "generalcategory" => category? value
  | "sc" | "script" => (script? value).map Script.members
  | "scx" | "scriptextensions" => (script? value).map Script.extended
  | _ => none

end ValuePipeline.Pattern
