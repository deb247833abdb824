import ValuePipeline.Error

/-!
# Formats of configuration

A configuration is written in one of three formats, which the extension of a
file's name tells.
-/

namespace ValuePipeline

inductive Format where
  | toml
  | yaml
  | json
  deriving DecidableEq, Repr

def Format.label : Format → String
  | toml => "Toml"
  | yaml => "Yaml"
  | json => "Json"

inductive FileError where
  | notFound
  /-- The bytes of the file are no text. -/
  | notText
  deriving DecidableEq, Repr

def FileError.name : FileError → String
  | notFound => "Io.NotFound"
  | notText => "Io.InvalidData"

inductive ConfigError where
  | file (error : FileError)
  /-- The text is not what the format takes, or does not say what a configuration takes. -/
  | unreadable (format : Format)
  | unsupportedFormat (path : String)
  | unknownRuleSet (name : String)
  | logging
  | setup (error : SetupError)
  deriving DecidableEq, Repr

def ConfigError.name : ConfigError → String
  | file error => error.name
  | unreadable format => format.label
  | unsupportedFormat _ => "UnsupportedFormat"
  | unknownRuleSet _ => "UnknownRuleSet"
  | logging => "Logging"
  | setup error => error.name

def ConfigError.message? : ConfigError → Option String
  | unsupportedFormat path => some ("Unsupported configuration format: " ++ path)
  | unknownRuleSet name => some ("Unknown rule set '" ++ name ++ "'")
  | setup error => some error.message
  | file _ | unreadable _ | logging => none

namespace Format

/-- The last component of a path that names something, if it is not the parent's name. -/
def fileName? (path : String) : Option String :=
  let parts := (path.splitOn "/").filter fun part => part ≠ "" ∧ part ≠ "."
  parts.getLast?.filter (· ≠ "..")

/-- What follows the last point of a name that does not start with it. -/
def extension? (name : String) : Option String :=
  match (name.splitOn ".").reverse with
  | last :: before :: earlier =>
      if before = "" ∧ earlier.isEmpty then none else some last
  | _ => none

/-- Extensions may be in letters of either case. -/
def ofExtension? (extension : String) : Option Format :=
  match extension.map Char.toLower with
  | "toml" => some toml
  | "yaml" | "yml" => some yaml
  | "json" => some json
  | _ => none

def ofPath (path : String) : Except ConfigError Format :=
  match fileName? path >>= extension? >>= ofExtension? with
  | some format => .ok format
  | none => .error (.unsupportedFormat path)

end Format

end ValuePipeline
