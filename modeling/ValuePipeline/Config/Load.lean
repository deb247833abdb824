import ValuePipeline.Config.Read
import ValuePipeline.Document.Json
import ValuePipeline.Document.Toml
import ValuePipeline.Document.Yaml

/-!
# Loading configurations

The text is read as the format says and the tree is read as a configuration.  A
file's format is known before the file is read.
-/

namespace ValuePipeline

namespace Format

def dialect : Format → Dialect
  | json => Json.dialect
  | toml => Toml.dialect
  | yaml => Yaml.dialect

def parse? : Format → String → Option Document
  | json => Json.parse?
  | toml => Toml.parse?
  | yaml => Yaml.parse?

end Format

namespace Config

def load (format : Format) (text : String) : Except ConfigError Config :=
  match format.parse? text >>= fun document => document.read (Reading.config format.dialect) with
  | some config => .ok config
  | none => .error (.unreadable format)

def loadFile {m : Type → Type} [Monad m] (path : String)
    (readBytes : String → ExceptT FileError m ByteArray) :
    ExceptT ConfigError m (Config × Notice) := do
  let format ← ExceptT.mk (pure (Format.ofPath path))
  let bytes ← ExceptT.adapt .file (readBytes path)
  match String.fromUTF8? bytes with
  | none => throw (.file .notText)
  | some text =>
      let config ← ExceptT.mk (pure (load format text))
      return (config, .configurationLoaded path format.label config.rules.size)

end Config

end ValuePipeline
