import Lookout.Config.Toml
import Lookout.Event

/-! # Configuration layers
The configuration in force is made of **layers**: the file in the user's home directory, then the one
of the project, which wins. A file that does not exist is no layer. The first file that cannot be read
or makes no sense ends the loading, and so does a value that cannot be used once all layers are
merged. -/

namespace Lookout

/-- A **layer**: the path of a configuration file and what was found there. -/
structure Layer where
  /-- The path. -/
  path : String
  /-- The text of the file, or why it has none. -/
  file : Except ReadFault String

namespace Layer

/-- The path of the configuration file under a directory. -/
def pathUnder (directory : String) : String :=
  let separator := if directory.isEmpty || directory.endsWith "/" then "" else "/"
  directory ++ separator ++ ".runwatch/config.toml"

/-- The configuration of a layer, if its file exists. -/
def config (l : Layer) : Except ConfigError (Option Config) :=
  match l.file with
  | .error .notFound => .ok none
  | .error fault => .error (.read fault)
  | .ok text =>
    match Config.ofText? text with
    | some c => .ok (some c)
    | none => .error (.parse l.path "the document is not a configuration")

end Layer

namespace Config

/-- Merge layers into a configuration, the later ones winning, and report those that exist. -/
def mergeLayers (base : Config) : List Layer → Except ConfigError Config × List Event
  | [] => (.ok base, [])
  | l :: ls =>
    match l.config with
    | .error e => (.error e, [])
    | .ok none => mergeLayers base ls
    | .ok (some c) =>
      let (result, es) := mergeLayers (base.merge c) ls
      (result, .configLayerLoaded l.path :: es)

/-- The configuration that layers make, checked. -/
def load (ls : List Layer) : Except ConfigError Config × List Event :=
  let (result, es) := mergeLayers unset ls
  (result.bind validate, es)

end Config

end Lookout
