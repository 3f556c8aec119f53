import ShipSlap.FileTree
import ShipSlap.Toml.Section
/-!
Settings files. A service takes its settings from one section of a TOML file. Reading them
fails if the file cannot be read, or if it is not valid TOML or gives a field a value of the
wrong kind; an empty file gives every field its default.
-/
namespace ShipSlap

open ShipSlap.Toml

/-- Why settings could not be read. -/
inductive ConfigError where
  | io (path : String) (failure : ReadFailure)
  | parse
  deriving DecidableEq

/-- The text of a settings error. -/
def ConfigError.message : ConfigError → String
  | .io path failure => "Failed to read " ++ path ++ ": " ++ failure.message
  | .parse => "Failed to parse config"

/-- Reads settings from the text of a TOML file with `read`. -/
def readSettings (read : List (String × TomlValue) → Option α) (text : String) :
    Except ConfigError α :=
  match Toml.read text >>= read with
  | some a => .ok a
  | none => .error .parse

/-- Reads settings with `read` from the file at `path` of the file system a service starts in. -/
def loadSettings (read : List (String × TomlValue) → Option α) (path : String) :
    Except ConfigError α :=
  match readHostFile path with
  | .ok text => readSettings read text
  | .error failure => .error (.io path failure)

end ShipSlap
