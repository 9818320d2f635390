import TransportConverter.Path
/-!
# Where settings are kept

The directory for a user's configuration, as the environment gives it: the variable that names it,
or a directory in the user's home, or else the one for temporary files.
-/
namespace TransportConverter

namespace Settings

def directoryName : Bytes := Utf8.encode "tconv"

def fileName : Bytes := Utf8.encode "settings.json"

/-- Where temporary files go unless the environment says otherwise. -/
def temporaryDirectory : Bytes := Utf8.encode "/tmp"

/-- The directory of the settings file (`default_config_dir`). `lookup` finds the variables of the
environment. -/
def defaultDirectory (lookup : String → Option Bytes) : Path :=
  match (lookup "XDG_CONFIG_HOME").filter (· ≠ []), lookup "HOME" with
  | some directory, _ => (Path.mk directory).join directoryName
  | none, some home => ((Path.mk home).join (Utf8.encode ".config")).join directoryName
  | none, none => (Path.mk ((lookup "TMPDIR").getD temporaryDirectory)).join directoryName

/-- The settings file (`default_settings_path`). -/
def defaultPath (lookup : String → Option Bytes) : Path := (defaultDirectory lookup).join fileName

end Settings

end TransportConverter
