import TransportConverter.Settings.Document
import TransportConverter.Settings.Error
import TransportConverter.Storage
/-!
# Settings files

Reading settings from a file and writing them to one. Where there is no file yet, settings have
their defaults, and either way they remember the path they were read from.
-/
namespace TransportConverter

namespace Settings

/-- Why bytes are no text. -/
def notText : IoError := .described .invalidData "stream did not contain valid UTF-8"

/-- The settings that the content of a file writes. -/
def ofContent (content : Bytes) : Except SettingsError Settings :=
  match Utf8.decode? content with
  | none => .error (.read notText)
  | some text =>
    match ofText? text with
    | some settings => .ok settings
    | none => .error .parse

variable {m : Type → Type} [Monad m] [MonadStorage m]

/-- Reads settings from a file, if there is one (`load_from`). -/
def load (path : Path) : m (Except SettingsError Settings) := do
  if ← MonadStorage.leadsSomewhere path then
    match ← MonadStorage.read path with
    | .ok content => return (ofContent content).map fun settings => { settings with path }
    | .error error => return .error (.read error)
  else return .ok { path }

/-- Creates the directory of a file, unless it is there (the first half of `save_to`). -/
def prepareDirectory (path : Path) : m (Except SettingsError Unit) := do
  match path.parent? with
  | none => return .ok ()
  | some parent =>
    if ← MonadStorage.leadsSomewhere parent then return .ok ()
    else return (← MonadStorage.createDirectories parent).mapError .createDirectory

/-- Writes settings to a file (`save_to`), which is not the one that they remember. -/
def saveTo (s : Settings) (path : Path) : m (Except SettingsError Unit) := do
  match ← prepareDirectory path with
  | .error error => return .error error
  | .ok () => return (← MonadStorage.write path (Utf8.encode s.text)).mapError .write

/-- Writes settings back to where they came from (`save`). -/
def save (s : Settings) (defaultPath : Path) : m (Except SettingsError Unit) :=
  s.saveTo (s.path.getD defaultPath)

end Settings

end TransportConverter
