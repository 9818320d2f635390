import TransportConverter.IoError
import TransportConverter.Text.Quoted
/-!
# What can be wrong with settings
-/
namespace TransportConverter

inductive SettingsError where
  | read (error : IoError)
  | write (error : IoError)
  /-- The text is not JSON, or not the JSON of settings. -/
  | parse
  | createDirectory (error : IoError)
  | invalidValue (field value : String)
  | missing (field : String)
  deriving DecidableEq, Repr

namespace SettingsError

def message : SettingsError → String
  | read error => s!"Failed to read settings: {error.message}"
  | write error => s!"Failed to write settings: {error.message}"
  | parse => "Failed to parse settings: not the JSON of settings"
  | createDirectory error => s!"Failed to create config directory: {error.message}"
  | invalidValue field value => s!"Invalid value for {field}: {Quoted.text value}"
  | missing field => s!"Missing setting: {field}"

/-- A word for the kind of error. -/
def kind : SettingsError → String
  | read _ => "ReadError"
  | write _ => "WriteError"
  | parse => "ParseError"
  | createDirectory _ => "CreateDirError"
  | invalidValue _ _ => "InvalidValue"
  | missing _ => "Missing"

end SettingsError

end TransportConverter
