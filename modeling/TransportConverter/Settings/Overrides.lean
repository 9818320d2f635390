import TransportConverter.Digits
import TransportConverter.Settings
import TransportConverter.Text.Blank
/-!
# Overrides

Variables of the environment that take precedence over what a settings file says. A port that is no
port is passed over, and so is a log file whose name is blank.
-/
namespace TransportConverter

namespace Settings

/-- The port that a text writes: digits with blanks around them, and perhaps a plus sign before
them. -/
def portOf? (text : String) : Option UInt16 :=
  let digits := match trimBlanks text.toList with
    | '+' :: digits => digits
    | digits => digits
  if digits.isEmpty || !digits.all Char.isDigit then none
  else if digitsValue 10 digits < UInt16.size then some (UInt16.ofNat (digitsValue 10 digits))
  else none

/-- Sets what the variable `name` overrides, if it is there. -/
def override (lookup : String → Option String) (name : String) (set : Settings → String → Settings)
    (s : Settings) : Settings :=
  match lookup name with
  | some value => set s value
  | none => s

def setConverterAddress (s : Settings) (text : String) : Settings :=
  { s with client.converterAddress := some text }

def setConverterPort (s : Settings) (text : String) : Settings :=
  match portOf? text with
  | some port => { s with client.converterPort := port }
  | none => s

def setCookie (s : Settings) (text : String) : Settings := { s with client.cookie := some text }

def setLogFile (s : Settings) (text : String) : Settings :=
  if (trimBlanks text.toList).isEmpty then s else { s with log.file := some text }

/-- The settings with the overrides that `lookup` finds (`apply_overrides`). -/
def withOverrides (s : Settings) (lookup : String → Option String) : Settings :=
  s |> override lookup "CONVERT_ADDR" setConverterAddress
    |> override lookup "CONVERT_PORT" setConverterPort
    |> override lookup "CONVERT_COOKIE" setCookie
    |> override lookup "CONVERT_LOG" setLogFile

end Settings

end TransportConverter
