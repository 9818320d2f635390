import TransportConverter.Address.Reader
import TransportConverter.Duration
import TransportConverter.Settings
import TransportConverter.Settings.Error
import TransportConverter.Text.Blank
/-!
# What settings mean

The values that settings write, or which of them is not one.
-/
namespace TransportConverter

namespace ConverterSettings

/-- Where the converter listens (`listen_addr`). -/
def listenAddress? (s : ConverterSettings) : Except SettingsError SocketAddress :=
  match SocketAddress.ofText? s.listenAddress.toList with
  | some address => .ok address
  | none => .error (.invalidValue "converter.listen_addr" s.listenAddress)

def blockedDestination? (text : String) : Except SettingsError IpAddress :=
  match IpAddress.ofText? text.toList with
  | some ip => .ok ip
  | none => .error (.invalidValue "converter.blocked_destinations" text)

/-- The hosts that are never connected to (`blocked_destinations`); the first that is none is the error. -/
def blockedDestinations? (s : ConverterSettings) : Except SettingsError (List IpAddress) :=
  s.blockedDestinations.mapM blockedDestination?

/-- How long a request may take (`header_timeout`); the other spans of time are alike. -/
def headerTimeout (s : ConverterSettings) : Duration := .ofSeconds s.headerTimeoutSeconds.toNat

def connectTimeout (s : ConverterSettings) : Duration := .ofSeconds s.connectTimeoutSeconds.toNat

def drainTimeout (s : ConverterSettings) : Duration := .ofSeconds s.drainTimeoutSeconds.toNat

/-- Nothing can be moved in pieces of no bytes (`chunk_size`). -/
def chunkSize? (s : ConverterSettings) : Except SettingsError Nat :=
  if s.chunkSize = 0 then .error (.invalidValue "converter.chunk_size" "0")
  else .ok s.chunkSize.toNat

end ConverterSettings

/-- Where the converter is (`converter`). Its address may have blanks around it. -/
def ClientSettings.converter? (s : ClientSettings) : Except SettingsError SocketAddress :=
  match s.converterAddress with
  | none => .error (.missing "client.converter_addr")
  | some text =>
    match IpAddress.ofText? (trimBlanks text.toList) with
    | some ip => .ok (.ofIp ip s.converterPort)
    | none => .error (.invalidValue "client.converter_addr" text)

namespace LogSettings

/-- The levels that there are (`LOG_LEVELS`). -/
def levels : List String := ["error", "warn", "info", "debug", "trace"]

/-- The level in lower case, without blanks around it (`level`). -/
def level? (s : LogSettings) : Except SettingsError String :=
  let level := String.ofList ((trimBlanks s.level.toList).map Char.toLower)
  if levels.contains level then .ok level else .error (.invalidValue "log.level" s.level)

end LogSettings

end TransportConverter
