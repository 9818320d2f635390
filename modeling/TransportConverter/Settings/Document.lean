import TransportConverter.Json.Printer
import TransportConverter.Json.Reader
import TransportConverter.Settings
/-!
# Settings as JSON

Settings are written as an object of three sections, with all their fields in it (`Settings.text`).
When they are read (`Settings.ofText?`), whatever is left out has its default, and what else an
object has is passed over. A section that is left out has the defaults of the section, and a field
that is left out of a section has the default of the field. A section may be an array as well, of
its values in the order of the fields.
-/
namespace TransportConverter

namespace JsonValue

def word16? (v : JsonValue) : Option UInt16 := (v.naturalBelow? UInt16.size).map UInt16.ofNat

def word32? (v : JsonValue) : Option UInt32 := (v.naturalBelow? UInt32.size).map UInt32.ofNat

def word64? (v : JsonValue) : Option UInt64 := (v.naturalBelow? UInt64.size).map UInt64.ofNat

/-- The object with the members of `values` under `names`. -/
def record (names : List String) (values : List JsonValue) : JsonValue :=
  object ((names.map some).zip values)

end JsonValue

open JsonValue (field natural optional record)

namespace ConverterSettings

/-- The names of the fields, in their order. -/
def fieldNames : List String :=
  ["listen_addr", "cookies", "blocked_destinations", "max_sessions", "header_timeout_secs",
    "connect_timeout_secs", "fast_open_queue", "multipath", "drain_timeout_secs", "chunk_size"]

def toJson (s : ConverterSettings) : JsonValue :=
  record fieldNames
    [.text s.listenAddress, .array (s.cookies.map .text), .array (s.blockedDestinations.map .text),
      natural s.maxSessions.toNat, natural s.headerTimeoutSeconds.toNat,
      natural s.connectTimeoutSeconds.toNat, natural s.fastOpenQueue.toNat, .bool s.multipath,
      natural s.drainTimeoutSeconds.toNat, natural s.chunkSize.toNat]

/-- What each field has when it is left out (`default_listen_addr` and its like). -/
def fieldDefaults : ConverterSettings where
  listenAddress := Settings.defaultListenAddress
  cookies := default
  blockedDestinations := default
  maxSessions := Settings.defaultMaxSessions
  headerTimeoutSeconds := Settings.defaultTimeout
  connectTimeoutSeconds := Settings.defaultTimeout
  fastOpenQueue := Settings.defaultFastOpenQueue
  multipath := Settings.defaultTrue
  drainTimeoutSeconds := Settings.defaultDrainTimeout
  chunkSize := Settings.defaultChunkSize

def ofJson? (v : JsonValue) : Option ConverterSettings := do
  match ← v.fields? fieldNames with
  | [listenAddress, cookies, blockedDestinations, maxSessions, headerTimeout, connectTimeout,
      fastOpenQueue, multipath, drainTimeout, chunkSize] =>
    return {
      listenAddress := ← field JsonValue.text? fieldDefaults.listenAddress listenAddress
      cookies := ← field (JsonValue.list? JsonValue.text?) fieldDefaults.cookies cookies
      blockedDestinations :=
        ← field (JsonValue.list? JsonValue.text?) fieldDefaults.blockedDestinations blockedDestinations
      maxSessions := ← field JsonValue.word64? fieldDefaults.maxSessions maxSessions
      headerTimeoutSeconds := ← field JsonValue.word64? fieldDefaults.headerTimeoutSeconds headerTimeout
      connectTimeoutSeconds :=
        ← field JsonValue.word64? fieldDefaults.connectTimeoutSeconds connectTimeout
      fastOpenQueue := ← field JsonValue.word32? fieldDefaults.fastOpenQueue fastOpenQueue
      multipath := ← field JsonValue.bool? fieldDefaults.multipath multipath
      drainTimeoutSeconds := ← field JsonValue.word64? fieldDefaults.drainTimeoutSeconds drainTimeout
      chunkSize := ← field JsonValue.word64? fieldDefaults.chunkSize chunkSize }
  | _ => none

end ConverterSettings

namespace ClientSettings

def fieldNames : List String :=
  ["converter_addr", "converter_port", "cookie", "fast_open", "multipath", "allow_tcp_fallback"]

def toJson (s : ClientSettings) : JsonValue :=
  record fieldNames
    [optional .text s.converterAddress, natural s.converterPort.toNat, optional .text s.cookie,
      .bool s.fastOpen, .bool s.multipath, .bool s.allowTcpFallback]

/-- What each field has when it is left out (`default_converter_port` and its like). -/
def fieldDefaults : ClientSettings where
  converterAddress := default
  converterPort := Settings.defaultConverterPort
  cookie := default
  fastOpen := Settings.defaultTrue
  multipath := Settings.defaultTrue
  allowTcpFallback := Settings.defaultTrue

def ofJson? (v : JsonValue) : Option ClientSettings := do
  match ← v.fields? fieldNames with
  | [converterAddress, converterPort, cookie, fastOpen, multipath, allowTcpFallback] =>
    return {
      converterAddress :=
        ← field (JsonValue.optional? JsonValue.text?) fieldDefaults.converterAddress converterAddress
      converterPort := ← field JsonValue.word16? fieldDefaults.converterPort converterPort
      cookie := ← field (JsonValue.optional? JsonValue.text?) fieldDefaults.cookie cookie
      fastOpen := ← field JsonValue.bool? fieldDefaults.fastOpen fastOpen
      multipath := ← field JsonValue.bool? fieldDefaults.multipath multipath
      allowTcpFallback := ← field JsonValue.bool? fieldDefaults.allowTcpFallback allowTcpFallback }
  | _ => none

end ClientSettings

namespace LogSettings

def fieldNames : List String := ["level", "verbose", "file"]

def toJson (s : LogSettings) : JsonValue :=
  record fieldNames [.text s.level, .bool s.verbose, optional .text s.file]

/-- What each field has when it is left out (`default_log_level` for the level). -/
def fieldDefaults : LogSettings where
  level := Settings.defaultLogLevel
  verbose := default
  file := default

def ofJson? (v : JsonValue) : Option LogSettings := do
  match ← v.fields? fieldNames with
  | [level, verbose, file] =>
    return {
      level := ← field JsonValue.text? fieldDefaults.level level
      verbose := ← field JsonValue.bool? fieldDefaults.verbose verbose
      file := ← field (JsonValue.optional? JsonValue.text?) fieldDefaults.file file }
  | _ => none

end LogSettings

namespace Settings

def sectionNames : List String := ["converter", "client", "log"]

def toJson (s : Settings) : JsonValue :=
  record sectionNames [s.converter.toJson, s.client.toJson, s.log.toJson]

def ofJson? (v : JsonValue) : Option Settings := do
  match ← v.fields? sectionNames with
  | [converter, client, log] =>
    return {
      converter := ← field ConverterSettings.ofJson? {} converter
      client := ← field ClientSettings.ofJson? {} client
      log := ← field LogSettings.ofJson? {} log }
  | _ => none

/-- The text that a settings file holds. -/
def text (s : Settings) : String := s.toJson.pretty

/-- The settings that the text of a file writes. -/
def ofText? (text : String) : Option Settings := (JsonValue.ofText? text.toList).bind ofJson?

end Settings

end TransportConverter
