import TransportConverter.Address.Text
import TransportConverter.Client.Config
import TransportConverter.CommandLine.Arguments
import TransportConverter.Converter.Config
import TransportConverter.Logging.Setup
import TransportConverter.Settings.Checks
/-!
# From settings to configurations

The configurations that the program runs with. What the arguments say takes the place of what the
settings say: for a client before the settings are looked at, for a converter afterwards.
-/
namespace TransportConverter

/-- The configuration of a converter as its settings have it (`server_config`). -/
def ConverterSettings.config? (s : ConverterSettings) : Except SettingsError ServerConfig := do
  let listenAddress ← s.listenAddress?
  let blockedDestinations ← s.blockedDestinations?
  let chunkSize ← s.chunkSize?
  return {
    listenAddress
    cookies := s.cookies.map Utf8.encode
    blockedDestinations
    maxSessions := s.maxSessions.toNat
    headerTimeout := s.headerTimeout
    connectTimeout := s.connectTimeout
    fastOpenQueue := s.fastOpenQueue
    multipath := s.multipath
    chunkSize
    drainTimeout := s.drainTimeout }

/-- The configuration of a client as its settings have it (`client_config`). -/
def ClientSettings.config? (s : ClientSettings) : Except SettingsError ClientConfig := do
  let converter ← s.converter?
  return {
    converter
    cookie := s.cookie.map Utf8.encode
    fastOpen := s.fastOpen
    multipath := s.multipath
    allowTcpFallback := s.allowTcpFallback }

namespace ServeOptions

def override (o : ServeOptions) (config : ServerConfig) : ServerConfig :=
  { config with
    listenAddress := o.listen.getD config.listenAddress
    cookies := if o.cookies.isEmpty then config.cookies else o.cookies.map Utf8.encode
    maxSessions := o.maxSessions.getD config.maxSessions
    multipath := config.multipath && !o.noMultipath }

/-- The configuration of the converter to run. -/
def config? (o : ServeOptions) (s : Settings) : Except SettingsError ServerConfig :=
  s.converter.config?.map o.override

end ServeOptions

namespace ConnectOptions

/-- The settings with the address of the converter in them. -/
def setConverter (converter : Option SocketAddress) (s : ClientSettings) : ClientSettings :=
  match converter with
  | some address =>
    { s with converterAddress := some (toString address.ip), converterPort := address.port }
  | none => s

def override (o : ConnectOptions) (s : ClientSettings) : ClientSettings :=
  let s := setConverter o.converter s
  match o.cookie with
  | some cookie => { s with cookie := some cookie }
  | none => s

/-- The configuration of the client that connects. -/
def config? (o : ConnectOptions) (s : Settings) : Except SettingsError ClientConfig :=
  (o.override s.client).config?.map fun config =>
    { config with fastOpen := config.fastOpen && !o.noFastOpen }

end ConnectOptions

/-- What is logged, and where (`log_config`). -/
def LogSettings.config? (s : LogSettings) (verbose : Bool) : Except SettingsError LogConfig := do
  return { level := some (← s.level?), verbose := verbose || s.verbose, file := s.file }

end TransportConverter
