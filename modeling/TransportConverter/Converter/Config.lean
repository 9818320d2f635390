import TransportConverter.Address
import TransportConverter.Duration
/-!
# Configuration of a converter

Who may ask (`ServerConfig.cookieAllowed`), what may not be connected to (`ServerConfig.isBlocked`),
and how much of everything there may be.
-/
namespace TransportConverter

structure ServerConfig where
  /-- Where redirected connections are accepted; port 0 takes any port. -/
  listenAddress : SocketAddress := .v4 ⟨0, 0, 0, 0⟩ 1234
  /-- The cookies that are accepted. With none, no cookie is asked for. -/
  cookies : List Bytes := []
  /-- Hosts that are never connected to. -/
  blockedDestinations : List IpAddress := []
  /-- How many sessions there may be at once. -/
  maxSessions : Nat := 1024
  /-- How long a whole request may take to arrive. -/
  headerTimeout : Duration := .ofSeconds 10
  /-- How long connecting to a destination may take. -/
  connectTimeout : Duration := .ofSeconds 10
  /-- How many requests may wait that came with the opening of their connection; 0 for none. -/
  fastOpenQueue : UInt32 := 128
  /-- Accept multipath connections where the system has them. -/
  multipath : Bool := true
  /-- How many bytes a bridge moves at a time. -/
  chunkSize : Nat := 16 * 1024
  /-- How long a shutdown waits for the last session. -/
  drainTimeout : Duration := .ofSeconds 5
  deriving DecidableEq, Repr

namespace ServerConfig

/-- The configuration for an address with everything else left as it is (`ServerConfig::new`). -/
def ofListenAddress (listenAddress : SocketAddress) : ServerConfig := { listenAddress }

/-- A cookie is asked for (`requires_cookie`). -/
def requiresCookie (config : ServerConfig) : Bool := !config.cookies.isEmpty

/-- A cookie is one of those accepted (`cookie_allowed`). -/
def cookieAllowed (config : ServerConfig) (cookie : Bytes) : Bool := config.cookies.contains cookie

/-- A mapped IPv4 address is blocked along with the address that it maps (`is_blocked`). -/
def isBlocked (config : ServerConfig) (ip : IpAddress) : Bool :=
  config.blockedDestinations.any fun blocked => blocked.canonical == ip.canonical

end ServerConfig

end TransportConverter
