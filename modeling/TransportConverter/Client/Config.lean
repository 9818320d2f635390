import TransportConverter.Address
/-!
# Configuration of a redirecting client
-/
namespace TransportConverter

structure ClientConfig where
  /-- Where every redirected connection goes. -/
  converter : SocketAddress
  /-- Shown with every request. -/
  cookie : Option Bytes := none
  /-- Send the request while the connection is being opened, not behind that. -/
  fastOpen : Bool := true
  /-- Open multipath sockets. -/
  multipath : Bool := true
  /-- Open a plain socket where the system refuses a multipath one. -/
  allowTcpFallback : Bool := true
  deriving DecidableEq, Repr

namespace ClientConfig

/-- The configuration for a converter with everything else left as it is (`ClientConfig::new`). -/
def ofConverter (converter : SocketAddress) : ClientConfig := { converter }

end ClientConfig

end TransportConverter
