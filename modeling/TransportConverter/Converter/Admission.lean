import TransportConverter.Converter.Config
import TransportConverter.Message
/-!
# Admission

Whether a converter does what a request asks, and otherwise which code the client is sent. The
checks are made in a fixed order: there is a destination, the cookie is one of those accepted, the
destination is not blocked.
-/
namespace TransportConverter

namespace ServerConfig

/-- The code for a cookie that does not do (the check of cookies in `admit`). -/
def cookieObjection (config : ServerConfig) : Option Bytes → Option ErrorCode
  | none => if config.requiresCookie then some .missingCookie else none
  | some cookie =>
    if config.requiresCookie && !config.cookieAllowed cookie then some .notAuthorized else none

/-- The destination to connect to for a request (`admit`). -/
def grant (config : ServerConfig) (request : Message) : Except ErrorCode SocketAddress :=
  match request.connect with
  | none => .error .unsupportedMessage
  | some destination =>
    match config.cookieObjection request.cookie with
    | some code => .error code
    | none => if config.isBlocked destination.ip then .error .notAuthorized else .ok destination

end ServerConfig

end TransportConverter
