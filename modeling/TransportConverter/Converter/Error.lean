import TransportConverter.Address.Text
import TransportConverter.Duration
import TransportConverter.IoError
import TransportConverter.Message.Error
import TransportConverter.Registry
/-!
# Why a session fails

A client is told of the failures that it can do something about (`ConverterError.replyCode`). Where
there is no code for it, there is nobody left to tell, or the success has been reported already.
-/
namespace TransportConverter

inductive ConverterError where
  | decode (error : DecodeError)
  | encode (error : EncodeError)
  | headerTimeout (limit : Duration)
  | clientClosed
  | rejected (code : ErrorCode)
  | bridgeConnect (destination : SocketAddress) (error : IoError)
  | io (error : IoError)
  | registry (error : RegistryError)
  | alreadyRunning (address : SocketAddress)
  | shuttingDown
  deriving DecidableEq, Repr

/-- What a client is told when its destination cannot be connected to (`connect_error_code`). -/
def connectErrorCode (error : IoError) : ErrorCode :=
  match error.kind with
  | .connectionRefused => .connectionReset
  | .timedOut => .destinationUnreachable
  | _ =>
    if error.number? = some IoError.hostUnreachable ∨
        error.number? = some IoError.networkUnreachable
    then .destinationUnreachable
    else .networkFailure

namespace ConverterError

def message : ConverterError → String
  | decode error => s!"Invalid Convert request: {error.message}"
  | encode error => s!"Cannot encode reply: {error.message}"
  | headerTimeout limit => s!"No complete request within {limit.text}"
  | clientClosed => "Client closed the connection before sending a request"
  | rejected code => s!"Request rejected: {code.text}"
  | bridgeConnect destination error => s!"Connect to {destination} failed: {error.message}"
  | io error => s!"Bridge I/O error: {error.message}"
  | registry error => s!"State table error: {error.message}"
  | alreadyRunning address => s!"Converter already running on {address}"
  | shuttingDown => "Converter is shutting down"

/-- A word for the kind of error. -/
def kind : ConverterError → String
  | decode _ => "Decode"
  | encode _ => "Encode"
  | headerTimeout _ => "HeaderTimeout"
  | clientClosed => "ClientClosed"
  | rejected _ => "Rejected"
  | bridgeConnect _ _ => "BridgeConnect"
  | io _ => "Io"
  | registry _ => "Table"
  | alreadyRunning _ => "AlreadyRunning"
  | shuttingDown => "ShuttingDown"

/-- The failure of the system behind an error. -/
def cause? : ConverterError → Option IoError
  | bridgeConnect _ error | io error => some error
  | _ => none

/-- The code that a client is sent (`reply_code`). -/
def replyCode : ConverterError → Option ErrorCode
  | decode (.unsupportedVersion _) => some .unsupportedVersion
  | decode _ => some .malformedMessage
  | headerTimeout _ => some .malformedMessage
  | rejected code => some code
  | bridgeConnect _ error => some (connectErrorCode error)
  | registry _ | shuttingDown => some .resourceExceeded
  | encode _ | clientClosed | io _ | alreadyRunning _ => none

end ConverterError

end TransportConverter
