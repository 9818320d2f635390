import TransportConverter.Message.Error
import TransportConverter.Registry
import TransportConverter.IoError
/-!
# Why a redirect fails

Whatever the reason, the application sees a refused connection, as if the destination itself had
refused it (`RedirectError.toIoError`); the reason is in the text.
-/
namespace TransportConverter

inductive RedirectError where
  /-- The converter answered with an error code. -/
  | rejected (code : ErrorCode)
  /-- The converter's answer is not a message. -/
  | decode (error : DecodeError)
  | converterClosed
  | alreadyConnecting (handle : Handle)
  | failed (handle : Handle)
  | io (error : IoError)
  | registry (error : RegistryError)
  deriving DecidableEq, Repr

namespace RedirectError

def message : RedirectError → String
  | rejected code => s!"Converter rejected the redirect: {code.text}"
  | decode error => s!"Invalid converter reply: {error.message}"
  | converterClosed => "Converter closed the connection before replying"
  | alreadyConnecting handle => s!"Redirect already in progress on {handle.text}"
  | failed handle => s!"Redirect on {handle.text} already failed"
  | io error => s!"Converter I/O error: {error.message}"
  | registry error => s!"State table error: {error.message}"

/-- A word for the kind of error. -/
def kind : RedirectError → String
  | rejected _ => "Rejected"
  | decode _ => "Decode"
  | converterClosed => "ConverterClosed"
  | alreadyConnecting _ => "AlreadyConnecting"
  | failed _ => "Failed"
  | io _ => "Io"
  | registry _ => "Table"

/-- What the application sees (`to_io_error`). -/
def toIoError (e : RedirectError) : IoError := .described .connectionRefused e.message

end RedirectError

end TransportConverter
