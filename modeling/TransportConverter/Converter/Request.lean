import TransportConverter.Converter.Error
import TransportConverter.Message.Decoding
/-!
# Taking a request off a connection

`RequestReader` takes exactly one message and leaves what the application sent behind it (`read_request`).
It looks at the header first, to learn how long the message is, and then takes the message in one go. Where
the header has arrived in pieces, it waits for it and takes it, and takes the rest after that.

A call of `peek` waits for at least one byte or the end of the stream; a call of `receiveExact`
waits for all its bytes, or says that the stream has ended.
-/
namespace TransportConverter

/-- A reader that waits for the connection. -/
inductive RequestReader where
  | peeking
  | takingHeader
  /-- For `count` more bytes, behind a header that was taken unless `taken` is empty. -/
  | takingRest (taken : Bytes) (count : Nat)
  deriving DecidableEq, Repr

/-- What a reader asks of its connection. -/
inductive RequestCall where
  | peek (room : Nat)
  | receiveExact (count : Nat)
  deriving DecidableEq, Repr

/-- Where a reader has got to. -/
inductive RequestProgress where
  | done (result : Except ConverterError Bytes)
  | waiting (reader : RequestReader)

namespace RequestReader

def start : RequestReader := peeking

def call : RequestReader → RequestCall
  | peeking => .peek headerLength
  | takingHeader => .receiveExact headerLength
  | takingRest _ count => .receiveExact count

/-- What a failed read means (`closed_on_eof`). -/
def closedOnEof (error : IoError) : ConverterError :=
  if error.kind = .unexpectedEof then .clientClosed else .io error

/-- Turns to the message once its header is known. -/
def expect (header taken : Bytes) : RequestProgress :=
  match Header.decode header with
  | .ok decoded => .waiting (takingRest taken (decoded.messageLength - taken.length))
  | .error error => .done (.error (.decode error))

/-- Goes on with what the connection gives (`read_request`). -/
def resume : RequestReader → Except IoError Bytes → RequestProgress
  | peeking, .ok header =>
    if header.isEmpty then .done (.error .clientClosed)
    else if header.length < headerLength then .waiting takingHeader
    else expect header []
  | peeking, .error error => .done (.error (.io error))
  | takingHeader, .ok header => expect header header
  | takingRest taken _, .ok rest => .done (.ok (taken ++ rest))
  | takingHeader, .error error | takingRest _ _, .error error =>
    .done (.error (closedOnEof error))

end RequestReader

end TransportConverter
