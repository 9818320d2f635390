import TransportConverter.Client.Config
import TransportConverter.Client.Error
import TransportConverter.Client.Redirect
import TransportConverter.Client.Socket
import TransportConverter.Message.Decoding
/-!
# The redirect engine

The engine (`RedirectEngine`) holds no sockets. Whoever intercepts the sockets of an application tells
it what happens to them, and it says which calls to make:

    created --tryConnect--> awaitingRedirect --reply--> resolved (no longer tracked)
                                            '--error--> failed (until closed)

An operation runs until it needs a socket call and stops there, as an `Operation`: `call` is what
it asks for and `Engine.resume` carries on with the answer. Between two calls it changes the
table in one go, so everything that other callers can do meanwhile happens at those stops, and a
run of the engine is a sequence of `start`s and `resume`s in any order.

What happens to a handle while an operation waits is not announced to that operation. It looks the
handle up again each time, and where the table holds a shorter remainder than the socket says it
took, it cannot go on (`Progress.overrun`).
-/
namespace TransportConverter

/-- What became of a connect. -/
inductive ConnectOutcome where
  /-- The handle is not tracked: connect as usual. -/
  | passThrough
  /-- The socket has the whole request. -/
  | redirecting (sent : Nat)
  /-- The socket has a part of the request; the rest goes out later. -/
  | inProgress (sent pending : Nat)
  /-- The request could not be sent and the handle is given up: connect as usual. -/
  | fallback
  deriving DecidableEq, Repr

/-- What became of a look for the converter's answer. -/
inductive ReadOutcome where
  | passThrough
  /-- The converter has done what it was asked and the handle is given up. -/
  | resolved
  /-- Not all sent or not all there, or another caller is at it. -/
  | pending
  deriving DecidableEq, Repr

/-- What an operation ends with. -/
inductive OperationResult where
  | connect (result : Except RedirectError ConnectOutcome)
  | read (result : Except RedirectError ReadOutcome)

/-- Whether an operation gives up when the socket has nothing yet, or waits. -/
inductive WaitMode where
  | polling
  | blocking
  deriving DecidableEq, Repr

/-- An operation that waits for a socket call to be answered. -/
inductive Operation where
  | sendingRequest (handle : Handle) (request : Bytes)
  | flushing (handle : Handle) (mode : WaitMode) (pending : Bytes)
  | peekingHeader (handle : Handle)
  | peekingMessage (handle : Handle) (length : Nat)
  | takingMessage (handle : Handle) (length : Nat)
  | takingHeader (handle : Handle)
  | takingRest (handle : Handle) (header : Bytes) (length : Nat)
  | armingReset (handle : Handle) (error : RedirectError)
  deriving DecidableEq, Repr

namespace Operation

def handle : Operation → Handle
  | sendingRequest h _ | flushing h _ _ | peekingHeader h | peekingMessage h _ | takingMessage h _
  | takingHeader h | takingRest h _ _ | armingReset h _ => h

/-- What the socket answers: how many bytes it took, or the bytes it gave. -/
abbrev Answer : Operation → Type
  | sendingRequest .. | flushing .. => Except IoError Nat
  | peekingHeader .. | peekingMessage .. | takingMessage .. | takingHeader .. | takingRest .. =>
    Except IoError Bytes
  | armingReset .. => Except IoError Unit

def call (config : ClientConfig) : Operation → SocketCall
  | sendingRequest _ request => .sendRedirect request config.converter config.fastOpen
  | flushing _ _ pending => .send pending
  | peekingHeader _ => .peek headerLength
  | peekingMessage _ length => .peek length
  | takingMessage _ length => .receiveExact length
  | takingHeader _ => .receiveExact headerLength
  | takingRest _ _ length => .receiveExact (length - headerLength)
  | armingReset _ _ => .setAbortiveClose

end Operation

/-- Where an operation has got to. -/
inductive Progress where
  | done (result : OperationResult)
  | waiting (op : Operation)
  /-- The socket says it took more than the table still holds. -/
  | overrun

structure Engine where
  config : ClientConfig
  table : Registry RedirectState := {}

namespace Engine

/-- The room there is for a request (`REQUEST_BUF_LEN`). -/
def requestRoom : Nat := 1024

def update (e : Engine) (h : Handle) (f : RedirectState → RedirectState) : Engine :=
  { e with table := e.table.update h f }

def remove (e : Engine) (h : Handle) : Engine := { e with table := e.table.remove h }

/-- The phase of a handle that is tracked (`phase`). -/
def phase (e : Engine) (h : Handle) : Option RedirectPhase := (e.table.lookup h).map (·.phase)

/-! ## Tracking -/

/-- Starts tracking a handle (`track`). -/
def track (e : Engine) (h : Handle) : Except RedirectError Engine :=
  match e.table.insert h { cookie := e.config.cookie } with
  | .ok table => .ok { e with table }
  | .error error => .error (.registry error)

/-- A socket was created (`on_socket`). Says whether it is tracked now. -/
def onSocket (e : Engine) (h : Handle) (domain type protocol : Int32) :
    Except RedirectError (Engine × Bool) :=
  if isCandidate domain type protocol then (e.track h).map fun e => (e, true)
  else .ok (e, false)

/-- A socket is closed (`on_close`). Gives what was known about it. -/
def onClose (e : Engine) (h : Handle) : Engine × Option RedirectState :=
  let (state, table) := e.table.take h
  ({ e with table }, state)

/-! ## Connecting -/

/-- The request for a destination. -/
def request (destination : SocketAddress) (cookie : Option Bytes) : Except EncodeError Bytes := do
  let (written, buffer) ←
    (Message.request destination cookie).encodeInto (List.replicate requestRoom 0)
  return buffer.take written

/-- The application connects a handle to `destination` (`try_connect`, up to the send). -/
def tryConnect (e : Engine) (h : Handle) (destination : SocketAddress) : Engine × Progress :=
  match e.table.lookup h with
  | none => (e, .done (.connect (.ok .passThrough)))
  | some state =>
    if state.phase ≠ .created then (e, .done (.connect (.error (.alreadyConnecting h))))
    else match request destination state.cookie with
      | .ok request => (e.update h (·.connecting destination), .waiting (.sendingRequest h request))
      | .error _ => (e.remove h, .done (.connect (.ok .fallback)))

/-- The socket has answered the request (`try_connect`, from the send on): it took `count` bytes, or it is
still connecting, or it cannot be used. -/
def requestAnswered (e : Engine) (h : Handle) (request : Bytes) :
    Except IoError Nat → Engine × Progress
  | .ok count => taken (min count request.length)
  | .error error =>
    if error.number? = some IoError.connectInProgress then taken 0
    else (e.remove h, .done (.connect (.ok .fallback)))
where
  taken (sent : Nat) : Engine × Progress :=
    let rest := request.drop sent
    let outcome := if rest.isEmpty then .redirecting sent else .inProgress sent rest.length
    (e.update h (·.requested rest), .done (.connect (.ok outcome)))

/-! ## Taking the answer -/

/-- Gives up the claim and tells the application that the redirect failed (`fail`). -/
def fail (e : Engine) (h : Handle) (error : RedirectError) : Engine × Progress :=
  (e.update h RedirectState.fail, .waiting (.armingReset h error))

/-- Ends a look for the answer (`settle`): nothing yet, a message, or an error. -/
def settle (e : Engine) (h : Handle) : Except RedirectError (Option Message) → Engine × Progress
  | .ok none => (e.update h RedirectState.release, .done (.read (.ok .pending)))
  | .ok (some reply) =>
    match reply.error with
    | some code => e.fail h (.rejected code)
    | none => ((e.update h RedirectState.resolve).remove h, .done (.read (.ok .resolved)))
  | .error error => e.fail h error

/-- Turns to the answer once the request is out (`read_reply` where a caller polls, `read_reply_blocking`
where it waits). -/
def readReply (e : Engine) (h : Handle) : WaitMode → Engine × Progress
  | .polling => (e, .waiting (.peekingHeader h))
  | .blocking => (e, .waiting (.takingHeader h))

/-- Sends what is left of the request, if anything is (`flush_request`). -/
def flush (e : Engine) (h : Handle) (mode : WaitMode) : Engine × Progress :=
  match e.table.lookup h with
  | some state =>
    if state.pending.isEmpty then e.readReply h mode
    else (e, .waiting (.flushing h mode state.pending))
  | none => e.readReply h mode

/-- Looks for the converter's answer, if the handle awaits one and nobody else is at it (`claim`). -/
def drive (e : Engine) (h : Handle) (mode : WaitMode) : Engine × Progress :=
  match e.table.lookup h with
  | none => (e, .done (.read (.ok .passThrough)))
  | some state =>
    match state.phase with
    | .awaitingRedirect =>
      if state.claimed then (e, .done (.read (.ok .pending)))
      else (e.update h RedirectState.claim).flush h mode
    | .failed => (e, .done (.read (.error (.failed h))))
    | .created | .resolved => (e, .done (.read (.ok .passThrough)))

/-- The application is about to read (`on_readable`). -/
def onReadable (e : Engine) (h : Handle) : Engine × Progress := e.drive h .polling

/-- The application is about to send (`on_send`): the answer has to be taken before that just as well. -/
def onSend (e : Engine) (h : Handle) : Engine × Progress := e.onReadable h

/-- Waits for the answer on a blocking socket (`await_reply`). -/
def awaitReply (e : Engine) (h : Handle) : Engine × Progress := e.drive h .blocking

/-- The socket has taken `sent` of the `pending` bytes (`flush_request`, from the send on). -/
def flushed (e : Engine) (h : Handle) (mode : WaitMode) (pending : Bytes) (sent : Nat) :
    Engine × Progress :=
  if (e.table.lookup h).any fun state => state.pending.length < sent then (e, .overrun)
  else
    let e := if sent = 0 then e else e.update h (·.sent sent)
    if sent = pending.length then e.readReply h mode
    else match mode with
      | .polling => e.settle h (.ok none)
      | .blocking => e.settle h (.error (.io (.bare .timedOut)))

def flushAnswered (e : Engine) (h : Handle) (mode : WaitMode) (pending : Bytes) :
    Except IoError Nat → Engine × Progress
  | .ok count => e.flushed h mode pending (min count pending.length)
  | .error error =>
    if error.kind = .wouldBlock then e.flushed h mode pending 0
    else e.settle h (.error (.io error))

/-- The first bytes of the answer are there to be looked at, or not (the first `peek` of `read_reply`). -/
def headerPeeked (e : Engine) (h : Handle) : Except IoError Bytes → Engine × Progress
  | .ok bytes =>
    if bytes.isEmpty then e.settle h (.error .converterClosed)
    else if bytes.length < headerLength then e.settle h (.ok none)
    else match Header.decode bytes with
      | .ok header => (e, .waiting (.peekingMessage h header.messageLength))
      | .error error => e.settle h (.error (.decode error))
  | .error error =>
    if error.kind = .wouldBlock then e.settle h (.ok none) else e.settle h (.error (.io error))

/-- As many bytes are there as the answer has, or not (the second `peek` of `read_reply`). -/
def messagePeeked (e : Engine) (h : Handle) (length : Nat) :
    Except IoError Bytes → Engine × Progress
  | .ok bytes =>
    if bytes.length < length then e.settle h (.ok none)
    else (e, .waiting (.takingMessage h length))
  | .error error =>
    if error.kind = .wouldBlock then e.settle h (.ok none) else e.settle h (.error (.io error))

/-- A whole answer has been taken. -/
def received (e : Engine) (h : Handle) (message : Bytes) : Engine × Progress :=
  match Message.decode message with
  | .ok (reply, _) => e.settle h (.ok (some reply))
  | .error error => e.settle h (.error (.decode error))

/-- What it means for a blocking look that no more bytes come (`closed_on_eof`). -/
def closedOnEof (error : IoError) : RedirectError :=
  if error.kind = .unexpectedEof then .converterClosed else .io error

/-- The header of the answer has been taken, or will not come (`read_reply_blocking`). -/
def headerTaken (e : Engine) (h : Handle) : Except IoError Bytes → Engine × Progress
  | .ok header =>
    match Header.decode header with
    | .ok decoded => (e, .waiting (.takingRest h header decoded.messageLength))
    | .error error => e.settle h (.error (.decode error))
  | .error error => e.settle h (.error (closedOnEof error))

/-- Carries an operation on with the answer to its socket call. -/
def resume (e : Engine) : (op : Operation) → op.Answer → Engine × Progress
  | .sendingRequest h request, answer => e.requestAnswered h request answer
  | .flushing h mode pending, answer => e.flushAnswered h mode pending answer
  | .peekingHeader h, answer => e.headerPeeked h answer
  | .peekingMessage h length, answer => e.messagePeeked h length answer
  | .takingMessage h _, .ok message => e.received h message
  | .takingMessage h _, .error error => e.settle h (.error (.io error))
  | .takingHeader h, answer => e.headerTaken h answer
  | .takingRest h header _, .ok rest => e.received h (header ++ rest)
  | .takingRest h _ _, .error error => e.settle h (.error (closedOnEof error))
  | .armingReset _ error, _ => (e, .done (.read (.error error)))

end Engine

end TransportConverter
