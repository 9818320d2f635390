import TransportConverter.Client.Engine
/-!
# Connecting through the converter

`Connection.start` opens a socket, redirects it to a destination and waits for the converter's
verdict, as one blocking operation made of the engine's operations (`RedirectEngine::connect`). It
stops at every call to the system, as the engine does. Where the redirect cannot even be requested it
connects to the destination itself. Whatever happens, the handle it tracked is given up at the end.
-/
namespace TransportConverter

/-- How the socket that a connect returns is connected. -/
inductive Connected where
  | redirected (handle : Handle)
  | directly (handle : Handle)
  deriving DecidableEq, Repr

/-- A blocking connect that waits for the system. -/
inductive Connection where
  /-- For a new socket. -/
  | opening (destination : SocketAddress) (family : AddressFamily) (multipath : Bool)
  /-- For a call that the engine makes. -/
  | redirecting (handle : Handle) (destination : SocketAddress) (op : Operation)
  /-- For a connect straight to the destination. -/
  | connecting (handle : Handle) (destination : SocketAddress)

inductive ConnectionProgress where
  | done (result : Except RedirectError Connected)
  | waiting (connection : Connection)
  | overrun

namespace Connection

/-- What the system answers: the handle of a new socket, what the engine's call gives, or whether the
socket is connected. -/
abbrev Answer : Connection → Type
  | opening .. => Except IoError Handle
  | redirecting _ _ op => op.Answer
  | connecting .. => Except IoError Unit

/-- Opens a socket of the converter's family (`open_socket`). -/
def start (e : Engine) (destination : SocketAddress) : ConnectionProgress :=
  .waiting (opening destination e.config.converter.family e.config.multipath)

/-- Ends with an error; the handle is given up. -/
def giveUp (e : Engine) (h : Handle) (error : RedirectError) : Engine × ConnectionProgress :=
  (e.remove h, .done (.error error))

/-- Carries on behind a look for the answer. -/
def awaited (h : Handle) (destination : SocketAddress) :
    Engine × Progress → Engine × ConnectionProgress
  | (e, .waiting op) => (e, .waiting (redirecting h destination op))
  | (e, .overrun) => (e, .overrun)
  | (e, .done (.read (.error error))) => giveUp e h error
  | (e, .done _) => (e, .done (.ok (.redirected h)))

/-- Carries on behind an operation of the engine: once the request is out, with the look for the
answer. -/
def proceed (h : Handle) (destination : SocketAddress) :
    Engine × Progress → Engine × ConnectionProgress
  | (e, .done (.connect (.ok outcome))) =>
    match outcome with
    | .redirecting _ | .inProgress _ _ => awaited h destination (e.awaitReply h)
    | .passThrough | .fallback => (e.remove h, .waiting (connecting h destination))
  | (e, .done (.connect (.error error))) => giveUp e h error
  | other => awaited h destination other

/-- A new socket is there, or not (`open_stream_socket`). Where the system has no multipath sockets, a
plain one may do. -/
def opened (e : Engine) (destination : SocketAddress) (family : AddressFamily) (multipath : Bool) :
    Except IoError Handle → Engine × ConnectionProgress
  | .ok h =>
    match e.track h with
    | .error error => (e, .done (.error error))
    | .ok e => proceed h destination (e.tryConnect h destination)
  | .error error =>
    if multipath && e.config.allowTcpFallback && multipathUnavailable error then
      (e, .waiting (opening destination family false))
    else (e, .done (.error (.io error)))

/-- Carries a connect on with the system's answer (`connect`). -/
def resume (e : Engine) : (c : Connection) → c.Answer → Engine × ConnectionProgress
  | opening destination family multipath, answer => opened e destination family multipath answer
  | redirecting h destination op, answer => proceed h destination (e.resume op answer)
  | connecting h _, .ok () => (e, .done (.ok (.directly h)))
  | connecting _ _, .error error => (e, .done (.error (.io error)))

end Connection

end TransportConverter
