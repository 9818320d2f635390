import TransportConverter.Converter.Shutdown
import TransportConverter.Host.Wire
import TransportConverter.Registry.Sharded
/-!
# A converter on this computer

Accepts connections, and carries the session of each through its stages on a thread of its own, with
what the session's sockets answer.
-/
namespace TransportConverter

namespace Host

structure Converter where
  server : IO.Ref Server
  listener : Std.Async.TCP.Socket.Server
  /-- The wires of the sessions that run. -/
  wires : IO.Ref (List (SessionSocket × Wire))
  /-- The number of the next socket. -/
  nextHandle : IO.Ref Nat

namespace Converter

/-- A number that no socket has. -/
def freshHandle (c : Converter) : IO Handle := c.nextHandle.modifyGet fun n => (⟨n.toUInt64⟩, n + 1)

def addWire (c : Converter) (s : SessionSocket) (w : Wire) : IO Unit := c.wires.modify ((s, w) :: ·)

def wire? (c : Converter) (s : SessionSocket) : IO (Option Wire) := return (← c.wires.get).lookup s

/-- Ends the reading of a session's sockets and lets go of them. -/
def dropWires (c : Converter) (session : Nat) : IO Unit := do
  for (s, w) in ← c.wires.get do
    if s.session = session then w.stopReading
  c.wires.modify (·.filter (·.1.session ≠ session))

/-! ## Sessions -/

/-- A call that is under way. -/
structure Flight where
  call : SessionCall
  answer : Task call.Answer

/-- What a session has at hand. -/
structure Desk where
  session : Session
  deadline : Task Unit
  flights : IO.Ref (List Flight)

/-- The wire of one side. -/
def side (c : Converter) (k : Session) (s : Side) : IO (Option Wire) := c.wire? ⟨k.id, s⟩

/-- Does something with the wire of one side. -/
def withSide {α : Type} (c : Converter) (k : Session) (s : Side)
    (action : Wire → IO (Except IoError α)) : IO (Except IoError α) := do
  match ← c.side k s with
  | some w => action w
  | none => return .error (.bare .notConnected)

/-- What a session reads of its request. -/
def readRequest (c : Converter) (k : Session) : RequestCall → IO (Except IoError Bytes)
  | .peek room => c.withSide k .client (·.peek room)
  | .receiveExact count => c.withSide k .client (·.takeExact count [])

def connectOut (c : Converter) (k : Session) (destination : SocketAddress) :
    IO (Except IoError Handle) := do
  match ← Wire.connect destination with
  | .ok w =>
    c.addWire k.destinationSocket w
    return .ok (← c.freshHandle)
  | .error error => return .error error

/-- The answer of an action that runs on a thread of its own. -/
def later {α : Type} (action : IO (Except IoError α)) : IO (Task (Except IoError α)) :=
  return (← spawn action).map outcome

/-- The answer of such an action, unless the time for it is over. -/
def inTime {α : Type} (limit : Task Unit) (action : IO (Except IoError α)) :
    IO (Task (Timed (Except IoError α))) := do
  let running ← later action
  let first ← spawn (IO.waitAny [running.map .inTime, limit.map fun _ => .late])
  return first.map fun
    | .ok answer => answer
    | .error error => .inTime (.error (.ofSystem error))

/-- Makes a call of a session. -/
def launch (c : Converter) (desk : Desk) : (call : SessionCall) → IO (Task call.Answer)
  | .duplicate _ => return .pure (.ok ())
  | .request call _ => inTime desk.deadline (c.readRequest desk.session call)
  | .connect destination within => do
    inTime (← timer within) (c.connectOut desk.session destination)
  | .read s room => later (c.withSide desk.session s (·.read room))
  | .write s bytes => later (c.withSide desk.session s (·.write bytes))
  | .stopReading s => do
    for w in ← c.side desk.session s do w.stopReading
    return .pure (.ok ())
  | .endWriting s => later (c.withSide desk.session s (·.endWriting))
  | .setAbortiveClose => return .pure (.error (.bare .unsupported))

/-- The answer to a call, which is made unless it is under way. -/
def await (c : Converter) (desk : Desk) (call : SessionCall) : IO (Task call.Answer) := do
  let flying := (← desk.flights.get).findSome? fun f =>
    if same : f.call = call then some (same ▸ f.answer) else none
  match flying with
  | some answer => return answer
  | none =>
    let answer ← c.launch desk call
    desk.flights.modify ({ call, answer } :: ·)
    return answer

/-- What a stage is answered first; nothing when the session has ended. -/
def perform (c : Converter) (desk : Desk) (stage : Stage) : IO (Option stage.Answer) := do
  match stage.silent?, stage.asks (← c.server.get).config with
  | some answer, _ => return some answer
  | none, [] => return none
  | none, ask :: asks =>
    let wait (ask : Ask stage.Answer) : IO (Task (SessionCall × stage.Answer)) :=
      return (← c.await desk ask.call).map fun answer => (ask.call, ask.take answer)
    let (call, answer) ← IO.waitAny ((← wait ask) :: (← asks.mapM wait))
    desk.flights.modify (·.filter (·.call ≠ call))
    return some answer

/-- Carries a session on until it has ended. -/
partial def runSession (c : Converter) (desk : Desk) : IO Unit := do
  let k := desk.session
  match ← c.perform desk k.stage with
  | some answer =>
    c.server.modify fun s => s.advance k answer
    match (← c.server.get).session? k.id with
    | some k => c.runSession { desk with session := k }
    | none => return ()
  | none =>
    c.dropWires k.id
    c.server.modify (·.forget k.id)

/-- Serves an accepted connection. -/
def welcome (c : Converter) (socket : Std.Async.TCP.Socket.Client) : IO Unit := do
  let address := ofNet (← socket.getPeerName)
  let handle ← c.freshHandle
  let id ← c.server.modifyGet fun s => (s.accepted, s.accept handle address)
  match (← c.server.get).session? id with
  | none => return ()
  | some session =>
    c.addWire session.clientSocket (← Wire.ofSocket socket)
    let deadline ← timer (← c.server.get).config.headerTimeout
    discard (spawn (c.runSession { session, deadline, flights := ← IO.mkRef [] }))

/-! ## Running -/

/-- Accepts connections for as long as the converter runs. -/
partial def acceptAll (c : Converter) : IO Unit := do
  if (← c.server.get).running then
    match ← attempt c.listener.tryAccept with
    | .ok (some socket) => discard (attempt (c.welcome socket))
    | .ok none | .error _ => IO.sleep 10
    c.acceptAll

def listen (config : ServerConfig) : IO (Std.Async.TCP.Socket.Server × SocketAddress) := do
  let listener ← Std.Async.TCP.Socket.Server.mk
  listener.bind (toNet config.listenAddress)
  listener.listen 1024
  return (listener, ofNet (← listener.getSockName))

def start (server : Server) : IO (Except ConverterError Converter) := do
  match ← attempt (listen server.config) with
  | .error error => return .error (.io error)
  | .ok (listener, address) =>
    match server.start (.ok (address, false)) with
    | .error error => return .error error
    | .ok running =>
      let c : Converter :=
        { server := ← IO.mkRef running, listener
          wires := ← IO.mkRef [], nextHandle := ← IO.mkRef 3 }
      discard (spawn c.acceptAll)
      return .ok c

/-- The parts that a shutdown reads the table in. -/
def division : Division where
  count := ShardedRegistry.defaultShards
  index h := h.raw.toNat % ShardedRegistry.defaultShards

/-- What a shutdown is answered; nothing when it is done. -/
def performSweep (c : Converter) (deadline : Nat) : (w : Sweep) → IO (Option w.Answer)
  | .stopping sockets _ => do
    for s in sockets.take 1 do
      for w in ← c.wire? s do w.stopReading
    return some (.ok ())
  | .waiting => do
    IO.sleep 20
    return some (decide ((← IO.monoMsNow) < deadline))
  | .done _ => return none
  | .raising | .listing .. | .looking _ | .checking .. => return some ()

partial def runSweep (c : Converter) (deadline : Nat) (w : Sweep) : IO Bool := do
  match ← c.performSweep deadline w with
  | some answer =>
    c.runSweep deadline (← c.server.modifyGet fun s => (w.resume division s answer).swap)
  | none => return w = .done true

/-- Shuts the converter down, and says whether all sessions have ended. -/
def shutDown (c : Converter) : IO Bool := do
  let limit := (← c.server.get).config.drainTimeout.nanoseconds / 1000000
  let w ← c.server.modifyGet fun s => (Sweep.start s).swap
  c.runSweep ((← IO.monoMsNow) + limit) w

end Converter

end Host

end TransportConverter
