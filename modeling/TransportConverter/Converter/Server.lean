import TransportConverter.Converter.Session
import TransportConverter.Statistics
/-!
# The converter

A converter accepts connections and gives each to a session of its own. No more than
`ServerConfig.maxSessions` sessions hold a permit at once; a session that gets none still reads its
request, to be able to refuse it. The permit comes back when the session has ended, however it
ended.

`Server.advance` carries one session on by one step. Steps of different sessions come in any order.
-/
namespace TransportConverter

/-- A converter with the sessions that it runs (`ConverterServer`). -/
structure Server extends ConverterState where
  /-- Where connections are accepted; the configured address before the first start. -/
  listenAddress : SocketAddress := toConverterState.config.listenAddress
  /-- The listening socket is a multipath one. -/
  multipath : Bool := false
  running : Bool := false
  /-- The permits that are left. -/
  permits : Nat := toConverterState.config.maxSessions
  /-- The sessions that have not been forgotten. -/
  sessions : List Session := []
  /-- How many connections have been accepted so far. -/
  accepted : Nat := 0

/-- What is told about a session while it runs. -/
structure SessionStats where
  phase : SessionPhase
  clientAddress : SocketAddress
  destination : Option SocketAddress
  bytesUp : Nat
  bytesDown : Nat
  /-- The connection to the client, if the system tells about it. -/
  client : Option ConnectionStats
  /-- The connection to the destination, once there is one. -/
  destinationConnection : Option ConnectionStats
  deriving DecidableEq, Repr

/-- What there is to tell about a session, with what the system answers about its sockets
(`session_stats`). -/
def SessionState.stats (system : SocketInfo SessionSocket) (s : SessionState) : SessionStats where
  phase := s.phase
  clientAddress := s.clientAddress
  destination := s.destination
  bytesUp := (s.bridge.map (·.upward.bytes)).getD 0
  bytesDown := (s.bridge.map (·.downward.bytes)).getD 0
  client := (system.stats s.clientSocket).toOption
  destinationConnection := s.destinationSocket.bind fun socket => (system.stats socket).toOption

namespace Server

/-- The most sessions whose permits can be counted (`MAX_PERMITS` of a semaphore): the eighth part of a
64-bit word, less one. -/
def maxPermits : Nat := 2305843009213693951

/-- A converter that is not running yet (`ConverterServer::new`), if the limit is one that can be kept. -/
def ofConfig? (config : ServerConfig) : Option Server :=
  if config.maxSessions ≤ maxPermits then some { config } else none

/-! ## Running -/

/-- Starts accepting (`start`). `bound` is what came of opening the listening socket (`bind_listener`): its
address, and whether it is a multipath one. -/
def start (s : Server) (bound : Except IoError (SocketAddress × Bool)) :
    Except ConverterError Server :=
  if s.running then .error (.alreadyRunning s.listenAddress)
  else match bound with
    | .ok (listenAddress, multipath) =>
      .ok { s with listenAddress, multipath, running := true, draining := false }
    | .error error => .error (.io error)

/-- Stops accepting (`stop`). The sessions go on. -/
def stop (s : Server) : Server := { s with running := false }

/-- A connection was accepted (the loop of `start`). One that was at hand when accepting stopped is still
served. -/
def accept (s : Server) (handle : Handle) (clientAddress : SocketAddress) : Server :=
  { s with
    permits := s.permits - 1
    sessions := s.sessions ++
      [{ id := s.accepted, handle, clientAddress, permitted := decide (0 < s.permits) }]
    accepted := s.accepted + 1 }

def session? (s : Server) (id : Nat) : Option Session := s.sessions.find? (·.id == id)

/-- A session has reached a stage. One that has ended gives its permit back. -/
def reach (s : Server) (k : Session) (stage : Stage) : Server :=
  { s with
    permits := match stage with
      | .ended _ => if k.permitted then s.permits + 1 else s.permits
      | _ => s.permits
    sessions := s.sessions.map fun other =>
      if other.id = k.id then { other with stage } else other }

/-- Carries a session on with what it waits for. -/
def advance (s : Server) (k : Session) (answer : k.stage.Answer) : Server :=
  let (state, stage) := k.stage.resume s.toConverterState k answer
  { s with toConverterState := state }.reach k stage

/-- Forgets a session. -/
def forget (s : Server) (id : Nat) : Server :=
  { s with sessions := s.sessions.filter (·.id ≠ id) }

/-! ## What is told about it -/

/-- How many permits are held (`active_sessions`). -/
def activeSessions (s : Server) : Nat := s.config.maxSessions - s.permits

/-- The handles in the table (`tracked_handles`). -/
def trackedHandles (s : Server) : List Handle := s.table.handles

/-- What is known about the session that a handle of either side leads to (`session_stats`). -/
def sessionStats (s : Server) (system : SocketInfo SessionSocket) (h : Handle) :
    Option SessionStats :=
  (s.table.lookup h).map (SessionState.stats system)

end Server

end TransportConverter
