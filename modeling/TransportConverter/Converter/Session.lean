import TransportConverter.Converter.Admission
import TransportConverter.Converter.Bridge
import TransportConverter.Converter.Request
/-!
# Sessions

A session serves one accepted connection, from its request to the end of its bridge (`handle_connection`,
with `establish` up to the reply and `run` for the bridge):

    accepted --> headerPending --> connecting --> bridging --> closed
                       `----------------`--> rejected

It is tracked in the table of its converter under its client's handle, and while it bridges under
its destination's handle too. Sessions run side by side, so a session is cut up at every point where
another one, or a shutdown, can come in between: a `Stage` makes one call to the system or one
access to what is shared (`ConverterState`), and `Stage.resume` leads to the next.
-/
namespace TransportConverter

inductive SessionPhase where
  | accepted
  | headerPending
  | connecting
  | bridging
  | closed
  | rejected
  deriving DecidableEq, Repr

def SessionPhase.name : SessionPhase → String
  | accepted => "Accepted"
  | headerPending => "HeaderPending"
  | connecting => "Connecting"
  | bridging => "Bridging"
  | closed => "Closed"
  | rejected => "Rejected"

/-- A socket of a session, however many descriptors lead to it. -/
structure SessionSocket where
  session : Nat
  side : Side
  deriving DecidableEq, Repr

/-- What a converter's table knows about a session. -/
structure SessionState where
  phase : SessionPhase := .accepted
  clientAddress : SocketAddress
  destination : Option SocketAddress := none
  bridge : Option Bridge := none
  clientSocket : SessionSocket
  destinationSocket : Option SessionSocket := none
  deriving DecidableEq, Repr

namespace SessionState

/-- The sockets that a shutdown stops (`sockets`). -/
def sockets (s : SessionState) : List SessionSocket := s.clientSocket :: s.destinationSocket.toList

/-- The request is awaited. -/
def announced (s : SessionState) : SessionState := { s with phase := .headerPending }

/-- The request is granted. -/
def admitted (s : SessionState) (destination : SocketAddress) : SessionState :=
  { s with phase := .connecting, destination := some destination }

/-- The bridge stands. -/
def bridged (s : SessionState) (bridge : Bridge) (socket : SessionSocket) : SessionState :=
  { s with phase := .bridging, bridge := some bridge, destinationSocket := some socket }

def onBridge (s : SessionState) (f : Bridge → Bridge) : SessionState :=
  { s with bridge := s.bridge.map f }

/-- The bridge is over. -/
def closed (s : SessionState) : SessionState := { s.onBridge Bridge.closed with phase := .closed }

def rejected (s : SessionState) : SessionState := { s with phase := .rejected }

end SessionState

/-- What the sessions of a converter share. -/
structure ConverterState where
  config : ServerConfig
  table : Registry SessionState := {}
  /-- The converter is shutting down. -/
  draining : Bool := false

/-- An answer that has to come in time. -/
inductive Timed (α : Type) where
  | inTime (answer : α)
  | late

/-- What a session does next. -/
inductive Stage where
  /-- Duplicates the client's socket. -/
  | arriving
  | entering
  | announcing
  | reading (reader : RequestReader)
  /-- Records the destination of its request. -/
  | admitted (destination : SocketAddress)
  | connecting (destination : SocketAddress)
  /-- Looks whether the converter is shutting down. -/
  | connected (outbound : Handle)
  /-- Sends `rest` of the reply. -/
  | replying (outbound : Handle) (rest : Bytes)
  /-- Duplicates the destination's socket. -/
  | duplicating (outbound : Handle)
  | linking (outbound : Handle)
  /-- Records the bridge. -/
  | recording (outbound : Handle)
  /-- Looks once more whether the converter is shutting down. -/
  | bridged
  /-- Stops reading from the client and then from the destination. -/
  | stopping (sides : List Side)
  | copying (upward downward : Copy)
  /-- Records a piece that has been moved. -/
  | counting (direction : Direction) (count : Nat) (upward downward : Copy)
  /-- Records that a source has ended. -/
  | ending (direction : Direction) (upward downward : Copy)
  /-- Tells the target of a direction that there is no more. -/
  | halfClosing (direction : Direction) (upward downward : Copy)
  /-- Records the end of the bridge. -/
  | finishing (result : Except ConverterError Unit)
  /-- Sends `rest` of an error message. -/
  | rejecting (error : ConverterError) (rest : Bytes)
  /-- Makes closing the client's socket reset the connection. -/
  | armingReset (error : ConverterError)
  /-- Records that the client was rejected. -/
  | marking (error : ConverterError)
  /-- Leaves the table. -/
  | leaving (result : Except ConverterError Unit)
  /-- Its sockets are closed. -/
  | ended (result : Except ConverterError Unit)

structure Session where
  id : Nat
  /-- The handle of the client's socket. -/
  handle : Handle
  clientAddress : SocketAddress
  /-- It was accepted below the limit. -/
  permitted : Bool
  stage : Stage := .arriving

/-! ## Calls -/

/-- What a session asks of the system. -/
inductive SessionCall where
  | duplicate (side : Side)
  | request (call : RequestCall) (within : Duration)
  | connect (destination : SocketAddress) (within : Duration)
  /-- Take up to `room` bytes; none means that the stream has ended. -/
  | read (side : Side) (room : Nat)
  | write (side : Side) (bytes : Bytes)
  | stopReading (side : Side)
  | endWriting (side : Side)
  /-- Make closing the client's socket reset the connection. -/
  | setAbortiveClose
  deriving DecidableEq, Repr

/-- What the system answers. -/
abbrev SessionCall.Answer : SessionCall → Type
  | duplicate _ | stopReading _ | endWriting _ | setAbortiveClose => Except IoError Unit
  | request .. => Timed (Except IoError Bytes)
  | connect .. => Timed (Except IoError Handle)
  | read .. => Except IoError Bytes
  | write .. => Except IoError Nat

/-- A call, and what its answer is to whoever waits for it. -/
structure Ask (α : Type) where
  call : SessionCall
  take : call.Answer → α

def Ask.map {α β : Type} (f : α → β) (a : Ask α) : Ask β := { call := a.call, take := f ∘ a.take }

/-- The room for a piece that a bridge takes: not even a configuration that leaves none makes it stop. -/
def ServerConfig.pieceRoom (config : ServerConfig) : Nat := max config.chunkSize 1

/-- What a direction waits for. -/
def Copy.ask? (room : Nat) (d : Direction) : (copy : Copy) → Option (Ask copy.Answer)
  | reading => some ⟨.read d.source room, id⟩
  | writing rest _ => some ⟨.write d.target rest, id⟩
  | done => none

namespace Stage

/-- What takes a stage on. -/
abbrev Answer : Stage → Type
  | arriving | duplicating _ | stopping _ | halfClosing .. | armingReset _ => Except IoError Unit
  | reading _ => Timed (Except IoError Bytes)
  | connecting _ => Timed (Except IoError Handle)
  | replying .. | rejecting .. => Except IoError Nat
  | copying upward downward => upward.Answer ⊕ downward.Answer
  | ended _ => Empty
  | entering | announcing | admitted _ | connected _ | linking _ | recording _ | bridged
  | counting .. | ending .. | finishing _ | marking _ | leaving _ => Unit

/-- The answer of a stage that asks nothing of the system. -/
def silent? : (stage : Stage) → Option stage.Answer
  | entering | announcing | admitted _ | connected _ | linking _ | recording _ | bridged
  | counting .. | ending .. | finishing _ | marking _ | leaving _ => some ()
  | arriving | duplicating _ | stopping _ | halfClosing .. | armingReset _ | reading _
  | connecting _ | replying .. | rejecting .. | copying .. | ended _ => none

/-- The calls that a stage waits for: one, or two at a time while it copies, or none where it only
touches what is shared. -/
def asks (config : ServerConfig) : (stage : Stage) → List (Ask stage.Answer)
  | arriving => [⟨.duplicate .client, id⟩]
  | reading reader => [⟨.request reader.call config.headerTimeout, id⟩]
  | connecting destination => [⟨.connect destination config.connectTimeout, id⟩]
  | replying _ rest | rejecting _ rest => [⟨.write .client rest, id⟩]
  | duplicating _ => [⟨.duplicate .destination, id⟩]
  | stopping (side :: _) => [⟨.stopReading side, id⟩]
  | copying upward downward =>
    (upward.ask? config.pieceRoom .upward).toList.map (.map .inl) ++
      (downward.ask? config.pieceRoom .downward).toList.map (.map .inr)
  | halfClosing d _ _ => [⟨.endWriting d.target, id⟩]
  | armingReset _ => [⟨.setAbortiveClose, id⟩]
  | _ => []

def calls (config : ServerConfig) (stage : Stage) : List SessionCall :=
  (stage.asks config).map Ask.call

/-! ## Answering the request -/

/-- Where a session goes that fails before its bridge stands (`reject`, where the failure has a code). -/
def failing (error : ConverterError) : Stage :=
  match error.replyCode with
  | some code =>
    match (Message.failure code).encode with
    | .ok reply => rejecting error reply
    | .error _ => armingReset error
  | none => marking error

/-- Where a session goes whose destination is connected (the end of `establish`). -/
def succeeding (outbound : Handle) : Stage :=
  match Message.empty.encode with
  | .ok reply => replying outbound reply
  | .error error => failing (.encode error)

end Stage

/-- The destination of a request, or why it is not connected to (`decode`, the permit and `admit`, in the
order of `establish`). -/
def ServerConfig.judge (config : ServerConfig) (permitted : Bool) (message : Bytes) :
    Except ConverterError SocketAddress :=
  match Message.decode message with
  | .error error => .error (.decode error)
  | .ok (request, _) =>
    if permitted then (config.grant request).mapError .rejected
    else .error (.rejected .resourceExceeded)

namespace Stage

/-- Where a session goes once its request has been read. -/
def judged (config : ServerConfig) (permitted : Bool) (message : Bytes) : Stage :=
  match config.judge permitted message with
  | .ok destination => admitted destination
  | .error error => failing error

/-- Where a session goes that waits for its request. -/
def request (config : ServerConfig) (permitted : Bool) : RequestProgress → Stage
  | .waiting reader => reading reader
  | .done (.ok message) => judged config permitted message
  | .done (.error error) => failing error

/-- How a connect that took too long failed (`connect`). -/
def connectTimedOut (limit : Duration) : IoError :=
  .described .timedOut s!"no answer within {limit.text}"

/-! ## Bridging -/

/-- Where a session goes after a direction has been answered; `wait` puts the direction back among
the two that are copying. -/
def copied (d : Direction) (wait : Copy → Copy × Copy) : CopyProgress → Stage
  | .waiting copy => let (up, down) := wait copy; copying up down
  | .moved count => let (up, down) := wait .reading; counting d count up down
  | .sourceEnded => let (up, down) := wait .done; ending d up down
  | .failed error => finishing (.error (.io error))

/-- The bridge goes on for as long as one of its directions does. -/
def bridging : Copy → Copy → Stage
  | .done, .done => finishing (.ok ())
  | upward, downward => copying upward downward

end Stage

namespace ConverterState

def update (s : ConverterState) (h : Handle) (f : SessionState → SessionState) : ConverterState :=
  { s with table := s.table.update h f }

def remove (s : ConverterState) (h : Handle) : ConverterState :=
  { s with table := s.table.remove h }

end ConverterState

namespace Session

def clientSocket (k : Session) : SessionSocket := ⟨k.id, .client⟩

def destinationSocket (k : Session) : SessionSocket := ⟨k.id, .destination⟩

/-- What the table is told when a session comes in (`SessionState::new`). -/
def firstState (k : Session) : SessionState :=
  { clientAddress := k.clientAddress, clientSocket := k.clientSocket }

end Session

/-- Carries a session on from a stage: `handle_connection` from `arriving` to `announcing` and where the
session fails, `establish` from `reading` to `replying`, and `run` with its two `copy` from `duplicating`
to `finishing`. -/
def Stage.resume (s : ConverterState) (k : Session) :
    (stage : Stage) → stage.Answer → ConverterState × Stage
  | arriving, .ok () => (s, entering)
  | arriving, .error error => (s, ended (.error (.io error)))
  | entering, () =>
    match s.table.insert k.handle k.firstState with
    | .ok table => ({ s with table }, announcing)
    | .error error => (s, ended (.error (.registry error)))
  | announcing, () => (s.update k.handle SessionState.announced, reading .start)
  | reading reader, .inTime given => (s, request s.config k.permitted (reader.resume given))
  | reading _, .late => (s, failing (.headerTimeout s.config.headerTimeout))
  | admitted destination, () => (s.update k.handle (·.admitted destination), connecting destination)
  | connecting _, .inTime (.ok outbound) => (s, connected outbound)
  | connecting destination, .inTime (.error error) =>
    (s, failing (.bridgeConnect destination error))
  | connecting destination, .late =>
    (s, failing (.bridgeConnect destination (connectTimedOut s.config.connectTimeout)))
  | connected outbound, () => (s, if s.draining then failing .shuttingDown else succeeding outbound)
  | replying outbound rest, answer =>
    match unwritten rest answer with
    | .ok [] => (s, duplicating outbound)
    | .ok rest => (s, replying outbound rest)
    | .error error => (s, failing (.io error))
  | duplicating outbound, .ok () => (s, linking outbound)
  | duplicating _, .error error => (s, ended (.error (.io error)))
  | linking outbound, () =>
    match s.table.link k.handle outbound with
    | .ok table => ({ s with table }, recording outbound)
    | .error error => (s, leaving (.error (.registry error)))
  | recording outbound, () =>
    let bridge : Bridge := { client := k.handle, destination := outbound }
    (s.update k.handle (·.bridged bridge k.destinationSocket), bridged)
  | bridged, () =>
    (s, if s.draining then stopping [.client, .destination] else copying .reading .reading)
  | stopping (_ :: side :: sides), _ => (s, stopping (side :: sides))
  | stopping _, _ => (s, copying .reading .reading)
  | copying upward downward, .inl answer =>
    (s, copied .upward (fun upward => (upward, downward)) (upward.resume answer))
  | copying upward downward, .inr answer =>
    (s, copied .downward (fun downward => (upward, downward)) (downward.resume answer))
  | counting d count upward downward, () =>
    (s.update k.handle (·.onBridge (·.counted d count)), copying upward downward)
  | ending d upward downward, () =>
    (s.update k.handle (·.onBridge (·.ended d)), halfClosing d upward downward)
  | halfClosing _ upward downward, _ => (s, bridging upward downward)
  | finishing result, () => (s.update k.handle SessionState.closed, leaving result)
  | rejecting error rest, answer =>
    match unwritten rest answer with
    | .ok [] | .error _ => (s, armingReset error)
    | .ok rest => (s, rejecting error rest)
  | armingReset error, _ => (s, marking error)
  | marking error, () => (s.update k.handle SessionState.rejected, leaving (.error error))
  | leaving result, () => (s.remove k.handle, ended result)

end TransportConverter
