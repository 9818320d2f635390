import Std.Async.TCP
import Std.Async.Timer
import TransportConverter.Address
import TransportConverter.Client.Socket
import TransportConverter.Duration
import TransportConverter.Host.Files
/-!
# Connections of this computer

A `Wire` is a connected socket. Bytes that were looked at and left are kept beside it, and reading
from it can be stopped from elsewhere.
-/
namespace TransportConverter

namespace Host

/-! ## Addresses -/

def toNet : SocketAddress → Std.Net.SocketAddress
  | .v4 ip port => .v4 ⟨⟨#v[ip.a, ip.b, ip.c, ip.d]⟩, port⟩
  | .v6 ip port _ _ => .v6 ⟨⟨Vector.ofFn fun i => ip.segments.getD i 0⟩, port⟩

def ofNet : Std.Net.SocketAddress → SocketAddress
  | .v4 a => .v4 ⟨a.addr.octets[0], a.addr.octets[1], a.addr.octets[2], a.addr.octets[3]⟩ a.port
  | .v6 a =>
    match Ipv6.ofSegments? a.addr.segments.toList with
    | some ip => .v6 ip a.port 0 0
    | none => .v4 ⟨0, 0, 0, 0⟩ a.port

/-! ## Wires -/

structure Wire where
  socket : Std.Async.TCP.Socket.Client
  /-- What was looked at and left. -/
  ahead : IO.Ref Bytes
  /-- Resolved when nothing more is to be read. -/
  stopped : IO.Promise Unit

namespace Wire

def ofSocket (socket : Std.Async.TCP.Socket.Client) : IO Wire :=
  return { socket, ahead := ← IO.mkRef [], stopped := ← IO.Promise.new }

/-- Connects a new socket. -/
def connect (destination : SocketAddress) : IO (Except IoError Wire) := attempt do
  let socket ← Std.Async.TCP.Socket.Client.mk
  (socket.connect (toNet destination)).block
  ofSocket socket

/-- The next bytes from the socket; none at the end of the stream. -/
def receive (w : Wire) (room : Nat) : IO (Except IoError Bytes) := do
  let arriving ← (w.socket.recv? room.toUInt64).toIO
  let given : Task (Except IO.Error (Option ByteArray)) := arriving
  let ended : Task (Except IO.Error (Option ByteArray)) := w.stopped.result?.map fun _ => .ok none
  match ← IO.waitAny [ended, given] with
  | .ok (some data) => return .ok (bytesOf data)
  | .ok none => return .ok []
  | .error error => return .error (.ofSystem error)

/-- Waits for some bytes and takes up to `room` of them. -/
def read (w : Wire) (room : Nat) : IO (Except IoError Bytes) := do
  let ahead ← w.ahead.get
  if ahead.isEmpty then w.receive room
  else
    w.ahead.set (ahead.drop room)
    return .ok (ahead.take room)

/-- Looks at up to `room` bytes. -/
def peek (w : Wire) (room : Nat) : IO (Except IoError Bytes) := do
  if (← w.ahead.get).isEmpty then
    match ← w.receive room with
    | .ok data => w.ahead.set data
    | .error error => return .error error
  return .ok ((← w.ahead.get).take room)

/-- Takes `count` bytes in addition to those in `taken`. -/
partial def takeExact (w : Wire) (count : Nat) (taken : Bytes) : IO (Except IoError Bytes) := do
  if count = 0 then return .ok taken
  match ← w.read count with
  | .ok [] => return .error (.bare .unexpectedEof)
  | .ok data => w.takeExact (count - data.length) (taken ++ data)
  | .error error => return .error error

/-- Gives all bytes to the socket, and says how many they are. -/
def write (w : Wire) (bytes : Bytes) : IO (Except IoError Nat) := attempt do
  (w.socket.send (dataOf bytes)).block
  return bytes.length

/-- Carries on with a payload until the socket takes no more of it. -/
partial def writeSome (w : Wire) (writing : WriteSome) : IO (Except IoError Nat) := do
  match writing with
  | .done result => return result
  | .offering _ rest => w.writeSome (writing.answer (← w.write rest))

def endWriting (w : Wire) : IO (Except IoError Unit) := attempt w.socket.shutdown.block

def stopReading (w : Wire) : IO Unit := w.stopped.resolve ()

end Wire

/-! ## Time -/

/-- A task that ends after some time. -/
def timer (d : Duration) : IO (Task Unit) := do
  let sleeping ← (Std.Async.sleep (.ofNat (d.nanoseconds / 1000000))).toIO
  return Task.map (fun _ => ()) sleeping

/-- Runs an action on a thread of its own. -/
def spawn {α : Type} (action : IO α) : IO (Task (Except IO.Error α)) := IO.asTask action .dedicated

/-- What a thread gave, or how it failed. -/
def outcome {α : Type} : Except IO.Error (Except IoError α) → Except IoError α
  | .ok result => result
  | .error error => .error (.ofSystem error)

end Host

end TransportConverter
