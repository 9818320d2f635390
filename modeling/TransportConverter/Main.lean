import Std.Async.Signal
import Std.Time.Format
import TransportConverter.Client.Connect
import TransportConverter.CommandLine.Run
import TransportConverter.Host.Converter
/-!
# The program

Runs the command line on this computer: its files, its environment and its network.
-/
namespace TransportConverter

namespace Host

/-! ## Redirected connections -/

/-- The answer to a call of the engine, and the wire once there is one. -/
def answerEngine (wire : Option Wire) : (op : Operation) → Engine → IO (op.Answer × Option Wire)
  | .sendingRequest _ request, e => do
    match ← Wire.connect e.config.converter with
    | .ok w => return (← w.writeSome (.start request), some w)
    | .error error => return (.error error, wire)
  | .flushing _ _ pending, _ => onWire (·.writeSome (.start pending))
  | .peekingHeader _, _ => onWire (·.peek headerLength)
  | .peekingMessage _ length, _ => onWire (·.peek length)
  | .takingMessage _ length, _ => onWire (·.takeExact length [])
  | .takingHeader _, _ => onWire (·.takeExact headerLength [])
  | .takingRest _ _ length, _ => onWire (·.takeExact (length - headerLength) [])
  | .armingReset _ _, _ => return (.error (.bare .unsupported), wire)
where
  onWire {α : Type} (action : Wire → IO (Except IoError α)) :
      IO (Except IoError α × Option Wire) := do
    match wire with
    | some w => return (← action w, wire)
    | none => return (.error (.bare .notConnected), none)

/-- Carries a connect to its end. -/
partial def runConnection (wire : Option Wire) : Engine × ConnectionProgress →
    IO (Except RedirectError (Option Wire))
  | (_, .done (.ok _)) => return .ok wire
  | (_, .done (.error error)) => return .error error
  | (_, .overrun) => return .error (.io (.bare .other))
  | (e, .waiting c) =>
    match c with
    | .opening destination family multipath =>
      runConnection wire ((Connection.opening destination family multipath).resume e (.ok ⟨3⟩))
    | .redirecting h destination op => do
      let (answer, wire) ← answerEngine wire op e
      runConnection wire ((Connection.redirecting h destination op).resume e answer)
    | .connecting h destination => do
      match ← Wire.connect destination with
      | .ok w => runConnection (some w) ((Connection.connecting h destination).resume e (.ok ()))
      | .error error =>
        runConnection wire ((Connection.connecting h destination).resume e (.error error))

/-- Sends what is typed in. -/
partial def upload (w : Wire) (input : IO.FS.Stream) : IO (Except IoError Unit) := do
  let data ← input.read 16384
  if data.isEmpty then w.endWriting
  else
    match ← w.write (bytesOf data) with
    | .ok _ => upload w input
    | .error error => return .error error

/-- Prints what arrives. -/
partial def download (w : Wire) (output : IO.FS.Stream) : IO (Except IoError Unit) := do
  match ← w.read 16384 with
  | .ok [] => return .ok ()
  | .ok bytes =>
    output.write (dataOf bytes)
    output.flush
    download w output
  | .error error => return .error error

def relay (config : ClientConfig) (destination : SocketAddress) : IO (Except RelayError Unit) := do
  let e : Engine := { config }
  match ← runConnection none (e, Connection.start e destination) with
  | .error error => return .error (.redirect error)
  | .ok none => return .ok ()
  | .ok (some w) =>
    let uploading ← spawn (upload w (← IO.getStdin))
    match ← download w (← IO.getStdout) with
    | .error error => return .error (.receiving error)
    | .ok () =>
      if ← IO.hasFinished uploading then
        return (outcome uploading.get).mapError .sending
      else return .ok ()

/-! ## The host -/

/-- The program's actions, which know the converter that was started. -/
abbrev ProgramM := ReaderT (IO.Ref (Option Converter)) IO

instance : MonadHost ProgramM where
  leadsSomewhere p := (MonadStorage.leadsSomewhere p : IO _)
  read p := (MonadStorage.read p : IO _)
  write p bytes := (MonadStorage.write p bytes : IO _)
  append p bytes := (MonadStorage.append p bytes : IO _)
  isDirectory p := (MonadStorage.isDirectory p : IO _)
  makeDirectory p := (MonadStorage.makeDirectory p : IO _)
  environment? name := return (← IO.getEnv name).map Utf8.encode
  timestamp := do
    let now := Std.Time.DateTime.ofTimestampWithZone (← Std.Time.Timestamp.now) .UTC
    return now.toISO8601String
  print text := do
    IO.print text
    (← IO.getStdout).flush
  printError text := IO.eprint text
  relay config destination := relay config destination
  startConverter config := do
    match Server.ofConfig? config with
    | none => return .error (.rejected .resourceExceeded)
    | some server =>
      match ← Converter.start server with
      | .error error => return .error error
      | .ok c =>
        (← read).set (some c)
        return .ok (← c.server.get).listenAddress
  stopConverter := do
    let interrupt ← Std.Async.Signal.Waiter.mk .sigint false
    discard (← interrupt.wait).block
    match ← (← read).get with
    | some c => c.shutDown
    | none => return true

end Host

end TransportConverter

def main (arguments : List String) : IO UInt32 := do
  let converter ← IO.mkRef none
  let status ← (TransportConverter.CommandLine.run arguments :
    TransportConverter.Host.ProgramM _).run converter
  return status.code.toUInt32
