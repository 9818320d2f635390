import TransportConverter.Converter.Shutdown
/-!
# Runs of a converter

A converter, all of its sessions and a shutdown, step by step. Connections are accepted at any time, each
session goes on when it is answered, and between any two steps of one of them there is room for steps of all
others. Whoever starts, stops or shuts down the converter does one of these things at a time.

Beside the converter stands what the system knows of its sockets: which of them are open and under which
descriptor, and whose reading was stopped.
-/
namespace TransportConverter

namespace Stage

/-- The descriptor of the destination's socket, when the system has opened it. -/
def handed : (stage : Stage) → stage.Answer → Option Handle
  | connecting _, .inTime (.ok outbound) => some outbound
  | _, _ => none

/-- Whether a socket that was opened is kept open. A session that refuses its client lets go of the
destination's socket first. -/
def keeps : Stage → Side → Bool
  | ended _, _ | rejecting .., .destination | armingReset _, .destination
  | marking _, .destination => false
  | _, _ => true

/-- Which socket a session tells to stop reading. -/
def halts : Stage → List Side
  | stopping (side :: _) => [side]
  | _ => []

/-- The destination's socket cannot be duplicated. -/
def Strands : (stage : Stage) → stage.Answer → Prop
  | duplicating _, .error _ => True
  | _, _ => False

end Stage

/-- Which socket a shutdown tells to stop reading. -/
def Sweep.halts : Sweep → List SessionSocket
  | stopping (socket :: _) _ => [socket]
  | _ => []

namespace Server

/-- A converter and what is around it. -/
structure World where
  server : Server
  /-- The shutdown that is under way, or the last one until the converter is started again. -/
  sweep : Option Sweep := none
  /-- The sockets that were told to stop reading, whatever they answered. -/
  halted : List SessionSocket := []
  /-- The sockets that are open, with their descriptors. -/
  opened : List (SessionSocket × Handle) := []

/-- What happened in a step. -/
inductive Event where
  | started (bound : Except IoError (SocketAddress × Bool))
  | stopped
  | accepted (handle : Handle) (clientAddress : SocketAddress)
  | advanced (k : Session) (answer : k.stage.Answer)
  | shutdown
  | swept (sweep : Sweep) (answer : sweep.Answer)
  | closed (socket : SessionSocket) (handle : Handle)

namespace World

/-- No shutdown is under way. -/
def Resting (w : World) : Prop := w.sweep = none ∨ ∃ drained, w.sweep = some (.done drained)

def accept (w : World) (handle : Handle) (clientAddress : SocketAddress) : World :=
  { w with
    server := w.server.accept handle clientAddress
    opened := (⟨w.server.accepted, .client⟩, handle) :: w.opened }

/-- Where a session goes. -/
def next (w : World) (k : Session) (answer : k.stage.Answer) : ConverterState × Stage :=
  k.stage.resume w.server.toConverterState k answer

/-- A session goes on. -/
def advance (w : World) (k : Session) (answer : k.stage.Answer) : World :=
  { w with
    server := w.server.advance k answer
    halted := k.stage.halts.map (⟨k.id, ·⟩) ++ w.halted
    opened := (k.stage.handed answer).toList.map (k.destinationSocket, ·) ++ w.opened }

/-- A socket is closed. -/
def close (w : World) (socket : SessionSocket) (handle : Handle) : World :=
  { w with opened := w.opened.filter (· ≠ (socket, handle)) }

def shutdown (w : World) : World :=
  { w with server := (Sweep.start w.server).1, sweep := some (Sweep.start w.server).2 }

def sweepOn (w : World) (division : Division) (sweep : Sweep) (answer : sweep.Answer) : World :=
  { w with
    server := (sweep.resume division w.server answer).1
    sweep := some (sweep.resume division w.server answer).2
    halted := sweep.halts ++ w.halted }

end World

/-- One step. -/
inductive Step (division : Division) (w : World) : Event → World → Prop
  | start {bound : Except IoError (SocketAddress × Bool)} {server : Server} (resting : w.Resting)
      (started : w.server.start bound = .ok server) :
      Step division w (.started bound) { w with server, sweep := none }
  | stop (resting : w.Resting) : Step division w .stopped { w with server := w.server.stop }
  | accept (handle : Handle) (clientAddress : SocketAddress) :
      Step division w (.accepted handle clientAddress) (w.accept handle clientAddress)
  | advance {k : Session} (mem : k ∈ w.server.sessions) (answer : k.stage.Answer) :
      Step division w (.advanced k answer) (w.advance k answer)
  | shutdown (resting : w.Resting) : Step division w .shutdown w.shutdown
  | sweep {sweep : Sweep} (goes : w.sweep = some sweep) (answer : sweep.Answer) :
      Step division w (.swept sweep answer) (w.sweepOn division sweep answer)
  /-- A session that does not keep a socket closes it at some time. -/
  | close {k : Session} (mem : k ∈ w.server.sessions) {side : Side} {handle : Handle}
      (opened : (⟨k.id, side⟩, handle) ∈ w.opened) (lets : k.stage.keeps side = false) :
      Step division w (.closed ⟨k.id, side⟩ handle) (w.close ⟨k.id, side⟩ handle)

/-- Steps one after the other, with all that happened in them. Every step keeps to `rule`. -/
inductive Run (division : Division) (rule : World → Event → Prop) (w : World) :
    List Event → World → Prop
  | start : Run division rule w [] w
  | step {log : List Event} {w' w'' : World} {event : Event} (run : Run division rule w log w')
      (keeps : rule w' event) (step : Step division w' event w'') :
      Run division rule w (log ++ [event]) w''

/-- Anything may happen. -/
def AnyRule (_ : World) (_ : Event) : Prop := True

/-- A converter before anything has happened. -/
def World.Fresh (w : World) : Prop :=
  ∃ config server, Server.ofConfig? config = some server ∧ w = { server }

/-- All there is to it is its configuration. -/
theorem World.Fresh.exists_config {w : World} (fresh : w.Fresh) :
    ∃ config, w = { server := { config } } := by
  obtain ⟨config, server, made, rfl⟩ := fresh
  rw [Server.ofConfig?, Option.ite_none_right_eq_some, Option.some_inj] at made
  obtain rfl := made.2
  exact ⟨config, rfl⟩

/-- The system gives out no descriptor that is in use. -/
def OpensNew (w : World) : Event → Prop
  | .accepted handle _ => handle ∉ w.opened.map Prod.snd
  | .advanced k answer => ∀ outbound ∈ k.stage.handed answer, outbound ∉ w.opened.map Prod.snd
  | _ => True

theorem opensNew_of_handed {w : World} {k : Session} {answer : k.stage.Answer}
    (none : k.stage.handed answer = none) : OpensNew w (.advanced k answer) := by
  intro outbound given
  rw [none] at given
  cases given

namespace Run

variable {division : Division} {rule rule' : World → Event → Prop} {w w' w'' : World}
  {log log' : List Event}

theorem mono (run : Run division rule w log w') (weaker : ∀ w event, rule w event → rule' w event) :
    Run division rule' w log w' := by
  induction run with
  | start => exact .start
  | step _ allowed next ih => exact ih.step (weaker _ _ allowed) next

theorem append (run : Run division rule w log w') (run' : Run division rule w' log' w'') :
    Run division rule w (log ++ log') w'' := by
  induction run' with
  | start =>
    rw [List.append_nil]
    exact run
  | step _ allowed next ih =>
    rw [← List.append_assoc]
    exact ih.step allowed next

end Run

/-- There is a run from `w` to `w'`. -/
def Reaches (division : Division) (rule : World → Event → Prop) (w w' : World) : Prop :=
  ∃ log, Run division rule w log w'

namespace Reaches

variable {division : Division} {rule : World → Event → Prop} {w w' w'' : World}

theorem step (reaches : Reaches division rule w w') {event : Event} (allowed : rule w' event)
    (next : Step division w' event w'') : Reaches division rule w w'' := by
  obtain ⟨log, run⟩ := reaches
  exact ⟨_, run.step allowed next⟩

/-- A session goes on to where its answer leads it. -/
theorem advance (reaches : Reaches division rule w w') {k : Session}
    (mem : k ∈ w'.server.sessions) (answer : k.stage.Answer) {s : ConverterState} {stage : Stage}
    (resumed : k.stage.resume w'.server.toConverterState k answer = (s, stage))
    (allowed : rule w' (.advanced k answer)) :
    Reaches division rule w
      { w' with
        server := Server.reach { w'.server with toConverterState := s } k stage
        halted := k.stage.halts.map (⟨k.id, ·⟩) ++ w'.halted
        opened := (k.stage.handed answer).toList.map (k.destinationSocket, ·) ++ w'.opened } := by
  have goes := reaches.step allowed (.advance mem answer)
  rwa [World.advance, Server.advance, resumed] at goes

end Reaches

end Server

end TransportConverter
