import Mathlib.Logic.Function.Basic
import TransportConverter.Converter.Session
import TransportConverter.Proofs.Pipe
import TransportConverter.Proofs.Registry.Elsewhere
/-!
# Runs of a session

One session and all that it can notice of the world, step by step: it goes on with the answer to what it
waits for; its client and its destination send bytes, end their streams and take what they are sent; a
shutdown stops the reading of a socket or raises its flag; and other sessions change their own cells of
the table. A step can be anything at any time, so reads give any pieces of the streams, writes take any
part of what they are given, and everything may fail.
-/
namespace TransportConverter

namespace Side

/-- The direction of what a side sends. -/
def outgoing : Side → Direction
  | client => .upward
  | destination => .downward

/-- The direction of what a side is sent. -/
def incoming : Side → Direction
  | client => .downward
  | destination => .upward

end Side

namespace Session

/-- A direction leads out of the pipe that its source fills and into the pipe that its target empties. -/
structure Lane where
  source : Pipe := {}
  target : Pipe := {}

abbrev Lanes := Direction → Lane

namespace Lanes

variable (l : Lanes)

def withSource (d : Direction) (source : Pipe) : Lanes :=
  Function.update l d { l d with source }

def withTarget (d : Direction) (target : Pipe) : Lanes :=
  Function.update l d { l d with target }

@[simp] theorem withSource_self (d : Direction) (p : Pipe) :
    l.withSource d p d = { l d with source := p } := Function.update_self ..

@[simp] theorem withTarget_self (d : Direction) (p : Pipe) :
    l.withTarget d p d = { l d with target := p } := Function.update_self ..

theorem withSource_ne {d d' : Direction} (ne : d' ≠ d) (p : Pipe) : l.withSource d p d' = l d' :=
  Function.update_of_ne ne ..

theorem target_withSource (d d' : Direction) (p : Pipe) :
    (l.withSource d p d').target = (l d').target := by
  by_cases same : d' = d
  · rw [same, withSource_self]
  · rw [withSource_ne l same]

theorem withTarget_ne {d d' : Direction} (ne : d' ≠ d) (p : Pipe) : l.withTarget d p d' = l d' :=
  Function.update_of_ne ne ..

end Lanes

end Session

open Session

/-! ## What the answers to a session do to its connections -/

/-- What a connection gives a reader of requests. -/
def RequestCall.Gives (p : Pipe) : RequestCall → Except IoError Bytes → Pipe → Prop
  | peek room, answer, p' => p.Peeks room answer ∧ p' = p
  | receiveExact count, answer, p' => p.Takes count answer p'

/-- What comes of the piece that a direction takes or gives. -/
def Copy.Moves (room : Nat) (lane : Lane) : (c : Copy) → c.Answer → Lane → Prop
  | reading, answer, lane' =>
    ∃ source, lane.source.Reads room answer source ∧ lane' = { lane with source }
  | writing rest _, answer, lane' =>
    ∃ target, lane.target.Writes rest answer target ∧ lane' = { lane with target }

namespace Stage

/-- What becomes of the connections when a stage is answered. The end of a direction is passed on by
trying to: whatever the answer, its target is sent no more (`Pipe.ended`). -/
def Moves (config : ServerConfig) (lanes : Lanes) : (stage : Stage) → stage.Answer → Lanes → Prop
  | reading reader, .inTime answer, lanes' =>
    ∃ source, reader.call.Gives (lanes .upward).source answer source ∧
      lanes' = lanes.withSource .upward source
  | reading _, .late, lanes' =>
    ∃ lost, lanes' = lanes.withSource .upward ((lanes .upward).source.advance lost)
  | replying _ rest, answer, lanes' | rejecting _ rest, answer, lanes' =>
    ∃ target, (lanes .downward).target.Writes rest answer target ∧
      lanes' = lanes.withTarget .downward target
  | stopping (side :: _), .ok (), lanes' =>
    lanes' = lanes.withSource side.outgoing (lanes side.outgoing).source.stop
  | copying upward _, .inl answer, lanes' =>
    ∃ lane, upward.Moves config.pieceRoom (lanes .upward) answer lane ∧
      lanes' = Function.update lanes .upward lane
  | copying _ downward, .inr answer, lanes' =>
    ∃ lane, downward.Moves config.pieceRoom (lanes .downward) answer lane ∧
      lanes' = Function.update lanes .downward lane
  | halfClosing d _ _, _, lanes' => lanes' = lanes.withTarget d (lanes d).target.close
  | _, _, lanes' => lanes' = lanes

end Stage

/-- What a call of a session does to its connections. -/
def SessionCall.Moves (lanes : Lanes) : (call : SessionCall) → call.Answer → Lanes → Prop
  | request call _, .inTime answer, lanes' =>
    ∃ source, call.Gives (lanes .upward).source answer source ∧
      lanes' = lanes.withSource .upward source
  | request _ _, .late, lanes' =>
    ∃ lost, lanes' = lanes.withSource .upward ((lanes .upward).source.advance lost)
  | read side room, answer, lanes' =>
    ∃ source, (lanes side.outgoing).source.Reads room answer source ∧
      lanes' = lanes.withSource side.outgoing source
  | write side bytes, answer, lanes' =>
    ∃ target, (lanes side.incoming).target.Writes bytes answer target ∧
      lanes' = lanes.withTarget side.incoming target
  | stopReading side, .ok (), lanes' =>
    lanes' = lanes.withSource side.outgoing (lanes side.outgoing).source.stop
  | endWriting side, _, lanes' =>
    lanes' = lanes.withTarget side.incoming (lanes side.incoming).target.close
  | _, _, lanes' => lanes' = lanes

variable {config : ServerConfig} {lanes lanes' : Lanes} {stage : Stage}

/-- What a direction moves is what its call moves. -/
theorem Copy.moves_iff (room : Nat) (d : Direction) (copy : Copy) (answer : copy.Answer) :
    (∃ lane, copy.Moves room (lanes d) answer lane ∧ lanes' = Function.update lanes d lane) ↔
      ∃ ask ∈ copy.ask? room d, ∃ given,
        ask.take given = answer ∧ ask.call.Moves lanes given lanes' := by
  cases copy with
  | reading =>
    cases d <;> simp [ask?, Moves, SessionCall.Moves, Direction.source, Side.outgoing, Lanes.withSource]
  | writing rest count =>
    cases d <;> simp [ask?, Moves, SessionCall.Moves, Direction.target, Side.incoming, Lanes.withTarget]
  | done => cases answer

/-- A direction that can be answered waits for a call. -/
theorem Copy.ask?_ne_none (room : Nat) (d : Direction) (copy : Copy) (answer : copy.Answer) :
    copy.ask? room d ≠ none := by
  cases copy with
  | reading => exact nofun
  | writing rest count => exact nofun
  | done => cases answer

namespace Stage

theorem mem_asks_copying {upward downward : Copy} {ask : Ask (copying upward downward).Answer} :
    ask ∈ (copying upward downward).asks config ↔
      (∃ a ∈ upward.ask? config.pieceRoom .upward, a.map .inl = ask) ∨
        ∃ a ∈ downward.ask? config.pieceRoom .downward, a.map .inr = ask := by
  simp [asks]

theorem asks_copying_ne_nil {upward downward : Copy} (answer : (copying upward downward).Answer) :
    (copying upward downward).asks config ≠ [] := by
  intro none
  simp only [asks, List.append_eq_nil_iff, List.map_eq_nil_iff, Option.toList_eq_nil_iff] at none
  cases answer with
  | inl answer => exact Copy.ask?_ne_none _ _ upward answer none.1
  | inr answer => exact Copy.ask?_ne_none _ _ downward answer none.2

/-- **What a stage does to the connections is what its calls do**: each answer is one to a call of the
stage and moves what that call moves, and a stage without calls moves nothing. -/
theorem moves_iff (answer : stage.Answer) : stage.Moves config lanes answer lanes' ↔
    stage.asks config = [] ∧ lanes' = lanes ∨ ∃ ask ∈ stage.asks config, ∃ given,
      ask.take given = answer ∧ ask.call.Moves lanes given lanes' := by
  cases stage with
  | copying upward downward =>
    rw [or_iff_right fun none => asks_copying_ne_nil answer none.1]
    cases answer with
    | inl answer =>
      refine (Copy.moves_iff config.pieceRoom .upward upward answer).trans ⟨?_, ?_⟩
      · rintro ⟨ask, mem, given, rfl, goes⟩
        exact ⟨ask.map .inl, mem_asks_copying.2 (.inl ⟨ask, mem, rfl⟩), given, rfl, goes⟩
      · rintro ⟨ask, mem, given, took, goes⟩
        obtain ⟨ask, there, rfl⟩ | ⟨ask, there, rfl⟩ := mem_asks_copying.1 mem <;> cases took
        exact ⟨ask, there, given, rfl, goes⟩
    | inr answer =>
      refine (Copy.moves_iff config.pieceRoom .downward downward answer).trans ⟨?_, ?_⟩
      · rintro ⟨ask, mem, given, rfl, goes⟩
        exact ⟨ask.map .inr, mem_asks_copying.2 (.inr ⟨ask, mem, rfl⟩), given, rfl, goes⟩
      · rintro ⟨ask, mem, given, took, goes⟩
        obtain ⟨ask, there, rfl⟩ | ⟨ask, there, rfl⟩ := mem_asks_copying.1 mem <;> cases took
        exact ⟨ask, there, given, rfl, goes⟩
  | stopping sides =>
    cases sides <;> rcases answer with _ | ⟨⟨⟩⟩ <;> simp [asks, Moves, SessionCall.Moves]
  | reading reader => cases answer <;> simp [asks, Moves, SessionCall.Moves]
  | halfClosing d upward downward =>
    cases d <;> simp [asks, Moves, SessionCall.Moves, Direction.target, Side.incoming]
  | ended result => cases answer
  | _ => simp [asks, Moves, SessionCall.Moves, Side.incoming]

/-- A session connects at one stage, and there it does nothing else. -/
theorem connect_mem_calls_iff {destination : SocketAddress} {within : Duration} :
    .connect destination within ∈ stage.calls config ↔
      stage = connecting destination ∧ within = config.connectTimeout := by
  cases stage with
  | copying upward downward =>
    cases upward <;> cases downward <;> simp [calls, asks, Copy.ask?, Ask.map]
  | stopping sides => cases sides <;> simp [calls, asks]
  | connecting destination' => simp [calls, asks, eq_comm]
  | _ => simp [calls, asks]

end Stage

namespace Session

/-- A session, its connections, and what it shares with others. -/
structure World where
  shared : ConverterState
  session : Session
  lanes : Lanes

/-- What happened in a step. -/
inductive Event where
  /-- The session was answered. -/
  | advanced (stage : Stage) (answer : stage.Answer)
  /-- The source of a direction sent some bytes. -/
  | arrived (d : Direction) (bytes : Bytes)
  /-- The source of a direction ended its stream. -/
  | finished (d : Direction)
  /-- The reading of a direction was stopped. -/
  | stopped (d : Direction)
  /-- The target of a direction took some bytes. -/
  | drawn (d : Direction) (count : Nat)
  /-- Others changed what is shared. -/
  | disturbed

/-- One step. -/
inductive Step (w : World) : Event → World → Prop
  | advance (answer : w.session.stage.Answer) {shared : ConverterState} {stage : Stage}
      {lanes : Lanes} (moves : w.session.stage.Moves w.shared.config w.lanes answer lanes)
      (resumed : w.session.stage.resume w.shared w.session answer = (shared, stage)) :
      Step w (.advanced w.session.stage answer)
        { shared, lanes, session := { w.session with stage } }
  | arrive (d : Direction) (bytes : Bytes) (going : (w.lanes d).source.ended = false) :
      Step w (.arrived d bytes)
        { w with lanes := w.lanes.withSource d ((w.lanes d).source.put bytes) }
  | finish (d : Direction) :
      Step w (.finished d) { w with lanes := w.lanes.withSource d (w.lanes d).source.close }
  | stop (d : Direction) :
      Step w (.stopped d) { w with lanes := w.lanes.withSource d (w.lanes d).source.stop }
  | draw (d : Direction) (count : Nat) :
      Step w (.drawn d count)
        { w with lanes := w.lanes.withTarget d ((w.lanes d).target.advance count) }
  | disturb {table : Registry SessionState} (draining : Bool)
      (elsewhere : w.shared.table.Elsewhere w.session.handle table) :
      Step w .disturbed { w with shared := { w.shared with table, draining } }

/-- Steps one after the other, with all that happened in them. -/
inductive Run (w : World) : List Event → World → Prop
  | start : Run w [] w
  | step {log : List Event} {w' w'' : World} {event : Event} (run : Run w log w')
      (step : Step w' event w'') : Run w (log ++ [event]) w''

/-- The session is answered. -/
theorem Run.advance {w w' : World} {log : List Event} (run : Run w log w')
    (answer : w'.session.stage.Answer) {shared : ConverterState} {stage : Stage} {lanes : Lanes}
    (moves : w'.session.stage.Moves w'.shared.config w'.lanes answer lanes)
    (resumed : w'.session.stage.resume w'.shared w'.session answer = (shared, stage)) :
    Run w (log ++ [.advanced w'.session.stage answer])
      { shared, lanes, session := { w'.session with stage } } :=
  run.step (.advance answer moves resumed)

/-- A connection was accepted. Bytes of the client may be there already, and nothing is sent to anybody
yet. -/
structure World.Fresh (w : World) : Prop where
  sound : w.shared.table.Sound
  arriving : w.session.stage = .arriving
  untaken : ∀ d, (w.lanes d).source.taken = []
  silent : ∀ d, (w.lanes d).target = {}

/-! ## Where a direction is -/

/-- Where a bridge has got to with one of its directions. -/
inductive Position where
  | reading
  /-- `rest` of a piece of `count` bytes has not been given to the target yet. -/
  | writing (rest : Bytes) (count : Nat)
  /-- A piece has been moved and not been counted yet. -/
  | counting (count : Nat)
  /-- The source has ended, and the target has not been told. -/
  | ending
  | finished
  deriving DecidableEq, Repr

end Session

def Copy.position : Copy → Position
  | reading => .reading
  | writing rest count => .writing rest count
  | done => .finished

/-- The one of two things that belongs to a direction. -/
def Direction.pick {α : Type} (d : Direction) (upward downward : α) : α :=
  match d with
  | .upward => upward
  | .downward => downward

/-- Where a bridge has got to, if there is one. -/
def Stage.position? (d : Direction) : Stage → Option Position
  | bridged | stopping _ => some .reading
  | copying upward downward => some (d.pick upward downward).position
  | counting d' count upward downward =>
    some (if d = d' then .counting count else (d.pick upward downward).position)
  | ending d' upward downward | halfClosing d' upward downward =>
    some (if d = d' then .ending else (d.pick upward downward).position)
  | _ => none

namespace Session

namespace Position

/-- The part of a piece that the target has not been given. -/
def rest : Position → Bytes
  | writing rest _ => rest
  | reading | counting _ | ending | finished => []

/-- How many bytes of a piece have not been counted. -/
def size : Position → Nat
  | writing _ count | counting count => count
  | reading | ending | finished => 0

/-- The source has ended. -/
def sourceEnded : Position → Bool
  | ending | finished => true
  | reading | writing .. | counting _ => false

end Position

/-! ## What is seen of a bridge -/

/-- The bytes behind the message at the front of a stream, if there is one. -/
def behindMessage (bytes : Bytes) : Bytes :=
  match Message.decode bytes with
  | .ok (_, used) => bytes.drop used
  | .error _ => []

/-- The bytes behind the reply that reports success, if that is at the front. -/
def behindSuccess (bytes : Bytes) : Bytes :=
  if Message.empty.wire <+: bytes then bytes.drop Message.empty.wire.length else []

namespace World

/-- What the source of a direction has sent: the client's bytes behind its request, or the bytes of
the destination. -/
def stream (w : World) : Direction → Bytes
  | .upward => behindMessage (w.lanes .upward).source.sent
  | .downward => (w.lanes .downward).source.sent

/-- What the target of a direction has been given: the destination, or the client behind the reply. -/
def delivered (w : World) : Direction → Bytes
  | .upward => (w.lanes .upward).target.sent
  | .downward => behindSuccess (w.lanes .downward).target.sent

/-- What the table tells about the bridge. -/
def bridge? (w : World) : Option Bridge :=
  (w.shared.table.lookup w.session.handle).bind (·.bridge)

/-- The number of bytes that the table tells of a direction. -/
def counter? (w : World) (d : Direction) : Option Nat := w.bridge?.map fun b => (b.direction d).bytes

end World

end Session

end TransportConverter
