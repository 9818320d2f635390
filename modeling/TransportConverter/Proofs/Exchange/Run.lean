import TransportConverter.Proofs.Client.Run
import TransportConverter.Proofs.Converter.Run
/-!
# A redirect, seen from both sides

A client's engine and a converter's session at the two ends of one connection, with nothing between them
but its two pipes. A step is one of the engine, with the answer that the pipes give to its socket call;
one of the session; or one of what is around them: other handles of the client, other sessions, the
destination, and the application, which sends what it likes behind the request. Nothing fails between the
two and nothing takes too long; the connect to the destination may fail in any way.
-/
namespace TransportConverter

open Engine Session

/-! ## What the pipes answer the client -/

/-- A socket shows up to `room` bytes that are at hand, or would block. It shows none once there will be
no more. -/
def Pipe.Shows (p : Pipe) (closed : Prop) (room : Nat) : Except IoError Bytes → Prop
  | .ok bytes => bytes <+: p.held ∧ bytes.length ≤ room ∧ (bytes = [] → p.held = [] ∧ closed)
  | .error error => error.kind = .wouldBlock

/-- All that is at hand is shown, as far as there is room for it. -/
def Pipe.ShowsAll (p : Pipe) (room : Nat) : Except IoError Bytes → Prop
  | .ok bytes => bytes = p.held.take room
  | .error _ => p.held = [] ∧ p.ended = false

/-- A socket hands out `count` bytes, unless there will never be so many. -/
def Pipe.Hands (p : Pipe) (closed : Prop) (count : Nat) : Except IoError Bytes → Pipe → Prop
  | .ok bytes, p' => count ≤ p.held.length ∧ bytes = p.held.take count ∧ p' = p.advance count
  | .error _, p' => closed ∧ p.held.length < count ∧ p' = p

/-- What a socket call of the client does to its connection when nothing fails: `up` leads to the
converter and `down` comes from it. A blocking send takes everything. -/
def Operation.Heard (up down : Pipe) (closed : Prop) :
    (op : Operation) → op.Answer → Pipe → Pipe → Prop
  | .sendingRequest _ request, .ok count, up', down' =>
    count ≤ request.length ∧ up' = up.put (request.take count) ∧ down' = down
  | .sendingRequest _ _, .error error, up', down' =>
    error.number? = some IoError.connectInProgress ∧ up' = up ∧ down' = down
  | .flushing _ mode pending, .ok count, up', down' =>
    count ≤ pending.length ∧ (mode = .blocking → count = pending.length) ∧
      up' = up.put (pending.take count) ∧ down' = down
  | .flushing _ mode _, .error error, up', down' =>
    mode = .polling ∧ error.kind = .wouldBlock ∧ up' = up ∧ down' = down
  | .peekingHeader _, answer, up', down' =>
    down.Shows closed headerLength answer ∧ up' = up ∧ down' = down
  | .peekingMessage _ length, answer, up', down' =>
    down.Shows closed length answer ∧ up' = up ∧ down' = down
  | .takingMessage _ length, answer, up', down' => down.Hands closed length answer down' ∧ up' = up
  | .takingHeader _, answer, up', down' => down.Hands closed headerLength answer down' ∧ up' = up
  | .takingRest _ _ length, answer, up', down' =>
    down.Hands closed (length - headerLength) answer down' ∧ up' = up
  | .armingReset _ _, _, up', down' => up' = up ∧ down' = down

/-- The connection keeps nothing back that a look could be shown. -/
def Operation.Prompt (down : Pipe) : (op : Operation) → op.Answer → Prop
  | .peekingHeader _, answer => down.ShowsAll headerLength answer
  | .peekingMessage _ length, answer => down.ShowsAll length answer
  | _, _ => True

namespace Engine

/-- An event that the connection of `h` has no part in. -/
def Event.Off (h : Handle) : Event → Prop
  | tracked k | closed k => k ≠ h
  | called .. => True
  | answered c _ _ => c.handle ≠ h

end Engine

/-! ## What happens to the converter -/

/-- An answer to a session that is no failure of its client's connection. -/
def Stage.Smooth : (stage : Stage) → stage.Answer → Prop
  | arriving, answer => answer = .ok ()
  | reading _, .inTime (.ok _) => True
  | reading _, _ => False
  | replying _ _, .ok count | rejecting _ _, .ok count => 0 < count
  | replying _ _, .error _ | rejecting _ _, .error _ => False
  | _, _ => True

/-- The request has been read. -/
def Stage.hasRead : Stage → Bool
  | arriving | entering | announcing | reading _ => false
  | _ => true

/-- What happens around a session, but to its client. The reading of the client may be stopped once its
request has been read. -/
def Session.Event.Aside (stage : Stage) : Session.Event → Prop
  | .arrived .downward _ | .finished .downward | .stopped .downward | .drawn .upward _
  | .disturbed => True
  | .stopped .upward => stage.hasRead = true
  | _ => False

namespace Exchange

/-- Both sides. -/
structure World where
  client : Engine.World
  /-- What has happened on the client's side since the handle was tracked. -/
  log : List Engine.Event := []
  server : Session.World

namespace World

variable (x : World) (h : Handle)

/-- From the client to the converter. -/
def up : Pipe := (x.server.lanes .upward).source

/-- From the converter to the client. -/
def down : Pipe := (x.server.lanes .downward).target

/-- The converter sends no more. -/
def Closed : Prop := x.down.ended = true ∨ ∃ result, x.server.session.stage = .ended result

/-- What the client asks for, once it does. -/
def request? : Option Message :=
  (asked h x.log).map (Message.request · x.client.engine.config.cookie)

/-- The converter has been sent the whole request. -/
def Out : Prop := ∃ m, x.request? h = some m ∧ accepted h x.log = m.wire

/-- The converter's end, with other bytes in the connection. -/
def withPipes (up down : Pipe) : Session.World :=
  { x.server with lanes := (x.server.lanes.withSource .upward up).withTarget .downward down }

/-- The client's handle is tracked. -/
def begin : World := { x with client := x.client.track h, log := [] }

end World

/-- One step. -/
inductive Step (h : Handle) (x : World) : World → Prop
  /-- The client's engine does something that the connection has no part in. -/
  | off {event : Engine.Event} {client : Engine.World} (step : Engine.Step x.client event client)
      (off : event.Off h) : Step h x { x with client, log := x.log ++ [event] }
  /-- The connection answers the client. -/
  | answer {c : Caller} {answer : c.op.Answer} {p : Progress} {client : Engine.World}
      {up down : Pipe} (step : Engine.Step x.client (.answered c answer p) client)
      (own : c.handle = h) (heard : c.op.Heard x.up x.down x.Closed answer up down) :
      Step h x
        { client, log := x.log ++ [.answered c answer p], server := x.withPipes up down }
  /-- The converter's session goes on. -/
  | serve {answer : x.server.session.stage.Answer} {server : Session.World}
      (step : Session.Step x.server (.advanced x.server.session.stage answer) server)
      (smooth : x.server.session.stage.Smooth answer)
      (newly : x.server.session.stage = .entering →
        x.server.shared.table.contains x.server.session.handle = false) :
      Step h x { x with server }
  /-- Something happens around the session. -/
  | aside {event : Session.Event} {server : Session.World}
      (step : Session.Step x.server event server) (aside : event.Aside x.server.session.stage) :
      Step h x { x with server }
  /-- The application sends bytes behind the request. -/
  | follow (bytes : Bytes) (out : x.Out h) (going : x.up.ended = false) :
      Step h x { x with server := x.withPipes (x.up.put bytes) x.down }
  /-- The application ends its stream. -/
  | finish (out : x.Out h) : Step h x { x with server := x.withPipes x.up.close x.down }

inductive Run (h : Handle) (x : World) : World → Prop
  | start : Run h x x
  | step {x' x'' : World} (run : Run h x x') (step : Step h x' x'') : Run h x x''

/-- Steps in which the connection answers callers on `h`, `answers` times in all and promptly each time,
and whatever else happens in between. -/
inductive Prompted (h : Handle) (x : World) : Nat → World → Prop
  | start : Prompted h x 0 x
  | other {answers : Nat} {x' x'' : World} (run : Prompted h x answers x') (step : Step h x' x'')
      (silent : ∀ event, x''.log = x'.log ++ [event] → event.Off h) : Prompted h x answers x''
  | answer {answers : Nat} {x' x'' : World} (run : Prompted h x answers x') (step : Step h x' x'')
      {c : Caller} {answer : c.op.Answer} {p : Progress} (own : c.handle = h)
      (log : x''.log = x'.log ++ [.answered c answer p]) (prompt : c.op.Prompt x'.down answer) :
      Prompted h x (answers + 1) x''

variable {x x' : World} {h : Handle}

/-- The client's engine is called. -/
theorem Run.call (run : Run h x x') (k : Handle) (call : Call) {engine : Engine} {p : Progress}
    (started : x'.client.engine.start k call = (engine, p)) :
    Run h x
      { x' with
        client :=
          { x'.client with
            engine, inFlight := p.callers (x'.client.trackings k) ++ x'.client.inFlight }
        log := x'.log ++ [.called k (x'.client.trackings k) call p] } :=
  run.step (.off (.call k call started) trivial)

/-- The connection answers the client, which has one caller in flight. -/
theorem Run.answer (run : Run h x x') {n : Nat} {op : Operation}
    (flies : x'.client.inFlight = [⟨n, op⟩]) (own : op.handle = h) (answer : op.Answer)
    {engine : Engine} {p : Progress} (resumed : x'.client.engine.resume op answer = (engine, p))
    {up down : Pipe} (heard : op.Heard x'.up x'.down x'.Closed answer up down) :
    Run h x
      { client := { x'.client with engine, inFlight := p.callers n ++ [] }
        log := x'.log ++ [.answered ⟨n, op⟩ answer p]
        server := x'.withPipes up down } :=
  run.step (.answer (@Engine.Step.answer _ [] [] ⟨n, op⟩ flies answer _ _ resumed) own heard)

/-- The session is answered. -/
theorem Run.serve (run : Run h x x') (answer : x'.server.session.stage.Answer)
    {shared : ConverterState} {stage : Stage} {lanes : Lanes}
    (moves : x'.server.session.stage.Moves x'.server.shared.config x'.server.lanes answer lanes)
    (resumed : x'.server.session.stage.resume x'.server.shared x'.server.session answer =
      (shared, stage))
    (smooth : x'.server.session.stage.Smooth answer)
    (newly : x'.server.session.stage = .entering →
      x'.server.shared.table.contains x'.server.session.handle = false) :
    Run h x
      { x' with server := { shared, lanes, session := { x'.server.session with stage } } } :=
  run.step (.serve (.advance answer moves resumed) smooth newly)

/-- The client's engine is called in between. -/
theorem Prompted.call {answers : Nat} (run : Prompted h x answers x') (k : Handle) (call : Call)
    {engine : Engine} {p : Progress} (started : x'.client.engine.start k call = (engine, p)) :
    Prompted h x answers
      { x' with
        client :=
          { x'.client with
            engine, inFlight := p.callers (x'.client.trackings k) ++ x'.client.inFlight }
        log := x'.log ++ [.called k (x'.client.trackings k) call p] } := by
  refine run.other (.off (.call k call started) trivial) fun event more => ?_
  cases List.append_cancel_left more
  exact trivial

/-- The connection answers the client promptly, which has one caller in flight. -/
theorem Prompted.answers {answers : Nat} (run : Prompted h x answers x') {n : Nat} {op : Operation}
    (flies : x'.client.inFlight = [⟨n, op⟩]) (own : op.handle = h) (answer : op.Answer)
    {engine : Engine} {p : Progress} (resumed : x'.client.engine.resume op answer = (engine, p))
    {up down : Pipe} (heard : op.Heard x'.up x'.down x'.Closed answer up down)
    (prompt : op.Prompt x'.down answer) :
    Prompted h x (answers + 1)
      { client := { x'.client with engine, inFlight := p.callers n ++ [] }
        log := x'.log ++ [.answered ⟨n, op⟩ answer p]
        server := x'.withPipes up down } :=
  run.answer (c := ⟨n, op⟩)
    (.answer (@Engine.Step.answer _ [] [] ⟨n, op⟩ flies answer _ _ resumed) own heard) own rfl prompt

/-- Before a redirect: the client's cookie is one that can be sent, nothing is known of its handle, and
nothing has been sent over its connection. -/
structure World.Fresh (h : Handle) (x : World) : Prop where
  cookie : ∀ cookie, x.client.engine.config.cookie = some cookie →
    1 ≤ cookie.length ∧ cookie.length ≤ 256
  untracked : x.client.engine.table.contains h = false
  quiet : x.client.flying h = []
  server : x.server.Fresh
  unsent : x.up = {}

end Exchange

/-! ## What becomes of a redirect -/

/-- What a caller that was answered is told: that the redirect is done, or why it failed. -/
def Progress.verdict? : Progress → Option (Except RedirectError Unit)
  | done (.read (.ok .resolved)) => some (.ok ())
  | done (.read (.error error)) | waiting (.armingReset _ error) => some (.error error)
  | _ => none

/-- What a caller on `h` is told of its redirect. -/
def Engine.Event.verdict? (h : Handle) : Engine.Event → Option (Except RedirectError Unit)
  | answered c _ p => if c.handle = h then p.verdict? else none
  | _ => none

/-- What came of establishing a session: its client was told of the success, or it failed before. -/
def Session.World.outcome? (w : Session.World) : Option (Except ConverterError Unit) :=
  if Message.empty.wire <+: (w.lanes .downward).target.sent then some (.ok ())
  else match w.session.stage with
    | .rejecting error _ | .armingReset error | .marking error | .leaving (.error error)
    | .ended (.error error) => some (.error error)
    | _ => none

end TransportConverter
