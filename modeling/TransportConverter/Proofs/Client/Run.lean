import TransportConverter.Client.Engine
/-!
# Runs of the engine

All that callers do with one engine, step by step: handles are tracked and closed, operations are
started, and the socket calls they wait for are answered. A step can be anything at any time, so
between a socket call and its answer there is room for whatever other callers do, answers to their
own socket calls included, and nothing is assumed of any answer.

A handle can be tracked, given up and tracked again. `World.trackings` tells these times apart: an
operation keeps the number of the tracking in which it was started.
-/
namespace TransportConverter

namespace Engine

/-- What a caller wants to know or to have done about a handle (`try_connect`, `on_readable`, `on_send` and
`await_reply`). -/
inductive Call where
  | connect (destination : SocketAddress)
  | readable
  | send
  | await
  deriving DecidableEq, Repr

/-- Where the handle is to be connected to. -/
def Call.destination? : Call → Option SocketAddress
  | connect destination => some destination
  | readable | send | await => none

def start (e : Engine) (h : Handle) : Call → Engine × Progress
  | .connect destination => e.tryConnect h destination
  | .readable => e.onReadable h
  | .send => e.onSend h
  | .await => e.awaitReply h

/-- An operation that waits for its socket call, and the tracking of its handle that it is part of. -/
structure Caller where
  tracking : Nat
  op : Operation
  deriving DecidableEq, Repr

namespace Caller

def handle (c : Caller) : Handle := c.op.handle

end Caller

/-- The engine and those who wait inside it. -/
structure World where
  engine : Engine
  /-- How often each handle has been tracked. -/
  trackings : Handle → Nat
  inFlight : List Caller

/-- What happened in a step. -/
inductive Event where
  | tracked (h : Handle)
  | closed (h : Handle)
  | called (h : Handle) (tracking : Nat) (call : Call) (progress : Progress)
  | answered (c : Caller) (answer : c.op.Answer) (progress : Progress)

end Engine

open Engine

namespace Progress

/-- Who is in flight afterwards. -/
def callers (tracking : Nat) : Progress → List Caller
  | waiting op => [⟨tracking, op⟩]
  | done _ | overrun => []

/-- The caller is told that the redirect is done. -/
def resolves : Progress → Bool
  | done (.read (.ok .resolved)) => true
  | _ => false

/-- Who is in flight on `k` afterwards, where a socket call can only be made on `h`. -/
theorem filter_callers {p : Progress} {h : Handle} (same : ∀ op, p = waiting op → op.handle = h)
    (n : Nat) (k : Handle) :
    (p.callers n).filter (·.handle = k) = if h = k then p.callers n else [] := by
  cases p with
  | waiting op =>
    have : op.handle = h := same op rfl
    simp [callers, List.filter_cons, Caller.handle, this]
  | done result => simp [callers]
  | overrun => simp [callers]

/-- An operation goes on as one caller, or ends and may report then that the redirect is done. -/
theorem resolves_add_length_le (p : Progress) (n : Nat) :
    (if p.resolves then 1 else 0) + (p.callers n).length ≤ 1 := by
  cases p with
  | waiting op => exact Nat.le_refl 1
  | done result =>
    show (if (done result).resolves then 1 else 0) + 0 ≤ 1
    split <;> omega
  | overrun => exact Nat.zero_le 1

end Progress

namespace Engine

namespace World

/-- Starts tracking a handle, if it is not tracked already. -/
def track (w : World) (h : Handle) : World :=
  match w.engine.track h with
  | .ok engine =>
    { w with engine, trackings := fun k => if k = h then w.trackings k + 1 else w.trackings k }
  | .error _ => w

def close (w : World) (h : Handle) : World := { w with engine := (w.engine.onClose h).1 }

/-- Those in flight on a handle. -/
def flying (w : World) (h : Handle) : List Caller := w.inFlight.filter (·.handle = h)

end World

/-- One step of the callers. -/
inductive Step (w : World) : Event → World → Prop
  | track (h : Handle) : Step w (.tracked h) (w.track h)
  | close (h : Handle) : Step w (.closed h) (w.close h)
  | call (h : Handle) (call : Call) {engine : Engine} {p : Progress}
      (started : w.engine.start h call = (engine, p)) :
      Step w (.called h (w.trackings h) call p)
        { w with engine, inFlight := p.callers (w.trackings h) ++ w.inFlight }
  | answer {before after : List Caller} {c : Caller} (place : w.inFlight = before ++ c :: after)
      (answer : c.op.Answer) {engine : Engine} {p : Progress}
      (resumed : w.engine.resume c.op answer = (engine, p)) :
      Step w (.answered c answer p)
        { w with engine, inFlight := before ++ p.callers c.tracking ++ after }

/-- Steps one after the other, with all that happened in them. -/
inductive Run (w : World) : List Event → World → Prop
  | start : Run w [] w
  | step {log : List Event} {w' w'' : World} {event : Event} (run : Run w log w')
      (step : Step w' event w'') : Run w (log ++ [event]) w''

/-- A tracking of `h` that begins in `w`, where nobody is left from an earlier one, and all that
happens from then on. -/
structure Begun (h : Handle) (w : World) (log : List Event) (w' : World) : Prop where
  untracked : w.engine.table.contains h = false
  quiet : w.flying h = []
  run : Run (w.track h) log w'

/-! ## What is seen in a run -/

end Engine

/-- The bytes of a request that a socket takes. What it says to have taken beyond the payload does not
count. -/
def Operation.taken : (op : Operation) → op.Answer → Bytes
  | .sendingRequest _ request, .ok count => request.take count
  | .flushing _ _ pending, .ok count => pending.take count
  | _, _ => []

namespace Engine

namespace Event

/-- The bytes of the request of `h` that are taken in a step. -/
def taken (h : Handle) : Event → Bytes
  | answered c answer _ => if c.handle = h then c.op.taken answer else []
  | _ => []

/-- Where `h` is to be connected to. -/
def destination? (h : Handle) : Event → Option SocketAddress
  | called k _ call _ => if k = h then call.destination? else none
  | _ => none

/-- Somebody is told that the redirect of `h` is done, in a tracking of it. -/
def resolves (h : Handle) (tracking : Nat) : Event → Bool
  | called k n _ p => k == h && n == tracking && p.resolves
  | answered c _ p => c.handle == h && c.tracking == tracking && p.resolves
  | _ => false

end Event

/-- The bytes of the request of `h` that were taken in a run, in order. -/
def accepted (h : Handle) (log : List Event) : Bytes := log.flatMap (Event.taken h)

/-- Where `h` was first to be connected to. -/
def asked (h : Handle) (log : List Event) : Option SocketAddress :=
  log.findSome? (Event.destination? h)

theorem accepted_snoc (h : Handle) (log : List Event) (event : Event) :
    accepted h (log ++ [event]) = accepted h log ++ event.taken h := by
  simp [accepted]

theorem asked_snoc (h : Handle) (log : List Event) (event : Event) :
    asked h (log ++ [event]) = (asked h log).or (event.destination? h) := by
  simp [asked]

theorem countP_resolves_snoc (h : Handle) (n : Nat) (log : List Event) (event : Event) :
    (log ++ [event]).countP (Event.resolves h n) =
      log.countP (Event.resolves h n) + if event.resolves h n then 1 else 0 := by
  rw [List.countP_append, List.countP_singleton]

end Engine

end TransportConverter
