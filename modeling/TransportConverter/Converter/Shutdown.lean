import TransportConverter.Converter.Server
/-!
# Shutting a converter down

A shutdown stops accepting, raises the flag that keeps sessions from bridging, and goes once over
the table to stop the reading of every session that is in it: their bridges then see both streams
end. A session that was not in the table at that moment finds the flag raised, before or after it
has recorded its bridge. After that the shutdown waits for the table to be empty.

The table is divided, and the shutdown reads it one division at a time, so sessions come and go
between any two of its steps.
-/
namespace TransportConverter

/-- How the handles of a table are divided. -/
structure Division where
  count : Nat
  index : Handle → Nat

/-- What a shutdown does next (`shutdown`). -/
inductive Sweep where
  | raising
  /-- Reads the handles of one part of the table behind those `found` in the parts before it. -/
  | listing (part : Nat) (found : List Handle)
  | looking (handles : List Handle)
  /-- Stops the reading of `sockets` and goes on with `handles`. -/
  | stopping (sockets : List SessionSocket) (handles : List Handle)
  /-- Waits, unless the time for that is over. -/
  | waiting
  /-- Looks whether one part of the table is empty. -/
  | checking (part : Nat) (timeLeft : Bool)
  | done (drained : Bool)
  deriving DecidableEq, Repr

namespace Sweep

/-- What takes a shutdown on. Stopping the reading of a socket can fail, and a wait says whether
there is time left. -/
abbrev Answer : Sweep → Type
  | stopping .. => Except IoError Unit
  | waiting => Bool
  | done _ => Empty
  | raising | listing .. | looking _ | checking .. => Unit

/-- The answer of a step that asks nothing of the system. -/
def silent? : (sweep : Sweep) → Option sweep.Answer
  | stopping .. | waiting | done _ => none
  | raising | listing .. | looking _ | checking .. => some ()

/-- The handles in one part of a table. -/
def handlesOf (division : Division) (table : Registry SessionState) (part : Nat) : List Handle :=
  table.handles.filter fun h => division.index h = part

/-- Goes on with the handles that are left. -/
def look : List Handle → Sweep
  | [] => waiting
  | handles => looking handles

def stopAll (sockets : List SessionSocket) (handles : List Handle) : Sweep :=
  if sockets.isEmpty then look handles else stopping sockets handles

/-- Turns to a part of the table, to list its handles. -/
def list (division : Division) (part : Nat) (found : List Handle) : Sweep :=
  if part < division.count then listing part found else look found

/-- Turns to a part of the table, to see whether it is empty. -/
def check (division : Division) (part : Nat) (timeLeft : Bool) : Sweep :=
  if part < division.count then checking part timeLeft else done true

/-- Begins a shutdown: `shutdown` stops accepting before anything else. -/
def start (s : Server) : Server × Sweep := (s.stop, raising)

/-- Carries a shutdown on (`shutdown`). -/
def resume (division : Division) (s : Server) : (sweep : Sweep) → sweep.Answer → Server × Sweep
  | raising, () => ({ s with draining := true }, list division 0 [])
  | listing part found, () =>
    (s, list division (part + 1) (found ++ handlesOf division s.table part))
  | looking [], () => (s, waiting)
  | looking (h :: handles), () =>
    match s.table.lookup h with
    | some state => (s, stopAll state.sockets handles)
    | none => (s, look handles)
  | stopping sockets handles, _ => (s, stopAll sockets.tail handles)
  | waiting, timeLeft => (s, check division 0 timeLeft)
  | checking part timeLeft, () =>
    if (handlesOf division s.table part).isEmpty then (s, check division (part + 1) timeLeft)
    else (s, if timeLeft then waiting else done false)

end Sweep

end TransportConverter
