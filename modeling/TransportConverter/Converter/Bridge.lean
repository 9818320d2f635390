import TransportConverter.Bytes
import TransportConverter.Handle
import TransportConverter.IoError
/-!
# Bridges

A bridge moves bytes between a client and its destination, in both directions at once. Each
direction takes a piece from its source, gives all of it to its target, and takes the next
(`Copy`, for the function `copy`). When its source has ended it is done, and the other direction goes on.
-/
namespace TransportConverter

/-- The two ends of a session. -/
inductive Side where
  | client
  | destination
  deriving DecidableEq, Repr

inductive Direction where
  /-- From the client to the destination. -/
  | upward
  /-- From the destination to the client. -/
  | downward
  deriving DecidableEq, Repr

namespace Direction

def source : Direction → Side
  | upward => .client
  | downward => .destination

def target : Direction → Side
  | upward => .destination
  | downward => .client

end Direction

/-- How far a direction has got. -/
structure DirectionState where
  /-- How many bytes the target has been given. A counter of 64 bits whose sums are checked shows the
  same for less than 2^64 of them, which is more than any connection carries. -/
  bytes : Nat := 0
  /-- The source has not ended yet. -/
  isOpen : Bool := true
  deriving DecidableEq, Repr

/-- What is known of a bridge (`BridgePair`). -/
structure Bridge where
  client : Handle
  destination : Handle
  upward : DirectionState := {}
  downward : DirectionState := {}
  deriving DecidableEq, Repr

namespace Bridge

def direction (b : Bridge) : Direction → DirectionState
  | .upward => b.upward
  | .downward => b.downward

def onDirection (b : Bridge) (d : Direction) (f : DirectionState → DirectionState) : Bridge :=
  match d with
  | .upward => { b with upward := f b.upward }
  | .downward => { b with downward := f b.downward }

/-- Both sources have ended (`is_closed`). -/
def isClosed (b : Bridge) : Bool := !b.upward.isOpen && !b.downward.isOpen

/-- A direction has given `count` more bytes to its target. -/
def counted (b : Bridge) (d : Direction) (count : Nat) : Bridge :=
  b.onDirection d fun s => { s with bytes := s.bytes + count }

/-- The source of a direction has ended. -/
def ended (b : Bridge) (d : Direction) : Bridge := b.onDirection d ({ · with isOpen := false })

/-- The bridge is over, whether its sources have ended or not (the end of `run`). -/
def closed (b : Bridge) : Bridge := (b.ended .upward).ended .downward

end Bridge

/-! ## Copying -/

/-- What is left of some bytes after the socket has answered a write of them (`write_all`). A socket that
takes nothing will never take anything. -/
def unwritten (bytes : Bytes) : Except IoError Nat → Except IoError Bytes
  | .ok count => if count = 0 then .error (.bare .writeZero) else .ok (bytes.drop count)
  | .error error => .error error

/-- Where a direction stands when it waits. -/
inductive Copy where
  | reading
  /-- `rest` of a piece of `count` bytes has not been given to the target yet. -/
  | writing (rest : Bytes) (count : Nat)
  | done
  deriving DecidableEq, Repr

namespace Copy

/-- What the source gives, or how much the target takes. -/
abbrev Answer : Copy → Type
  | reading => Except IoError Bytes
  | writing .. => Except IoError Nat
  | done => Empty

end Copy

/-- What follows an answer. -/
inductive CopyProgress where
  | waiting (copy : Copy)
  /-- The target has all of a piece of `count` bytes. -/
  | moved (count : Nat)
  /-- The source has ended. -/
  | sourceEnded
  | failed (error : IoError)

/-- Carries a direction on (the body of the loop of `copy`). -/
def Copy.resume : (c : Copy) → c.Answer → CopyProgress
  | reading, .ok [] => .sourceEnded
  | reading, .ok piece => .waiting (writing piece piece.length)
  | reading, .error error => .failed error
  | writing rest count, answer =>
    match unwritten rest answer with
    | .ok [] => .moved count
    | .ok rest => .waiting (writing rest count)
    | .error error => .failed error

end TransportConverter
