import TransportConverter.Converter.Bridge
/-!
# Pipes

One direction of a connection, with a program at either end that knows nothing of the other. Bytes are
put in at one end and taken at the other in the order in which they were put in; what is held in between
arrives at any time and in any pieces. What a call on a socket can answer is what the pipe behind it
holds (`Pipe.Peeks`, `Pipe.Reads`, `Pipe.Takes`, `Pipe.Writes`), or an error at any time.
-/
namespace TransportConverter

structure Pipe where
  /-- What has been taken out. -/
  taken : Bytes := []
  /-- What has been put in and not been taken yet. -/
  held : Bytes := []
  /-- No more is put in. -/
  ended : Bool := false
  /-- Whoever takes out was told to stop. -/
  stopped : Bool := false
  deriving DecidableEq, Repr

namespace Pipe

/-- All that was put in so far. -/
def sent (p : Pipe) : Bytes := p.taken ++ p.held

/-- Nothing more will come out. -/
def Exhausted (p : Pipe) : Prop := p.stopped = true ∨ p.held = [] ∧ p.ended = true

def put (p : Pipe) (bytes : Bytes) : Pipe := { p with held := p.held ++ bytes }

def close (p : Pipe) : Pipe := { p with ended := true }

def stop (p : Pipe) : Pipe := { p with stopped := true }

/-- The first `count` bytes are taken. -/
def advance (p : Pipe) (count : Nat) : Pipe :=
  { p with taken := p.taken ++ p.held.take count, held := p.held.drop count }

@[simp] theorem sent_put (p : Pipe) (bytes : Bytes) : (p.put bytes).sent = p.sent ++ bytes := by
  simp [sent, put]

@[simp] theorem put_nil (p : Pipe) : p.put [] = p := by simp [put]

@[simp] theorem sent_advance (p : Pipe) (count : Nat) : (p.advance count).sent = p.sent := by
  simp [sent, advance]

@[simp] theorem ended_put (p : Pipe) (bytes : Bytes) : (p.put bytes).ended = p.ended := rfl

theorem taken_isPrefix (p : Pipe) : p.taken <+: p.sent := List.prefix_append ..

/-! ## What a call on a socket can answer -/

/-- A look at up to `room` bytes that are at hand. -/
inductive Peeks (p : Pipe) (room : Nat) : Except IoError Bytes → Prop
  | piece (count : Nat) (some : 0 < count) (fits : count ≤ room) (there : count ≤ p.held.length) :
      Peeks p room (.ok (p.held.take count))
  | eof (exhausted : p.Exhausted) : Peeks p room (.ok [])
  | fails (error : IoError) : Peeks p room (.error error)

/-- Up to `room` bytes that are at hand are taken. -/
inductive Reads (p : Pipe) (room : Nat) : Except IoError Bytes → Pipe → Prop
  | piece (count : Nat) (some : 0 < count) (fits : count ≤ room) (there : count ≤ p.held.length) :
      Reads p room (.ok (p.held.take count)) (p.advance count)
  | eof (exhausted : p.Exhausted) : Reads p room (.ok []) p
  | fails (error : IoError) : Reads p room (.error error) p

/-- Exactly `count` bytes are taken, or some of them are lost. -/
inductive Takes (p : Pipe) (count : Nat) : Except IoError Bytes → Pipe → Prop
  | whole (there : count ≤ p.held.length) : Takes p count (.ok (p.held.take count)) (p.advance count)
  | fails (lost : Nat) (error : IoError) : Takes p count (.error error) (p.advance lost)

/-- A part of `bytes` is put in. -/
inductive Writes (p : Pipe) (bytes : Bytes) : Except IoError Nat → Pipe → Prop
  | takes (count : Nat) (fits : count ≤ bytes.length) :
      Writes p bytes (.ok count) (p.put (bytes.take count))
  | fails (error : IoError) : Writes p bytes (.error error) p

variable {p p' : Pipe} {rest : Bytes}

/-- What is left of some bytes is what was not put in. -/
theorem Writes.cases {answer : Except IoError Nat} (writes : p.Writes rest answer p') :
    (∃ error, unwritten rest answer = .error error ∧ p' = p) ∨
    ∃ written left, rest = written ++ left ∧ unwritten rest answer = .ok left ∧
      p' = p.put written := by
  cases writes with
  | takes count fits =>
    by_cases none : count = 0
    · subst none
      exact .inl ⟨_, rfl, by simp⟩
    · refine .inr ⟨_, _, (List.take_append_drop count rest).symm, ?_, rfl⟩
      rw [unwritten, if_neg none]
  | fails error => exact .inl ⟨error, rfl, rfl⟩

end Pipe

end TransportConverter
