import TransportConverter.Proofs.Exchange.Asking
/-!
# One look for the answer, from beginning to end

A look at the connection of one handle, carried on until it ends. The connection brings some bytes and
may end behind them; they come whenever they like and in any pieces, also between a socket call and its
answer, and so does whatever is done to other handles. `Ends` is how a look can end, and `Surely` says of a
look that it does end, however the connection answers, and what holds then.
-/
namespace TransportConverter

open Engine

namespace Pipe

/-! ## How a stream arrives -/

/-- What comes is `stream`, and the end comes behind all of it. -/
structure Brings (p : Pipe) (stream : Bytes) : Prop where
  part : p.sent <+: stream
  whole : p.ended = true → p.sent = stream

/-- More of `stream` comes, or its end. -/
structure Arrives (stream : Bytes) (p p' : Pipe) : Prop where
  taken : p'.taken = p.taken
  held : p.held <+: p'.held
  ended : p.ended = true → p'.ended = true
  brings : p'.Brings stream

variable {stream : Bytes} {p p' p'' : Pipe}

theorem Brings.arrives (brings : p.Brings stream) : p.Arrives stream p :=
  ⟨rfl, List.prefix_rfl, id, brings⟩

theorem Arrives.trans (first : p.Arrives stream p') (second : p'.Arrives stream p'') :
    p.Arrives stream p'' where
  taken := second.taken.trans first.taken
  held := first.held.trans second.held
  ended shut := second.ended (first.ended shut)
  brings := second.brings

theorem Arrives.sent_isPrefix (arrives : p.Arrives stream p') : p.sent <+: p'.sent := by
  rw [sent, sent, arrives.taken, List.prefix_append_right_inj]
  exact arrives.held

theorem Brings.advance (brings : p.Brings stream) (count : Nat) :
    (p.advance count).Brings stream where
  part := by
    rw [sent_advance]
    exact brings.part
  whole shut := by
    rw [sent_advance]
    exact brings.whole shut

theorem sent_of_unread (unread : p.taken = []) : p.sent = p.held := by
  rw [sent, unread, List.nil_append]

/-- What is at hand when nothing has been taken is the front of the stream. -/
theorem Brings.held_isPrefix (brings : p.Brings stream) (unread : p.taken = []) :
    p.held <+: stream := by
  rw [← sent_of_unread unread]
  exact brings.part

/-! ## What a socket answers -/

/-- Exactly `count` bytes are taken. When the stream ends before that, what there is of them is lost. -/
inductive Fetches (p : Pipe) (count : Nat) : Except IoError Bytes → Pipe → Prop
  | whole (there : count ≤ p.held.length) :
      Fetches p count (.ok (p.held.take count)) (p.advance count)
  | short (lost : Nat) {error : IoError} (ended : p.ended = true) (short : p.held.length < count)
      (eof : error.kind = .unexpectedEof) : Fetches p count (.error error) (p.advance lost)

/-- A socket that is not waited for always has an answer. -/
theorem exists_showsAll (p : Pipe) {room : Nat} (some : 0 < room) :
    ∃ answer, p.Shows (p.ended = true) room answer ∧ p.ShowsAll room answer := by
  by_cases none : p.held = [] ∧ p.ended = false
  · exact ⟨.error (.bare .wouldBlock), rfl, none⟩
  · refine ⟨.ok (p.held.take room), ⟨List.take_prefix .., List.length_take_le .., ?_⟩, rfl⟩
    intro empty
    obtain nothing | nothing := List.take_eq_nil_iff.1 empty
    · omega
    · exact ⟨nothing, by simpa [nothing] using none⟩

/-- Bytes that are there are taken, and the end is told. -/
theorem exists_fetches (p : Pipe) (count : Nat) (there : count ≤ p.held.length ∨ p.ended = true) :
    ∃ answer p', p.Fetches count answer p' := by
  by_cases whole : count ≤ p.held.length
  · exact ⟨_, _, .whole whole⟩
  · have eof : (IoError.bare .unexpectedEof).kind = .unexpectedEof := rfl
    exact ⟨_, _, .short 0 (there.resolve_left whole) (Nat.lt_of_not_le whole) eof⟩

end Pipe

/-- What a connection answers to a socket call, and what is left of it then. A prompt one shows all that is
at hand and takes all it is given; another holds back what it likes. -/
def Operation.Meets (prompt : Prop) (p : Pipe) : (op : Operation) → op.Answer → Pipe → Prop
  | .peekingHeader _, answer, p' =>
    p.Shows (p.ended = true) headerLength answer ∧ (prompt → p.ShowsAll headerLength answer) ∧ p' = p
  | .peekingMessage _ length, answer, p' =>
    p.Shows (p.ended = true) length answer ∧ (prompt → p.ShowsAll length answer) ∧ p' = p
  | .takingMessage _ length, answer, p' => p.Fetches length answer p'
  | .takingHeader _, answer, p' => p.Fetches headerLength answer p'
  | .takingRest _ _ length, answer, p' => p.Fetches (length - headerLength) answer p'
  | .flushing _ mode pending, .ok count, p' =>
    count ≤ pending.length ∧ (mode = .blocking ∨ prompt → count = pending.length) ∧ p' = p
  | .flushing _ mode _, .error error, p' =>
    mode = .polling ∧ ¬ prompt ∧ error.kind = .wouldBlock ∧ p' = p
  | .sendingRequest .., _, p' | .armingReset .., _, p' => p' = p

/-- A call that waits for bytes. -/
def Operation.blocks : Operation → Bool
  | takingHeader _ | takingRest .. => true
  | _ => false

/-- No call puts anything into what is read. -/
theorem Operation.Meets.brings {stream : Bytes} {prompt : Prop} {p p' : Pipe} {op : Operation}
    {answer : op.Answer} (meets : op.Meets prompt p answer p') (brings : p.Brings stream) :
    p'.Brings stream := by
  have fetched {count : Nat} {answer : Except IoError Bytes} (fetches : p.Fetches count answer p') :
      p'.Brings stream := by
    cases fetches with
    | whole there => exact brings.advance count
    | short lost ended short eof => exact brings.advance lost
  cases op with
  | peekingHeader h => exact meets.2.2 ▸ brings
  | peekingMessage h length => exact meets.2.2 ▸ brings
  | takingMessage h length => exact fetched meets
  | takingHeader h => exact fetched meets
  | takingRest h header length => exact fetched meets
  | flushing h mode pending =>
    cases answer with
    | ok count => exact meets.2.2 ▸ brings
    | error error => exact meets.2.2.2 ▸ brings
  | sendingRequest h request =>
    obtain rfl : p' = p := meets
    exact brings
  | armingReset h error =>
    obtain rfl : p' = p := meets
    exact brings

namespace Reading

/-- An engine and a connection while one of the engine's operations is carried on. -/
structure State where
  engine : Engine
  progress : Progress
  pipe : Pipe
  /-- The socket calls that have been made. -/
  calls : List SocketCall := []

def State.of (result : Engine × Progress) (pipe : Pipe) (calls : List SocketCall := []) : State :=
  ⟨result.1, result.2, pipe, calls⟩

section

variable (stream : Bytes) (prompt : Prop) (h : Handle)

/-- A socket call is answered. Before that more of the stream has come, and other handles have been
worked on. -/
inductive Step : State → State → Prop
  | call {e e' : Engine} {op : Operation} {p p' p'' : Pipe} {calls : List SocketCall}
      {answer : op.Answer} (elsewhere : e'.table.lookup h = e.table.lookup h)
      (arrives : p.Arrives stream p') (meets : op.Meets prompt p' answer p'') :
      Step ⟨e, .waiting op, p, calls⟩
        (.of (e'.resume op answer) p'' (calls ++ [op.call e.config]))

/-- An operation is carried on until it is done. -/
inductive Ends : State → State → Prop
  | finished {x : State} {result : OperationResult} (isDone : x.progress = .done result) : Ends x x
  | step {x y z : State} (step : Step stream prompt h x y) (rest : Ends y z) : Ends x z

/-- However the connection answers, the operation is done in the end, and then `Q` holds. Every socket call
is answered at any time, but for those that wait for bytes: these are answered when all have come, if not
before. -/
inductive Surely (Q : State → Prop) : State → Prop
  | finished {x : State} {result : OperationResult} (isDone : x.progress = .done result) (holds : Q x) :
      Surely Q x
  | step {e : Engine} {op : Operation} {p : Pipe} {calls : List SocketCall}
      (answered : ∀ p', p.Arrives stream p' → (op.blocks = true → p'.sent = stream) →
        ∃ answer p'', op.Meets prompt p' answer p'')
      (rest : ∀ y, Step stream prompt h ⟨e, .waiting op, p, calls⟩ y → Surely Q y) :
      Surely Q ⟨e, .waiting op, p, calls⟩

end

variable {stream : Bytes} {prompt : Prop} {h : Handle} {Q R : State → Prop} {x y : State}

namespace Surely

theorem mono (surely : Surely stream prompt h Q x) (weaker : ∀ y, Q y → R y) :
    Surely stream prompt h R x := by
  induction surely with
  | finished isDone holds => exact .finished isDone (weaker _ holds)
  | step answered _ ih => exact .step answered ih

/-- What surely holds in the end holds of every end. -/
theorem of_ends (surely : Surely stream prompt h Q x) (ends : Ends stream prompt h x y) : Q y := by
  induction surely with
  | finished isDone holds =>
    cases ends with
    | finished _ => exact holds
    | step step rest =>
      cases step
      cases isDone
  | step answered _ ih =>
    cases ends with
    | finished isDone => cases isDone
    | step step rest => exact ih _ step rest

/-- A socket call is answered, and then it goes on. -/
theorem call {e : Engine} {op : Operation} {p : Pipe} {calls : List SocketCall}
    (answered : ∀ p', p.Arrives stream p' → (op.blocks = true → p'.sent = stream) →
      ∃ answer p'', op.Meets prompt p' answer p'')
    (rest : ∀ (e' : Engine) p' (answer : op.Answer) p'', e'.table.lookup h = e.table.lookup h →
      p.Arrives stream p' → op.Meets prompt p' answer p'' →
      Surely stream prompt h Q (.of (e'.resume op answer) p'' (calls ++ [op.call e.config]))) :
    Surely stream prompt h Q ⟨e, .waiting op, p, calls⟩ := by
  refine .step answered ?_
  rintro _ ⟨elsewhere, arrives, meets⟩
  exact rest _ _ _ _ elsewhere arrives meets

/-- There is a way to the end: the one on which all that is still to come comes at once. -/
theorem exists_ends (surely : Surely stream prompt h Q x) (brings : x.pipe.Brings stream) :
    ∃ y, Ends stream prompt h x y := by
  induction surely with
  | finished isDone holds => exact ⟨_, .finished isDone⟩
  | @step e op p calls answered _ ih =>
    obtain ⟨rest, all⟩ := brings.part
    have arrives : p.Arrives stream (p.put rest) := by
      refine ⟨rfl, List.prefix_append .., id, ?_, fun _ => ?_⟩
      · rw [Pipe.sent_put, all]
      · rw [Pipe.sent_put, all]
    obtain ⟨answer, p', meets⟩ := answered _ arrives fun _ => by rw [Pipe.sent_put, all]
    have step : Step stream prompt h ⟨e, .waiting op, p, calls⟩ _ := .call rfl arrives meets
    obtain ⟨y, ends⟩ := ih _ step (meets.brings arrives.brings)
    exact ⟨y, .step step ends⟩

end Surely

/-! ## Looks that find nothing -/

/-- Polls one after the other, each of which ends with nothing found. Between them more of the stream comes
and other handles are worked on. -/
inductive Polls (stream : Bytes) (h : Handle) (e : Engine) (p : Pipe) : Engine → Pipe → Prop
  | start : Polls stream h e p e p
  | again {e' e'' : Engine} {p' p'' : Pipe} {prompt : Prop} {call : Call} {x : State}
      (polls : Polls stream h e p e' p') (elsewhere : e''.table.lookup h = e'.table.lookup h)
      (arrives : p'.Arrives stream p'') (looks : call = .readable ∨ call = .send)
      (ends : Ends stream prompt h (.of (e''.start h call) p'') x)
      (pending : x.progress = .done (.read (.ok .pending))) : Polls stream h e p x.engine x.pipe

end Reading

end TransportConverter
