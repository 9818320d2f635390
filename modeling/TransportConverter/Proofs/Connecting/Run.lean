import TransportConverter.Client.Connect
import TransportConverter.Proofs.Reading.Run
/-!
# A blocking connect, from beginning to end

A connect through the converter, carried on until it returns. The system answers each call as it likes; a
call that takes bytes from the connection gets the next ones that have come, or fails and may lose some of
them. What the converter sends comes at any time and in any pieces. `Returns` says of a connect that it
comes to an end whatever it is answered, and what holds then.
-/
namespace TransportConverter

/-- What is left of the connection when the system has answered. Only the calls that wait for bytes take
any; every other call may be answered with anything. -/
def Connection.Meets (p : Pipe) : (c : Connection) → c.Answer → Pipe → Prop
  | redirecting _ _ (.takingHeader _), answer, p' => p.Takes headerLength answer p'
  | redirecting _ _ (.takingMessage _ length), answer, p' => p.Takes length answer p'
  | redirecting _ _ (.takingRest _ _ length), answer, p' => p.Takes (length - headerLength) answer p'
  | _, _, p' => p' = p

namespace Connecting

/-- An engine and the connection to the converter while a blocking connect is carried on. -/
structure State where
  engine : Engine
  progress : ConnectionProgress
  pipe : Pipe
  /-- The calls to the system that have been made, each with its answer. -/
  log : List (Σ c : Connection, c.Answer) := []

def State.of (result : Engine × ConnectionProgress) (pipe : Pipe)
    (log : List (Σ c : Connection, c.Answer)) : State :=
  ⟨result.1, result.2, pipe, log⟩

/-- The connect begins, and nothing has come from a converter. -/
def State.start (e : Engine) (destination : SocketAddress) : State :=
  ⟨e, Connection.start e destination, {}, []⟩

section

variable (stream : Bytes)

/-- The system answers a call. Before that more of what the converter sends has come. -/
inductive Step : State → State → Prop
  | call {e : Engine} {c : Connection} {p p' p'' : Pipe} {log : List (Σ c : Connection, c.Answer)}
      {answer : c.Answer} (arrives : p.Arrives stream p') (meets : c.Meets p' answer p'') :
      Step ⟨e, .waiting c, p, log⟩ (.of (Connection.resume e c answer) p'' (log ++ [⟨c, answer⟩]))

/-- A connect is carried on until it returns. -/
inductive Ends : State → Except RedirectError Connected → State → Prop
  | finished {x : State} {result : Except RedirectError Connected} (isDone : x.progress = .done result) :
      Ends x result x
  | step {x y z : State} {result : Except RedirectError Connected} (step : Step stream x y)
      (rest : Ends y result z) : Ends x result z

/-- Whatever the system answers, the connect returns in the end, and then `Q` holds. -/
inductive Returns (Q : Except RedirectError Connected → State → Prop) : State → Prop
  | finished {x : State} {result : Except RedirectError Connected} (isDone : x.progress = .done result)
      (holds : Q result x) : Returns Q x
  | step {x : State} (answered : ∃ y, Step stream x y) (rest : ∀ y, Step stream x y → Returns Q y) :
      Returns Q x

end

variable {stream : Bytes} {Q : Except RedirectError Connected → State → Prop}

namespace Returns

/-- What holds in the end holds of every end. -/
theorem of_ends {x y : State} {result : Except RedirectError Connected} (returns : Returns stream Q x)
    (ends : Ends stream x result y) : Q result y := by
  induction returns with
  | finished isDone holds =>
    cases ends with
    | finished isDone' =>
      cases isDone.symm.trans isDone'
      exact holds
    | step step rest =>
      cases step
      cases isDone
  | step answered _ ih =>
    cases ends with
    | finished isDone =>
      obtain ⟨y, step⟩ := answered
      cases step
      cases isDone
    | step step rest => exact ih _ step rest

/-- No call is left without an answer: each of them can fail. -/
theorem exists_meets (p : Pipe) (c : Connection) : ∃ answer p', c.Meets p answer p' := by
  have fails (count : Nat) : ∃ answer p', p.Takes count answer p' :=
    ⟨_, _, .fails 0 (.bare .timedOut)⟩
  cases c with
  | redirecting h destination op =>
    cases op <;> first | exact fails _ | exact ⟨.error (.bare .timedOut), p, rfl⟩
  | opening | connecting => exact ⟨.error (.bare .timedOut), p, rfl⟩

/-- A call is answered, and then it goes on. -/
theorem call {e : Engine} {c : Connection} {p : Pipe} {log : List (Σ c : Connection, c.Answer)}
    (brings : p.Brings stream)
    (rest : ∀ p' (answer : c.Answer) p'', p.Arrives stream p' → c.Meets p' answer p'' →
      Returns stream Q (.of (Connection.resume e c answer) p'' (log ++ [⟨c, answer⟩]))) :
    Returns stream Q ⟨e, .waiting c, p, log⟩ := by
  obtain ⟨answer, p', meets⟩ := exists_meets p c
  refine .step ⟨_, .call brings.arrives meets⟩ ?_
  rintro _ ⟨arrives, meets⟩
  exact rest _ _ _ arrives meets

end Returns

end Connecting

end TransportConverter
