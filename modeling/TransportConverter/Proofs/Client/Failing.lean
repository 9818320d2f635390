import TransportConverter.Proofs.Client.Transition
/-!
# How a redirect fails

Which answers of a socket end a redirect, and with which error, is listed here without the engine
(`Operation.Fails`): the rest of the request cannot be sent, the converter's answer cannot be had,
or it reports a failure. The engine agrees (`resume_of_fails`, `fails_of_arms`).

`Life` is one operation from the call to its result, while others change the engine as they like
between its socket calls, and the main result is `Life.course`: **an operation that fails makes its
socket reset on closing exactly once and then returns the error it failed with; one that does not
fail does neither**.
-/
namespace TransportConverter

namespace Operation

/-- Bytes that are no message, or a message that reports a failure. -/
inductive Refuses (bytes : Bytes) : RedirectError → Prop
  | unreadable {error : DecodeError} (read : Message.decode bytes = .error error) :
      Refuses bytes (.decode error)
  | rejected {reply : Message} {used : Nat} {code : ErrorCode}
      (read : Message.decode bytes = .ok (reply, used)) (reports : reply.error = some code) :
      Refuses bytes (.rejected code)

/-- With this answer the redirect has failed, and why. -/
def Fails : (op : Operation) → op.Answer → RedirectError → Prop
  -- a blocking socket that has not taken all of the request has run into its time limit
  | flushing _ mode pending, .ok count, error =>
    mode = .blocking ∧ count < pending.length ∧ error = .io (.bare .timedOut)
  | flushing _ mode pending, .error e, error =>
    if e.kind = .wouldBlock then mode = .blocking ∧ pending ≠ [] ∧ error = .io (.bare .timedOut)
    else error = .io e
  | peekingHeader _, .ok bytes, error =>
    bytes = [] ∧ error = .converterClosed ∨
      headerLength ≤ bytes.length ∧ ∃ e, Header.decode bytes = .error e ∧ error = .decode e
  | peekingMessage _ _, .ok _, _ => False
  | peekingHeader _, .error e, error | peekingMessage _ _, .error e, error =>
    e.kind ≠ .wouldBlock ∧ error = .io e
  | takingMessage _ _, .ok bytes, error => Refuses bytes error
  | takingMessage _ _, .error e, error => error = .io e
  | takingHeader _, .ok bytes, error => ∃ e, Header.decode bytes = .error e ∧ error = .decode e
  | takingRest _ header _, .ok rest, error => Refuses (header ++ rest) error
  -- no more bytes come where a message was due
  | takingHeader _, .error e, error | takingRest _ _ _, .error e, error =>
    error = if e.kind = .unexpectedEof then .converterClosed else .io e
  | sendingRequest _ _, _, _ | armingReset _ _, _, _ => False

/-- The call that makes closing a socket reset its connection. -/
def arms : Operation → Bool
  | armingReset .. => true
  | _ => false

theorem arms_iff (op : Operation) (config : ClientConfig) :
    op.arms = true ↔ op.call config = .setAbortiveClose := by
  cases op <;> simp [arms, call]

theorem not_arms_of_reads {op : Operation} (reads : op.reads = true) : op.arms = false := by
  cases op with
  | armingReset h error => cases reads
  | _ => rfl

end Operation

namespace Engine

variable {e : Engine} {h k : Handle} {error : RedirectError} {op : Operation} {answer : op.Answer}

/-! ## The engine fails where it should -/

/-- A socket that has not taken all ends the look, unless the table holds less than it took. -/
theorem flushed_of_short {mode : WaitMode} {pending : Bytes} {sent : Nat}
    (goes : (e.flushed h mode pending sent).2 ≠ .overrun) (short : sent ≠ pending.length) :
    e.flushed h mode pending sent = (e.update h (·.sent sent)).settle h (match mode with
      | .polling => .ok none
      | .blocking => .error (.io (.bare .timedOut))) := by
  by_cases fits : (e.table.lookup h).any fun state => decide (state.pending.length < sent)
  · rw [flushed, if_pos fits] at goes
    exact absurd rfl goes
  · rw [flushed_of_fits fits, if_neg short]
    cases mode <;> rfl

theorem flushAnswered_of_fails {mode : WaitMode} {pending : Bytes} {answer : Except IoError Nat}
    (fails : (Operation.flushing h mode pending).Fails answer error)
    (goes : (e.flushAnswered h mode pending answer).2 ≠ .overrun) :
    ∃ sent, e.flushAnswered h mode pending answer = (e.update h (·.sent sent)).fail h error := by
  cases answer with
  | ok count =>
    obtain ⟨rfl, short, rfl⟩ := fails
    exact ⟨_, flushed_of_short goes (by omega)⟩
  | error problem =>
    unfold flushAnswered at goes ⊢
    unfold Operation.Fails at fails
    by_cases wouldBlock : problem.kind = .wouldBlock
    · simp only [wouldBlock, if_true] at fails goes ⊢
      obtain ⟨rfl, left, rfl⟩ := fails
      have short : pending.length ≠ 0 := by simpa using left
      exact ⟨_, flushed_of_short goes short.symm⟩
    · simp only [wouldBlock, if_false] at fails ⊢
      subst fails
      exact ⟨0, by rw [update_sent_zero]; rfl⟩

theorem headerPeeked_of_fails {answer : Except IoError Bytes}
    (fails : (Operation.peekingHeader h).Fails answer error) :
    e.headerPeeked h answer = e.fail h error := by
  cases answer with
  | ok bytes =>
    rcases fails with ⟨rfl, rfl⟩ | ⟨long, e', read, rfl⟩
    · rfl
    · have some : bytes.isEmpty = false := by
        cases bytes with
        | nil => simp [headerLength] at long
        | cons => rfl
      simp only [headerPeeked, some, Nat.not_lt.2 long, read, Bool.false_eq_true, if_false]
      rfl
  | error problem =>
    obtain ⟨hard, rfl⟩ := fails
    rw [headerPeeked, if_neg hard]
    rfl

theorem messagePeeked_of_fails {length : Nat} {answer : Except IoError Bytes}
    (fails : (Operation.peekingMessage h length).Fails answer error) :
    e.messagePeeked h length answer = e.fail h error := by
  cases answer with
  | ok bytes => exact absurd fails id
  | error problem =>
    obtain ⟨hard, rfl⟩ := fails
    rw [messagePeeked, if_neg hard]
    rfl

theorem headerTaken_of_fails {answer : Except IoError Bytes}
    (fails : (Operation.takingHeader h).Fails answer error) :
    e.headerTaken h answer = e.fail h error := by
  cases answer with
  | ok bytes =>
    obtain ⟨e', read, rfl⟩ := fails
    simp only [headerTaken, read]
    rfl
  | error problem =>
    cases fails
    rfl

theorem received_of_refuses {bytes : Bytes} (refuses : Operation.Refuses bytes error) :
    e.received h bytes = e.fail h error := by
  unfold received
  cases refuses with
  | unreadable read => simp [read, settle]
  | rejected read reports => simp [read, settle, reports]

/-- **A failure sets the entry to failed** and turns to the socket. -/
theorem resume_of_fails (fails : op.Fails answer error)
    (goes : (e.resume op answer).2 ≠ .overrun) :
    ∃ sent, e.resume op answer = (e.update op.handle (·.sent sent)).fail op.handle error := by
  have at_once (ended : e.resume op answer = e.fail op.handle error) :
      ∃ sent, e.resume op answer = (e.update op.handle (·.sent sent)).fail op.handle error :=
    ⟨0, by rw [update_sent_zero, ended]⟩
  cases op with
  | sendingRequest h request => exact absurd fails id
  | armingReset h reason => exact absurd fails id
  | flushing h mode pending => exact flushAnswered_of_fails fails goes
  | peekingHeader h => exact at_once (headerPeeked_of_fails fails)
  | peekingMessage h length => exact at_once (messagePeeked_of_fails fails)
  | takingHeader h => exact at_once (headerTaken_of_fails fails)
  | takingMessage h length =>
    cases answer with
    | ok bytes => exact at_once (received_of_refuses fails)
    | error problem => exact at_once (by rw [show error = .io problem from fails]; rfl)
  | takingRest h header length =>
    cases answer with
    | ok rest => exact at_once (received_of_refuses fails)
    | error problem => exact at_once (by rw [show error = closedOnEof problem from fails]; rfl)

/-! ## And nowhere else -/

/-- How a look that turns to the socket to have it reset was ended. -/
theorem settle_arms {outcome : Except RedirectError (Option Message)}
    (arms : (e.settle h outcome).2 = .waiting (.armingReset k error)) :
    h = k ∧ (outcome = .error error ∨ ∃ reply code, outcome = .ok (some reply) ∧
      reply.error = some code ∧ error = .rejected code) := by
  unfold settle at arms
  split at arms
  · cases arms
  · rename_i reply
    split at arms
    · rename_i code reports
      cases arms
      exact ⟨rfl, .inr ⟨reply, code, rfl, reports, rfl⟩⟩
    · cases arms
  · cases arms
    exact ⟨rfl, .inl rfl⟩

theorem refuses_of_received {bytes : Bytes}
    (arms : (e.received h bytes).2 = .waiting (.armingReset k error)) :
    h = k ∧ Operation.Refuses bytes error := by
  unfold received at arms
  split at arms
  · rename_i reply used read
    obtain ⟨same, ended | ⟨reply', code, answered, reports, rfl⟩⟩ := settle_arms arms
    · cases ended
    · cases answered
      exact ⟨same, .rejected read reports⟩
  · rename_i error' read
    obtain ⟨same, ended | ⟨reply', code, answered, -⟩⟩ := settle_arms arms
    · cases ended
      exact ⟨same, .unreadable read⟩
    · cases answered

theorem eq_of_settle_error {error' : RedirectError}
    (arms : (e.settle h (.error error')).2 = .waiting (.armingReset k error)) :
    h = k ∧ error = error' := by
  cases arms
  exact ⟨rfl, rfl⟩

theorem fails_of_flushed {mode : WaitMode} {pending : Bytes} {sent : Nat}
    (arms : (e.flushed h mode pending sent).2 = .waiting (.armingReset k error)) :
    h = k ∧ mode = .blocking ∧ sent ≠ pending.length ∧ error = .io (.bare .timedOut) := by
  by_cases whole : sent = pending.length
  · unfold flushed at arms
    simp only [whole, if_true] at arms
    split at arms
    · cases arms
    · cases mode <;> cases arms
  · have goes : (e.flushed h mode pending sent).2 ≠ .overrun := by
      rw [arms]
      exact nofun
    rw [flushed_of_short goes whole] at arms
    cases mode with
    | polling => cases arms
    | blocking =>
      obtain ⟨same, rfl⟩ := eq_of_settle_error arms
      exact ⟨same, rfl, whole, rfl⟩

theorem fails_of_flushAnswered {mode : WaitMode} {pending : Bytes} {answer : Except IoError Nat}
    (arms : (e.flushAnswered h mode pending answer).2 = .waiting (.armingReset k error)) :
    h = k ∧ (Operation.flushing h mode pending).Fails answer error := by
  cases answer with
  | ok count =>
    obtain ⟨same, blocking, short, rfl⟩ := fails_of_flushed arms
    exact ⟨same, blocking, by omega, rfl⟩
  | error problem =>
    unfold flushAnswered at arms
    unfold Operation.Fails
    by_cases wouldBlock : problem.kind = .wouldBlock
    · simp only [wouldBlock, if_true] at arms ⊢
      obtain ⟨same, blocking, short, rfl⟩ := fails_of_flushed arms
      refine ⟨same, blocking, ?_, rfl⟩
      rintro rfl
      exact short rfl
    · simp only [wouldBlock, if_false] at arms ⊢
      exact eq_of_settle_error arms

theorem fails_of_headerPeeked {answer : Except IoError Bytes}
    (arms : (e.headerPeeked h answer).2 = .waiting (.armingReset k error)) :
    h = k ∧ (Operation.peekingHeader h).Fails answer error := by
  unfold headerPeeked at arms
  split at arms
  · rename_i bytes
    by_cases none : bytes.isEmpty = true
    · rw [if_pos none] at arms
      obtain ⟨same, rfl⟩ := eq_of_settle_error arms
      exact ⟨same, .inl ⟨List.isEmpty_iff.1 none, rfl⟩⟩
    rw [if_neg none] at arms
    by_cases short : bytes.length < headerLength
    · rw [if_pos short] at arms
      cases arms
    rw [if_neg short] at arms
    split at arms
    · cases arms
    · rename_i problem read
      obtain ⟨same, rfl⟩ := eq_of_settle_error arms
      exact ⟨same, .inr ⟨Nat.le_of_not_lt short, problem, read, rfl⟩⟩
  · rename_i problem
    by_cases wouldBlock : problem.kind = .wouldBlock
    · rw [if_pos wouldBlock] at arms
      cases arms
    · rw [if_neg wouldBlock] at arms
      obtain ⟨same, rfl⟩ := eq_of_settle_error arms
      exact ⟨same, wouldBlock, rfl⟩

theorem fails_of_messagePeeked {length : Nat} {answer : Except IoError Bytes}
    (arms : (e.messagePeeked h length answer).2 = .waiting (.armingReset k error)) :
    h = k ∧ (Operation.peekingMessage h length).Fails answer error := by
  unfold messagePeeked at arms
  split at arms
  · split at arms <;> cases arms
  · rename_i problem
    by_cases wouldBlock : problem.kind = .wouldBlock
    · rw [if_pos wouldBlock] at arms
      cases arms
    · rw [if_neg wouldBlock] at arms
      obtain ⟨same, rfl⟩ := eq_of_settle_error arms
      exact ⟨same, wouldBlock, rfl⟩

theorem fails_of_headerTaken {answer : Except IoError Bytes}
    (arms : (e.headerTaken h answer).2 = .waiting (.armingReset k error)) :
    h = k ∧ (Operation.takingHeader h).Fails answer error := by
  unfold headerTaken at arms
  split at arms
  · split at arms
    · cases arms
    · rename_i problem read
      obtain ⟨same, rfl⟩ := eq_of_settle_error arms
      exact ⟨same, problem, read, rfl⟩
  · exact eq_of_settle_error arms

/-- **The engine fails only where it should.** -/
theorem fails_of_arms (arms : (e.resume op answer).2 = .waiting (.armingReset k error)) :
    op.handle = k ∧ op.Fails answer error := by
  cases op with
  | sendingRequest h request =>
    change (e.requestAnswered h request answer).2 = _ at arms
    rcases requestAnswered_cases e h request answer with ⟨rest, outcome, -, eq⟩ | eq
    · rw [eq] at arms
      cases arms
    · rw [eq] at arms
      cases arms
  | armingReset h reason => cases arms
  | flushing h mode pending => exact fails_of_flushAnswered arms
  | peekingHeader h => exact fails_of_headerPeeked arms
  | peekingMessage h length => exact fails_of_messagePeeked arms
  | takingHeader h => exact fails_of_headerTaken arms
  | takingMessage h length =>
    cases answer with
    | ok bytes => exact refuses_of_received arms
    | error problem => exact eq_of_settle_error arms
  | takingRest h header length =>
    cases answer with
    | ok rest => exact refuses_of_received arms
    | error problem => exact eq_of_settle_error arms

end Engine

/-! ## One operation from its call on -/

/-- The caller is told of an error. -/
def OperationResult.fails : OperationResult → Bool
  | connect (.error _) | read (.error _) => true
  | connect (.ok _) | read (.ok _) => false

namespace Engine

variable {e : Engine} {h : Handle} {call : Call} {op : Operation} {p : Progress}
  {calls : List ((op : Operation) × op.Answer)}

/-- An operation on `h` by the socket calls that were answered to it and what came of them. What
others do is not in it: each time it goes on in whatever engine it finds. -/
inductive Life (h : Handle) (call : Call) : List ((op : Operation) × op.Answer) → Progress → Prop
  | called (e : Engine) : Life h call [] (e.start h call).2
  | answered {calls : List ((op : Operation) × op.Answer)} {op : Operation} (e : Engine)
      (life : Life h call calls (.waiting op)) (answer : op.Answer)
      (goes : (e.resume op answer).2 ≠ .overrun) :
      Life h call (calls ++ [⟨op, answer⟩]) (e.resume op answer).2

/-- Nothing has failed so far, and the socket was not touched for it. -/
structure Calm (h : Handle) (call : Call) (calls : List ((op : Operation) × op.Answer))
    (p : Progress) : Prop where
  before : ∀ x ∈ calls, x.1.arms = false ∧ ∀ error, ¬ x.1.Fails x.2 error
  next : ∀ op, p = .waiting op → op.handle = h ∧ op.arms = false ∧
    (call.destination? = none ∨ ∃ request, op = .sendingRequest h request)
  told : calls ≠ [] → ∀ r, p = .done r → r.fails = false

/-- All courses that an operation can take. -/
inductive Course (h : Handle) (call : Call) :
    List ((op : Operation) × op.Answer) → Progress → Prop
  | calm {calls : List ((op : Operation) × op.Answer)} {p : Progress} (calm : Calm h call calls p) :
      Course h call calls p
  /-- It has failed just now. -/
  | failing {calls : List ((op : Operation) × op.Answer)} {op : Operation} {answer : op.Answer}
      {error : RedirectError} (calm : Calm h call calls (.waiting op))
      (fails : op.Fails answer error) (looks : call.destination? = none) :
      Course h call (calls ++ [⟨op, answer⟩]) (.waiting (.armingReset h error))
  /-- It has failed, and the socket was made to reset, whether that worked or not. -/
  | failed {calls : List ((op : Operation) × op.Answer)} {op : Operation} {answer : op.Answer}
      {error : RedirectError} (calm : Calm h call calls (.waiting op))
      (fails : op.Fails answer error) (looks : call.destination? = none)
      (reset : Except IoError Unit) :
      Course h call (calls ++ [⟨op, answer⟩] ++ [⟨.armingReset h error, reset⟩])
        (.done (.read (.error error)))

theorem Settled.not_fails {result : Engine × Progress} (settled : Settled e h result)
    {r : OperationResult} (ends : result.2 = .done r) : r.fails = false := by
  cases settled with
  | notYet => cases ends; rfl
  | failed error => cases ends
  | resolved => cases ends; rfl

theorem Looked.not_fails {result : Engine × Progress} (looked : Looked e h result)
    {r : OperationResult} (ends : result.2 = .done r) : r.fails = false := by
  cases looked with
  | further op same reads => cases ends
  | ended settled => exact settled.not_fails ends

/-- Only an operation that has turned to the socket to have it reset ends with an error. -/
theorem not_fails_of_resume {answer : op.Answer} {r : OperationResult}
    (ends : (e.resume op answer).2 = .done r) (fresh : op.arms = false) : r.fails = false := by
  by_cases reads : op.reads = true
  · exact (looked_resume e reads answer).not_fails ends
  cases op with
  | sendingRequest h request =>
    change (e.requestAnswered h request answer).2 = _ at ends
    rcases requestAnswered_cases e h request answer with ⟨rest, outcome, -, eq⟩ | eq
    · rw [eq] at ends
      cases ends
      rfl
    · rw [eq] at ends
      cases ends
      rfl
  | flushing h mode pending =>
    obtain ⟨sent, -, -, flushed⟩ := flushed_flushAnswered e h mode pending answer
    change (e.flushAnswered h mode pending answer).2 = _ at ends
    generalize e.flushAnswered h mode pending answer = result at flushed ends
    cases flushed with
    | overrun found short => cases ends
    | out whole looked => exact looked.not_fails ends
    | short settled => exact settled.not_fails ends
  | armingReset h error => cases fresh
  | _ => exact absurd rfl reads

/-- A connect sends the request and does nothing else. -/
theorem start_connect_waits {destination : SocketAddress}
    (waits : (e.start h (.connect destination)).2 = .waiting op) :
    ∃ request, op = .sendingRequest h request := by
  change (e.tryConnect h destination).2 = _ at waits
  unfold tryConnect at waits
  split at waits
  · cases waits
  split at waits
  · cases waits
  split at waits
  · cases waits
    exact ⟨_, rfl⟩
  · cases waits

theorem calm_start (e : Engine) (h : Handle) (call : Call) : Calm h call [] (e.start h call).2 := by
  refine ⟨fun x mem => absurd mem List.not_mem_nil,
    fun op waits => ⟨(started_start e h call).confined.handle op waits, ?_, ?_⟩,
    fun some => absurd rfl some⟩
  · have started := started_start e h call
    generalize e.start h call = result at started waits
    cases started with
    | idle calm late => cases waits
    | connects asks found fresh written =>
      cases waits
      rfl
    | givesUp => cases waits
    | drives found awaits free same next =>
      cases waits
      rcases next with ⟨-, reads⟩ | ⟨-, mode, rfl⟩
      · exact Operation.not_arms_of_reads reads
      · rfl
  · cases call with
    | connect destination => exact .inr (start_connect_waits waits)
    | readable | send | await => exact .inl rfl

/-- **An operation fails once or not at all.** If it fails it makes its socket reset on closing,
once and last of all, and returns the error that it failed with; a connect does not fail. If not, it
never touches the socket for that, and it returns no error after it has used the socket. -/
theorem Life.course (life : Life h call calls p) : Course h call calls p := by
  induction life with
  | called e => exact .calm (calm_start e h call)
  | @answered calls op e life answer goes ih =>
    generalize waits : Progress.waiting op = q at ih
    cases ih with
    | calm calm =>
      subst waits
      obtain ⟨same, fresh, kind⟩ := calm.next op rfl
      by_cases fails : ∃ error, op.Fails answer error
      · obtain ⟨error, fails⟩ := fails
        obtain ⟨sent, eq⟩ := resume_of_fails fails goes
        have looks : call.destination? = none := by
          rcases kind with looks | ⟨request, rfl⟩
          · exact looks
          · exact absurd fails id
        rw [eq, same]
        exact .failing calm fails looks
      · refine .calm ⟨?_, ?_, ?_⟩
        · intro x mem
          rcases List.mem_append.1 mem with old | new
          · exact calm.before x old
          · rw [List.mem_singleton.1 new]
            exact ⟨fresh, fun error failed => fails ⟨error, failed⟩⟩
        · intro op' next
          have same' := (confined_resume e op answer).handle op' next
          refine ⟨same'.trans same, ?_, ?_⟩
          · cases op' with
            | armingReset k error => exact absurd ⟨error, (fails_of_arms next).2⟩ fails
            | _ => rfl
          · rcases kind with looks | ⟨request, rfl⟩
            · exact .inl looks
            · change (e.requestAnswered h request answer).2 = _ at next
              rcases requestAnswered_cases e h request answer with ⟨rest, outcome, -, eq⟩ | eq
              · rw [eq] at next
                cases next
              · rw [eq] at next
                cases next
        · exact fun _ r ends => not_fails_of_resume ends fresh
    | failing calm fails looks =>
      cases waits
      exact .failed calm fails looks answer
    | failed calm fails looks reset => cases waits

/-- Of an operation that has needed its socket and has ended: how often it made the socket reset. -/
theorem Course.count_resets {r : OperationResult} (course : Course h call calls (.done r))
    (asked : calls ≠ []) :
    (calls.countP fun x => x.1.arms) = if r.fails then 1 else 0 := by
  have none {calls : List ((op : Operation) × op.Answer)} {p : Progress}
      (calm : Calm h call calls p) : (calls.countP fun x => x.1.arms) = 0 :=
    List.countP_eq_zero.2 fun x mem => by simp [(calm.before x mem).1]
  generalize ends : Progress.done r = p at course
  cases course with
  | calm calm =>
    have well := calm.told asked r ends.symm
    rw [none calm, well]
    rfl
  | failing calm fails looks => cases ends
  | @failed calls op answer error calm fails looks reset =>
    cases ends
    have fresh := (calm.next op rfl).2.1
    rw [List.countP_append, List.countP_append, none calm, List.countP_singleton,
      List.countP_singleton, fresh]
    rfl

end Engine

end TransportConverter
