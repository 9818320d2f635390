import TransportConverter.Proofs.Client.Run
import TransportConverter.Proofs.Registry.Frame
/-!
# What one operation does to its handle

All that can come of a call is listed once (`Started`), and so is all that can come of the answer to
a socket call: how a look for the converter's answer goes on or ends (`Looked`, `Settled`), and what
becomes of the request once a socket has taken a part of it (`requestAnswered_cases`, `Flushed`).
Whichever it is, the entry of that handle alone is changed and the next socket call is made on that
handle (`Confined`).
-/
namespace TransportConverter

namespace Engine

variable {e e' : Engine} {h : Handle} {s : RedirectState} {result : Engine × Progress}

/-! ## Nothing but the handle's entry -/

/-- What comes of `e` is all on `h`: the changes made, and the socket call that is waited for. -/
structure Confined (h : Handle) (e : Engine) (result : Engine × Progress) : Prop where
  config : result.1.config = e.config
  touched : e.table.Touched h result.1.table
  handle : ∀ op, result.2 = .waiting op → op.handle = h

namespace Confined

theorem done (e : Engine) (h : Handle) (r : OperationResult) : Confined h e (e, .done r) :=
  ⟨rfl, .refl, nofun⟩

theorem overrun (e : Engine) (h : Handle) : Confined h e (e, .overrun) :=
  ⟨rfl, .refl, nofun⟩

theorem waiting (e : Engine) (op : Operation) : Confined op.handle e (e, .waiting op) :=
  ⟨rfl, .refl, by rintro _ ⟨⟩; rfl⟩

theorem update {f : RedirectState → RedirectState} (rest : Confined h (e.update h f) result) :
    Confined h e result :=
  ⟨rest.config, (Registry.Touched.refl.update f).trans rest.touched, rest.handle⟩

theorem remove (rest : Confined h (e.remove h) result) : Confined h e result :=
  ⟨rest.config, Registry.Touched.refl.remove.trans rest.touched, rest.handle⟩

end Confined

/-! ## How a look for the answer ends -/

/-- The claim is given up: for now, for good, or together with the entry. -/
inductive Settled (e : Engine) (h : Handle) : Engine × Progress → Prop
  | notYet : Settled e h (e.update h RedirectState.release, .done (.read (.ok .pending)))
  | failed (error : RedirectError) :
      Settled e h (e.update h RedirectState.fail, .waiting (.armingReset h error))
  | resolved : Settled e h
      ((e.update h RedirectState.resolve).remove h, .done (.read (.ok .resolved)))

theorem settled_settle (e : Engine) (h : Handle) (outcome : Except RedirectError (Option Message)) :
    Settled e h (e.settle h outcome) := by
  unfold settle
  split
  · exact .notYet
  · split
    · exact .failed _
    · exact .resolved
  · exact .failed _

theorem Settled.confined (settled : Settled e h result) : Confined h e result := by
  cases settled with
  | notYet => exact .update (.done _ h _)
  | failed error => exact .update (.waiting _ (.armingReset h error))
  | resolved => exact .update (.remove (.done _ h _))

end Engine

/-- An operation that takes the answer of the converter. -/
def Operation.reads : Operation → Bool
  | peekingHeader _ | peekingMessage .. | takingMessage .. | takingHeader _ | takingRest .. => true
  | sendingRequest .. | flushing .. | armingReset .. => false

namespace Engine

variable {e e' : Engine} {h : Handle} {s : RedirectState} {result : Engine × Progress}

/-- A look for the answer goes on with another look, or ends. -/
inductive Looked (e : Engine) (h : Handle) : Engine × Progress → Prop
  | further (op : Operation) (same : op.handle = h) (reads : op.reads = true) :
      Looked e h (e, .waiting op)
  | ended {result : Engine × Progress} (settled : Settled e h result) : Looked e h result

theorem looked_settle (e : Engine) (h : Handle) (outcome : Except RedirectError (Option Message)) :
    Looked e h (e.settle h outcome) :=
  .ended (settled_settle e h outcome)

theorem looked_readReply (e : Engine) (h : Handle) (mode : WaitMode) :
    Looked e h (e.readReply h mode) := by
  cases mode with
  | polling => exact .further (.peekingHeader h) rfl rfl
  | blocking => exact .further (.takingHeader h) rfl rfl

theorem looked_received (e : Engine) (h : Handle) (message : Bytes) :
    Looked e h (e.received h message) := by
  unfold received
  split <;> exact looked_settle e h _

theorem looked_headerPeeked (e : Engine) (h : Handle) (answer : Except IoError Bytes) :
    Looked e h (e.headerPeeked h answer) := by
  unfold headerPeeked
  split
  · split
    · exact looked_settle e h _
    · split
      · exact looked_settle e h _
      · split
        · exact .further (.peekingMessage h _) rfl rfl
        · exact looked_settle e h _
  · split <;> exact looked_settle e h _

theorem looked_messagePeeked (e : Engine) (h : Handle) (length : Nat)
    (answer : Except IoError Bytes) : Looked e h (e.messagePeeked h length answer) := by
  unfold messagePeeked
  split
  · split
    · exact looked_settle e h _
    · exact .further (.takingMessage h length) rfl rfl
  · split <;> exact looked_settle e h _

theorem looked_headerTaken (e : Engine) (h : Handle) (answer : Except IoError Bytes) :
    Looked e h (e.headerTaken h answer) := by
  unfold headerTaken
  split
  · split
    · exact .further (.takingRest h _ _) rfl rfl
    · exact looked_settle e h _
  · exact looked_settle e h _

theorem looked_resume (e : Engine) {op : Operation} (reads : op.reads = true) (answer : op.Answer) :
    Looked e op.handle (e.resume op answer) := by
  cases op with
  | sendingRequest h request => cases reads
  | flushing h mode pending => cases reads
  | peekingHeader h => exact looked_headerPeeked e h answer
  | peekingMessage h length => exact looked_messagePeeked e h length answer
  | takingMessage h length =>
    cases answer with
    | ok message => exact looked_received e h message
    | error error => exact looked_settle e h (.error (.io error))
  | takingHeader h => exact looked_headerTaken e h answer
  | takingRest h header length =>
    cases answer with
    | ok rest => exact looked_received e h (header ++ rest)
    | error error => exact looked_settle e h (.error (closedOnEof error))
  | armingReset h error => cases reads

theorem Looked.confined (looked : Looked e h result) : Confined h e result := by
  cases looked with
  | further op same reads =>
    subst same
    exact .waiting e op
  | ended settled => exact settled.confined

/-! ## What a socket takes of a request -/

/-- The request is out but for a rest, or could not be sent and the handle is given up. -/
theorem requestAnswered_cases (e : Engine) (h : Handle) (request : Bytes)
    (answer : Except IoError Nat) :
    (∃ rest outcome, (Operation.sendingRequest h request).taken answer ++ rest = request ∧
      e.requestAnswered h request answer =
        (e.update h (·.requested rest), .done (.connect (.ok outcome)))) ∨
    e.requestAnswered h request answer = (e.remove h, .done (.connect (.ok .fallback))) := by
  have out (sent : Nat) : ∃ outcome, requestAnswered.taken e h request sent =
      (e.update h (·.requested (request.drop sent)), .done (.connect (.ok outcome))) := ⟨_, rfl⟩
  cases answer with
  | ok count =>
    obtain ⟨outcome, eq⟩ := out (min count request.length)
    refine .inl ⟨_, outcome, ?_, eq⟩
    rw [Operation.taken, List.take_eq_take_min, List.take_append_drop]
  | error error =>
    by_cases connecting : error.number? = some IoError.connectInProgress
    · obtain ⟨outcome, eq⟩ := out 0
      refine .inl ⟨_, outcome, rfl, ?_⟩
      rw [requestAnswered, if_pos connecting, eq, List.drop_zero]
    · refine .inr ?_
      rw [requestAnswered, if_neg connecting]

theorem confined_requestAnswered (e : Engine) (h : Handle) (request : Bytes)
    (answer : Except IoError Nat) : Confined h e (e.requestAnswered h request answer) := by
  rcases requestAnswered_cases e h request answer with ⟨rest, outcome, -, eq⟩ | eq
  · rw [eq]
    exact .update (.done _ h _)
  · rw [eq]
    exact .remove (.done _ h _)

theorem update_sent_zero (e : Engine) (h : Handle) : e.update h (·.sent 0) = e := by
  obtain ⟨config, ⟨cells⟩⟩ := e
  have same (c : Cell RedirectState) :
      (if c.names h then { c with state := c.state.sent 0 } else c) = c := by
    split <;> rfl
  simp only [update, Registry.update, same, List.map_id']

/-- What comes of a socket having taken `sent` of the `pending` bytes. -/
inductive Flushed (e : Engine) (h : Handle) (pending : Bytes) (sent : Nat) :
    Engine × Progress → Prop
  | overrun {s : RedirectState} (found : e.table.lookup h = some s)
      (short : s.pending.length < sent) : Flushed e h pending sent (e, .overrun)
  | out {result : Engine × Progress} (whole : sent = pending.length)
      (looked : Looked (e.update h (·.sent sent)) h result) : Flushed e h pending sent result
  | short {result : Engine × Progress} (settled : Settled (e.update h (·.sent sent)) h result) :
      Flushed e h pending sent result

/-- A look whose socket took no more than the table holds turns to the answer or stops. -/
theorem flushed_of_fits {mode : WaitMode} {pending : Bytes} {sent : Nat}
    (fits : ¬ ((e.table.lookup h).any fun state => decide (state.pending.length < sent)) = true) :
    e.flushed h mode pending sent =
      if sent = pending.length then (e.update h (·.sent sent)).readReply h mode
      else (e.update h (·.sent sent)).settle h (match mode with
        | .polling => .ok none
        | .blocking => .error (.io (.bare .timedOut))) := by
  have advanced : (if sent = 0 then e else e.update h (·.sent sent)) = e.update h (·.sent sent) := by
    split
    · rename_i none
      rw [none, update_sent_zero]
    · rfl
  rw [flushed, if_neg fits, advanced]
  cases mode <;> rfl

/-- Whoever has sent all that the table holds turns to the answer; whoever has not stops. -/
theorem flushed_eq {sent : Nat} (found : e.table.lookup h = some s) (fits : sent ≤ s.pending.length)
    (mode : WaitMode) : e.flushed h mode s.pending sent =
      if sent = s.pending.length then (e.update h (·.sent sent)).readReply h mode
      else (e.update h (·.sent sent)).settle h (match mode with
        | .polling => .ok none
        | .blocking => .error (.io (.bare .timedOut))) :=
  flushed_of_fits (by simpa [found] using fits)

theorem flushed_flushed (e : Engine) (h : Handle) (mode : WaitMode) (pending : Bytes) (sent : Nat) :
    Flushed e h pending sent (e.flushed h mode pending sent) := by
  by_cases short : (e.table.lookup h).any fun state => decide (state.pending.length < sent)
  · rw [flushed, if_pos short]
    cases found : e.table.lookup h with
    | none => simp [found] at short
    | some s =>
      rw [found, Option.any_some, decide_eq_true_eq] at short
      exact .overrun found short
  · rw [flushed_of_fits short]
    by_cases whole : sent = pending.length
    · rw [if_pos whole]
      exact .out whole (looked_readReply _ h mode)
    · rw [if_neg whole]
      exact .short (settled_settle _ h _)

theorem flushed_flushAnswered (e : Engine) (h : Handle) (mode : WaitMode) (pending : Bytes)
    (answer : Except IoError Nat) : ∃ sent, sent ≤ pending.length ∧
      (Operation.flushing h mode pending).taken answer = pending.take sent ∧
      Flushed e h pending sent (e.flushAnswered h mode pending answer) := by
  cases answer with
  | ok count =>
    refine ⟨min count pending.length, Nat.min_le_right _ _, ?_, flushed_flushed e h mode pending _⟩
    rw [Operation.taken, List.take_eq_take_min]
  | error error =>
    refine ⟨0, Nat.zero_le _, rfl, ?_⟩
    by_cases wouldBlock : error.kind = .wouldBlock
    · rw [flushAnswered, if_pos wouldBlock]
      exact flushed_flushed e h mode pending 0
    · rw [flushAnswered, if_neg wouldBlock]
      refine .short ?_
      rw [update_sent_zero]
      exact settled_settle e h _

theorem Flushed.confined {pending : Bytes} {sent : Nat} (flushed : Flushed e h pending sent result) :
    Confined h e result := by
  cases flushed with
  | overrun found short => exact .overrun e h
  | out whole looked => exact .update looked.confined
  | short settled => exact .update settled.confined

theorem confined_resume (e : Engine) (op : Operation) (answer : op.Answer) :
    Confined op.handle e (e.resume op answer) := by
  by_cases reads : op.reads = true
  · exact (looked_resume e reads answer).confined
  · cases op with
    | sendingRequest h request => exact confined_requestAnswered e h request answer
    | flushing h mode pending =>
      obtain ⟨sent, -, -, flushed⟩ := flushed_flushAnswered e h mode pending answer
      exact flushed.confined
    | armingReset h error => exact .done e h _
    | _ => exact absurd rfl reads

/-! ## Starting an operation -/

/-- How every further call is refused while somebody drives the redirect of `h`. -/
def Call.refusal (h : Handle) : Call → OperationResult
  | .connect _ => .connect (.error (.alreadyConnecting h))
  | .readable | .send | .await => .read (.ok .pending)

theorem start_of_claimed (found : e.table.lookup h = some s) (awaits : s.phase = .awaitingRedirect)
    (claimed : s.claimed = true) (call : Call) :
    e.start h call = (e, .done (call.refusal h)) := by
  cases call <;>
    simp [start, tryConnect, onReadable, onSend, awaitReply, drive, found, awaits, claimed,
      Call.refusal]

theorem start_of_created {destination : SocketAddress} {request : Bytes}
    (found : e.table.lookup h = some s) (fresh : s.phase = .created)
    (written : Engine.request destination s.cookie = .ok request) :
    e.start h (.connect destination) =
      (e.update h (·.connecting destination), .waiting (.sendingRequest h request)) := by
  rw [start, tryConnect, found]
  simp only [fresh, written, ne_eq, not_true_eq_false, if_false]

/-- All that can come of a call. -/
inductive Started (e : Engine) (h : Handle) (call : Call) : Engine × Progress → Prop
  /-- There is nothing to do for the caller, or not now. -/
  | idle {r : OperationResult} (calm : (Progress.done r).resolves = false)
      (late : call.destination? = none ∨ ∀ s, e.table.lookup h = some s → s.phase ≠ .created) :
      Started e h call (e, .done r)
  | connects {destination : SocketAddress} {s : RedirectState} {request : Bytes}
      (asks : call.destination? = some destination) (found : e.table.lookup h = some s)
      (fresh : s.phase = .created) (written : Engine.request destination s.cookie = .ok request) :
      Started e h call
        (e.update h (·.connecting destination), .waiting (.sendingRequest h request))
  | givesUp : Started e h call (e.remove h, .done (.connect (.ok .fallback)))
  | drives {s : RedirectState} {op : Operation} (found : e.table.lookup h = some s)
      (awaits : s.phase = .awaitingRedirect) (free : s.claimed = false) (same : op.handle = h)
      (next : s.pending = [] ∧ op.reads = true ∨
        s.pending ≠ [] ∧ ∃ mode, op = .flushing h mode s.pending) :
      Started e h call (e.update h RedirectState.claim, .waiting op)

theorem started_tryConnect (e : Engine) (h : Handle) (destination : SocketAddress) :
    Started e h (.connect destination) (e.tryConnect h destination) := by
  unfold tryConnect
  split
  · rename_i untracked
    exact .idle rfl (.inr fun s found => by rw [untracked] at found; cases found)
  · rename_i s found
    split
    · rename_i late
      refine .idle rfl (.inr fun s' found' => ?_)
      rw [found] at found'
      cases found'
      exact late
    · rename_i fresh
      split
      · rename_i request written
        exact .connects rfl found (Decidable.not_not.1 fresh) written
      · exact .givesUp

/-- Whoever has the claim sends what is left of the request, or turns to the answer. -/
theorem flush_of_lookup (found : e.table.lookup h = some s) (mode : WaitMode) :
    ∃ op, e.flush h mode = (e, .waiting op) ∧ op.handle = h ∧
      (s.pending = [] ∧ op.reads = true ∨
        s.pending ≠ [] ∧ ∃ mode, op = .flushing h mode s.pending) := by
  rw [flush, found]
  by_cases none : s.pending = []
  · simp only [List.isEmpty_iff, if_pos none]
    cases mode with
    | polling => exact ⟨_, rfl, rfl, .inl ⟨none, rfl⟩⟩
    | blocking => exact ⟨_, rfl, rfl, .inl ⟨none, rfl⟩⟩
  · simp only [List.isEmpty_iff, if_neg none]
    exact ⟨_, rfl, rfl, .inr ⟨none, mode, rfl⟩⟩

theorem started_drive (e : Engine) (h : Handle) {call : Call} (looks : call.destination? = none)
    (mode : WaitMode) : Started e h call (e.drive h mode) := by
  unfold drive
  split
  · exact .idle rfl (.inl looks)
  · rename_i s found
    split
    · rename_i awaits
      by_cases claimed : s.claimed = true
      · rw [if_pos claimed]
        exact .idle rfl (.inl looks)
      · have found' : (e.update h RedirectState.claim).table.lookup h = some s.claim := by
          rw [update, Registry.lookup_update_self, found]
          rfl
        obtain ⟨op, eq, same, next⟩ := flush_of_lookup found' mode
        rw [if_neg claimed, eq]
        exact .drives found awaits (by simpa using claimed) same next
    · exact .idle rfl (.inl looks)
    · exact .idle rfl (.inl looks)
    · exact .idle rfl (.inl looks)

theorem started_start (e : Engine) (h : Handle) (call : Call) :
    Started e h call (e.start h call) := by
  cases call with
  | connect destination => exact started_tryConnect e h destination
  | readable => exact started_drive e h rfl .polling
  | send => exact started_drive e h rfl .polling
  | await => exact started_drive e h rfl .blocking

theorem Started.confined {call : Call} (started : Started e h call result) :
    Confined h e result := by
  cases started with
  | idle calm late => exact .done e h _
  | connects asks found fresh written => exact .update (.waiting _ (.sendingRequest h _))
  | givesUp => exact .remove (.done _ h _)
  | drives found awaits free same next =>
    subst same
    exact .update (.waiting _ _)

/-- Only an entry that nobody is at lets a caller wait. -/
theorem Started.free {call : Call} {op : Operation}
    (started : Started e h call (e', .waiting op)) : ∃ s, e.table.lookup h = some s ∧
      (s.phase = .created ∨ s.phase = .awaitingRedirect ∧ s.claimed = false) := by
  cases started with
  | connects asks found fresh written => exact ⟨_, found, .inl fresh⟩
  | drives found awaits free same next => exact ⟨_, found, .inr ⟨awaits, free⟩⟩

/-- Nothing is resolved before the socket has been asked. -/
theorem Started.not_resolves {call : Call} (started : Started e h call result) :
    result.2.resolves = false := by
  cases started with
  | idle calm late => exact calm
  | connects asks found fresh written => rfl
  | givesUp => rfl
  | drives found awaits free same next => rfl

end Engine

end TransportConverter
