import TransportConverter.Proofs.Client.Transition
import TransportConverter.Proofs.Message.Writing
/-!
# How an entry, its callers and its request go together

From the moment a handle is tracked there is a fixed relation between its entry, the callers in
flight on it and the part of its request that the socket has taken (`Standing`): before a connect
there is neither, then one caller at most has the claim and its socket call is the one that is due
(`SocketCall.Due`), and after a failure nothing more is sent or read. Each operation keeps it
(`Standing.start`, `Standing.resume`).
-/
namespace TransportConverter

/-- A call on a socket that has taken `accepted` of a request, with `pending` to go: the request, its
rest, or a look for the answer once nothing is left. -/
def SocketCall.Due (request accepted pending : Bytes) : SocketCall → Prop
  | sendRedirect payload _ _ => payload = request ∧ accepted = [] ∧ pending = []
  | send payload => payload = pending ∧ pending ≠ [] ∧ accepted ++ pending = request
  | peek _ | receiveExact _ => pending = [] ∧ accepted = request
  | setAbortiveClose => False

namespace Operation

theorem due_iff_of_reads {op : Operation} (reads : op.reads = true) (config : ClientConfig)
    {request accepted pending : Bytes} :
    (op.call config).Due request accepted pending ↔ pending = [] ∧ accepted = request := by
  cases op with
  | sendingRequest h request => cases reads
  | flushing h mode pending => cases reads
  | armingReset h error => cases reads
  | _ => rfl

theorem taken_of_reads {op : Operation} (reads : op.reads = true) (answer : op.Answer) :
    op.taken answer = [] := by
  cases op with
  | sendingRequest h request => cases reads
  | flushing h mode pending => cases reads
  | _ => rfl

end Operation

namespace Engine

/-- There is room enough for every request, so it is the message in full or there is none. -/
theorem request_eq_encode (destination : SocketAddress) (cookie : Option Bytes) :
    request destination cookie = (Message.request destination cookie).encode := by
  rw [Message.encode_eq]
  refine Message.take_encodeInto fun valid => ?_
  have := Message.tlvLength_le valid
  rw [Message.encodedLength, headerLength, List.length_replicate, requestRoom]
  omega

/-- How an entry and the callers in flight on its handle go together, once the handle was `asked` to
be connected and its socket has taken `accepted`. -/
inductive Standing (config : ClientConfig) (asked : Option SocketAddress) (accepted : Bytes) :
    RedirectState → List Caller → Prop
  | created (unasked : asked = none) (nothing : accepted = []) :
      Standing config asked accepted { cookie := config.cookie } []
  /-- Nobody is at it. -/
  | idle {destination : SocketAddress} {request pending : Bytes} (asks : asked = some destination)
      (written : Engine.request destination config.cookie = .ok request)
      (split : accepted ++ pending = request) :
      Standing config asked accepted
        { phase := .awaitingRedirect, destination := some destination, cookie := config.cookie
          pending } []
  /-- The caller has the claim. -/
  | driven {destination : SocketAddress} {request pending : Bytes} {c : Caller}
      (asks : asked = some destination)
      (written : Engine.request destination config.cookie = .ok request)
      (due : (c.op.call config).Due request accepted pending) :
      Standing config asked accepted
        { phase := .awaitingRedirect, destination := some destination, cookie := config.cookie
          pending, claimed := true } [c]
  /-- The caller has failed and is not done with the socket. -/
  | resetting {destination : SocketAddress} {c : Caller} (asks : asked = some destination)
      (arms : c.op.call config = .setAbortiveClose) :
      Standing config asked accepted
        { phase := .failed, destination := some destination, cookie := config.cookie } [c]
  | failed {destination : SocketAddress} (asks : asked = some destination) :
      Standing config asked accepted
        { phase := .failed, destination := some destination, cookie := config.cookie } []

variable {config : ClientConfig} {asked : Option SocketAddress} {accepted request pending : Bytes}
  {s : RedirectState} {callers : List Caller} {e e' : Engine} {h : Handle} {p : Progress}

/-- What a step leaves of the redirect of `h`: nothing, or an entry that stands as it should, and
nobody was told that it is done. -/
def Leaves (config : ClientConfig) (asked : Option SocketAddress) (accepted : Bytes) (h : Handle)
    (e : Engine) (p : Progress) (callers : List Caller) : Prop :=
  e.table.contains h = false ∨
    p.resolves = false ∧ ∃ s, e.table.Alone h s ∧ Standing config asked accepted s callers

namespace Standing

theorem length_le (standing : Standing config asked accepted s callers) : callers.length ≤ 1 := by
  cases standing <;> simp

/-- Nobody is in flight on an entry that waits for a caller. -/
theorem eq_nil (standing : Standing config asked accepted s callers)
    (free : s.phase = .created ∨ s.phase = .awaitingRedirect ∧ s.claimed = false) :
    callers = [] := by
  cases standing with
  | created unasked nothing => rfl
  | idle asks written split => rfl
  | driven asks written due => simp at free
  | resetting asks arms => simp at free
  | failed asks => rfl

/-- There is nobody besides a caller in flight. -/
theorem eq_singleton {others after : List Caller} {c : Caller}
    (standing : Standing config asked accepted s (others ++ c :: after)) :
    others = [] ∧ after = [] := by
  have le := standing.length_le
  rw [List.length_append, List.length_cons] at le
  exact ⟨List.length_eq_zero_iff.1 (by omega), List.length_eq_zero_iff.1 (by omega)⟩

/-- Only the first connect counts. -/
theorem or_asked (standing : Standing config asked accepted s callers)
    {again : Option SocketAddress} (late : again = none ∨ s.phase ≠ .created) :
    Standing config (asked.or again) accepted s callers := by
  cases standing with
  | created unasked nothing =>
    rcases late with rfl | late
    · rw [Option.or_none]
      exact .created unasked nothing
    · exact absurd rfl late
  | idle asks written split => exact .idle (by rw [asks, Option.some_or]) written split
  | driven asks written due => exact .driven (by rw [asks, Option.some_or]) written due
  | resetting asks arms => exact .resetting (by rw [asks, Option.some_or]) arms
  | failed asks => exact .failed (by rw [asks, Option.some_or])

/-- **A call keeps the standing**: it is refused, it gives the handle up, or it takes a claim that
nobody has and turns to the socket call that is due. -/
theorem start {call : Call} (standing : Standing e.config asked accepted s callers)
    (alone : e.table.Alone h s) (started : Started e h call (e', p)) (tracking : Nat) :
    Leaves e.config (asked.or call.destination?) accepted h e' p
      (p.callers tracking ++ callers) := by
  cases started with
  | idle calm late =>
    refine .inr ⟨calm, s, alone, standing.or_asked ?_⟩
    exact late.imp_right fun late => late s alone.lookup
  | @connects destination s' request asks found fresh written =>
    rw [alone.lookup] at found
    cases found
    refine .inr ⟨rfl, _, alone.update_self _, ?_⟩
    cases standing with
    | created unasked nothing =>
      rw [unasked, asks]
      exact .driven rfl written ⟨rfl, nothing, rfl⟩
    | idle asks written split => cases fresh
    | driven asks written due => cases fresh
    | resetting asks arms => cases fresh
    | failed asks => cases fresh
  | givesUp => exact .inl (Registry.contains_remove_self e.table h)
  | @drives s' op found awaits free same next =>
    rw [alone.lookup] at found
    cases found
    refine .inr ⟨rfl, _, alone.update_self _, ?_⟩
    cases standing with
    | created unasked nothing => cases awaits
    | @idle destination request pending asks written split =>
      refine .driven (by rw [asks, Option.some_or]) written ?_
      rcases next with ⟨out, reads⟩ | ⟨left, mode, rfl⟩
      · subst out
        exact (Operation.due_iff_of_reads reads e.config).2 ⟨rfl, by simpa using split⟩
      · exact ⟨rfl, left, split⟩
    | driven asks written due => cases free
    | resetting asks arms => cases awaits
    | failed asks => cases awaits

/-- Whoever has the claim may end the look for the answer in any way. -/
theorem settled {destination : SocketAddress} (asks : asked = some destination)
    (written : Engine.request destination e.config.cookie = .ok request)
    (split : accepted ++ pending = request)
    (alone : e.table.Alone h
      { phase := .awaitingRedirect, destination := some destination, cookie := e.config.cookie
        pending, claimed := true })
    (settled : Settled e h (e', p)) (tracking : Nat) :
    Leaves e.config asked accepted h e' p (p.callers tracking) := by
  cases settled with
  | notYet => exact .inr ⟨rfl, _, alone.update_self _, .idle asks written split⟩
  | failed error => exact .inr ⟨rfl, _, alone.update_self _, .resetting asks rfl⟩
  | resolved => exact .inl (Registry.contains_remove_self _ h)

theorem looked {destination : SocketAddress} (asks : asked = some destination)
    (written : Engine.request destination e.config.cookie = .ok accepted)
    (alone : e.table.Alone h
      { phase := .awaitingRedirect, destination := some destination, cookie := e.config.cookie
        claimed := true })
    (looked : Looked e h (e', p)) (tracking : Nat) :
    Leaves e.config asked accepted h e' p (p.callers tracking) := by
  cases looked with
  | further op same reads =>
    refine .inr ⟨rfl, _, alone, .driven asks written ?_⟩
    exact (Operation.due_iff_of_reads reads e.config).2 ⟨rfl, rfl⟩
  | ended settled => exact Standing.settled asks written (List.append_nil _) alone settled tracking

theorem flushed {destination : SocketAddress} {sent : Nat} (asks : asked = some destination)
    (written : Engine.request destination e.config.cookie = .ok request)
    (split : accepted ++ pending = request)
    (alone : e.table.Alone h
      { phase := .awaitingRedirect, destination := some destination, cookie := e.config.cookie
        pending, claimed := true })
    (le : sent ≤ pending.length) (flushed : Flushed e h pending sent (e', p)) (tracking : Nat) :
    Leaves e.config asked (accepted ++ pending.take sent) h e' p (p.callers tracking) := by
  have advanced := alone.update_self (·.sent sent)
  have split' : (accepted ++ pending.take sent) ++ pending.drop sent = request := by
    rw [List.append_assoc, List.take_append_drop, split]
  cases flushed with
  | overrun found short =>
    -- the table holds all that was offered to the socket
    rw [alone.lookup] at found
    cases found
    exact absurd short (Nat.not_lt_of_le le)
  | out whole looked =>
    have rest : pending.drop sent = [] := List.drop_eq_nil_of_le (Nat.le_of_eq whole.symm)
    rw [rest, List.append_nil] at split'
    rw [← split'] at written
    rw [RedirectState.sent, rest] at advanced
    exact Standing.looked (e := e.update h (·.sent sent)) asks written advanced looked tracking
  | short settled =>
    exact Standing.settled (e := e.update h (·.sent sent)) asks written split' advanced settled
      tracking

/-- **An answer keeps the standing**, whatever it is. -/
theorem resume {tracking : Nat} {op : Operation} {answer : op.Answer}
    (standing : Standing e.config asked accepted s [⟨tracking, op⟩])
    (alone : e.table.Alone op.handle s) (resumed : e.resume op answer = (e', p)) :
    Leaves e.config asked (accepted ++ op.taken answer) op.handle e' p (p.callers tracking) := by
  cases standing with
  | resetting asks arms =>
    cases op with
    | armingReset h error =>
      cases resumed
      exact .inr ⟨rfl, _, alone, .failed asks⟩
    | _ => cases arms
  | driven asks written due =>
    by_cases reads : op.reads = true
    · obtain ⟨rfl, rfl⟩ := (Operation.due_iff_of_reads reads e.config).1 due
      have looked := looked_resume e reads answer
      rw [resumed] at looked
      rw [Operation.taken_of_reads reads, List.append_nil]
      exact Standing.looked asks written alone looked tracking
    · cases op with
      | sendingRequest h request =>
        obtain ⟨rfl, rfl, rfl⟩ := due
        rcases requestAnswered_cases e h request answer with ⟨rest, outcome, split, eq⟩ | eq
        · cases eq.symm.trans resumed
          exact .inr ⟨rfl, _, alone.update_self _, .idle asks written split⟩
        · cases eq.symm.trans resumed
          exact .inl (Registry.contains_remove_self e.table h)
      | flushing h mode pending =>
        obtain ⟨rfl, left, split⟩ := due
        obtain ⟨sent, le, taken, flushed⟩ := flushed_flushAnswered e h mode pending answer
        change e.flushAnswered h mode pending answer = (e', p) at resumed
        rw [resumed] at flushed
        rw [taken]
        exact Standing.flushed asks written split alone le flushed tracking
      | armingReset h error => exact absurd due id
      | _ => exact absurd rfl reads

end Standing

end Engine

end TransportConverter
