import TransportConverter.Proofs.Connecting.Run
/-!
# What a blocking connect leaves behind

A blocking connect tracks the socket it opens and must give that up on every way out: an entry that is left
behind stands in the way of the next socket that gets the same descriptor. While it goes on its table is the
one it found and one cell more (`Registry.push`), so each way out has to take away that cell only.

The main result is `Connecting.restores_table`: **a blocking connect returns with the engine it found, with a
redirected socket only behind one whole answer that reports no failure, and goes straight to the destination
only where the request could not be written or not be sent**.
-/
namespace TransportConverter

/-! ## One cell more -/

namespace Registry

variable {σ : Type} {r : Registry σ} {h : Handle} {s : σ}

/-- The registry with a further handle tracked. -/
def push (r : Registry σ) (h : Handle) (s : σ) : Registry σ := ⟨{ state := s, owner := h } :: r.cells⟩

theorem insert_eq_push (untracked : r.contains h = false) (s : σ) :
    r.insert h s = .ok (r.push h s) := by
  rw [insert, untracked]
  rfl

theorem lookup_push (r : Registry σ) (h : Handle) (s : σ) : (r.push h s).lookup h = some s := by
  simp [push, lookup, cell?, Cell.names]

/-- No other cell answers to the handle. -/
theorem names_of_untracked (untracked : r.contains h = false) : ∀ c ∈ r.cells, c.names h = false := by
  simpa [contains, cell?] using untracked

theorem names_self (h : Handle) (s : σ) : Cell.names { state := s, owner := h } h = true := by
  simp [Cell.names]

theorem update_push (untracked : r.contains h = false) (f : σ → σ) :
    (r.push h s).update h f = r.push h (f s) := by
  have others : (r.cells.map fun c => if c.names h then { c with state := f c.state } else c) =
      r.cells := by
    rw [List.map_congr_left (g := id), List.map_id]
    intro c mem
    rw [names_of_untracked untracked c mem]
    rfl
  simp only [update, push, List.map_cons, others, names_self, if_true]

theorem remove_of_untracked (untracked : r.contains h = false) : r.remove h = r := by
  rw [remove, List.filter_eq_self.2 fun c mem => by rw [names_of_untracked untracked c mem]; rfl]

theorem remove_push (untracked : r.contains h = false) : (r.push h s).remove h = r := by
  rw [push, remove, List.filter_cons, names_self]
  exact remove_of_untracked untracked

end Registry

/-- The engine with a further handle tracked. -/
def Engine.tracking (e : Engine) (h : Handle) (s : RedirectState) : Engine :=
  { e with table := e.table.push h s }

namespace Engine

variable {e : Engine} {h : Handle} {s : RedirectState}

theorem track_of_untracked (untracked : e.table.contains h = false) :
    e.track h = .ok (e.tracking h { cookie := e.config.cookie }) := by
  rw [track, Registry.insert_eq_push untracked]
  rfl

theorem track_of_tracked (tracked : e.table.contains h = true) :
    e.track h = .error (.registry (.alreadyTracked h)) := by
  rw [track, Registry.insert, if_pos tracked]

theorem update_tracking (untracked : e.table.contains h = false) (f : RedirectState → RedirectState) :
    (e.tracking h s).update h f = e.tracking h (f s) := by
  rw [update, tracking, Registry.update_push untracked]
  rfl

theorem remove_tracking (untracked : e.table.contains h = false) : (e.tracking h s).remove h = e := by
  rw [remove, tracking, Registry.remove_push untracked]

theorem remove_of_untracked (untracked : e.table.contains h = false) : e.remove h = e := by
  rw [remove, Registry.remove_of_untracked untracked]

end Engine

namespace Connecting

open Engine

/-! ## What holds when a connect returns -/

/-- The cookie is none that a request may show. -/
def Unwritable (cookie : Option Bytes) : Prop := ∃ c, cookie = some c ∧ (c = [] ∨ 256 < c.length)

/-- A socket did not take the request, and not because it was still connecting. -/
def Unsent (log : List (Σ c : Connection, c.Answer)) : Prop :=
  ∃ (h : Handle) (destination : SocketAddress) (request : Bytes) (error : IoError),
    ⟨.redirecting h destination (.sendingRequest h request), .error error⟩ ∈ log ∧
      error.number? ≠ some IoError.connectInProgress

/-- One whole answer was taken from the front of the stream, and it reports no failure. -/
def Accepted (stream : Bytes) (p : Pipe) : Prop :=
  ∃ message rest reply, stream = message ++ rest ∧ p.taken = message ∧
    Message.decode message = .ok (reply, message.length) ∧ reply.error = none

/-- How a blocking connect leaves the engine, the connection and the system's calls. -/
structure Restored (e : Engine) (destination : SocketAddress) (stream : Bytes)
    (result : Except RedirectError Connected) (x : State) : Prop where
  /-- The same handles are tracked as before, in the same states. -/
  engine : x.engine = e
  redirected : ∀ h, result = .ok (.redirected h) → Accepted stream x.pipe
  directly : ∀ h target answer, ⟨.connecting h target, answer⟩ ∈ x.log →
    target = destination ∧ (Unwritable e.config.cookie ∨ Unsent x.log)

/-- The destination has not been connected to. -/
def Indirect (log : List (Σ c : Connection, c.Answer)) : Prop :=
  ∀ h target answer, ⟨.connecting h target, answer⟩ ∉ log

variable {e : Engine} {h : Handle} {s : RedirectState} {destination : SocketAddress} {stream : Bytes}
  {p : Pipe} {log : List (Σ c : Connection, c.Answer)}

theorem unwritable_of_request {cookie : Option Bytes} {error : EncodeError}
    (refused : request destination cookie = .error error) : Unwritable cookie := by
  by_contra writable
  have proper : ∀ c, cookie = some c → 1 ≤ c.length ∧ c.length ≤ 256 := by
    intro c set
    by_contra improper
    refine writable ⟨c, set, ?_⟩
    rw [← List.length_eq_zero_iff]
    omega
  cases refused.symm.trans (request_of_proper proper destination)

/-! ## Ways out -/

/-- An error that finds the engine as it was. -/
theorem returns_error (indirect : Indirect log) (error : RedirectError) :
    Returns stream (Restored e destination stream) ⟨e, .done (.error error), p, log⟩ :=
  .finished rfl ⟨rfl, nofun, fun h target answer mem => absurd mem (indirect h target answer)⟩

/-- A connect that gives up has lost nothing but the handle it tracked. -/
theorem returns_giveUp (untracked : e.table.contains h = false) (indirect : Indirect log)
    (error : RedirectError) : Returns stream (Restored e destination stream)
      (.of (Connection.giveUp (e.tracking h s) h error) p log) := by
  rw [Connection.giveUp, remove_tracking untracked]
  exact returns_error indirect error

theorem Indirect.append {c : Connection} (indirect : Indirect log) (answer : c.Answer)
    (other : ∀ h target, c ≠ .connecting h target) : Indirect (log ++ [⟨c, answer⟩]) := by
  intro h target answer' mem
  rw [List.mem_append, List.mem_singleton] at mem
  rcases mem with mem | same
  · exact indirect h target answer' mem
  · cases same
    exact other h target rfl

/-- What the redirect asks of the socket is not a connection to the destination. -/
theorem Indirect.redirecting {operation : Operation} (indirect : Indirect log)
    (answer : (Connection.redirecting h destination operation).Answer) :
    Indirect (log ++ [⟨.redirecting h destination operation, answer⟩]) :=
  indirect.append answer nofun

/-- The redirect fails: it is failed on its socket too, and then given up. -/
theorem returns_fail (untracked : e.table.contains h = false) (indirect : Indirect log)
    (brings : p.Brings stream) (error : RedirectError) :
    Returns stream (Restored e destination stream)
      (.of (Connection.proceed h destination ((e.tracking h s).fail h error)) p log) := by
  rw [fail, update_tracking untracked]
  refine .call brings fun p' answer p'' arrives meets => ?_
  exact returns_giveUp untracked (indirect.redirecting answer) error

/-- Sending what is left comes before the look for the answer, and ends neither of them at once. -/
theorem proceed_flush (e : Engine) (h : Handle) (destination : SocketAddress) (mode : WaitMode) :
    Connection.proceed h destination (e.flush h mode) =
      Connection.awaited h destination (e.flush h mode) := by
  unfold flush
  split
  · split
    · cases mode <;> rfl
    · rfl
  · cases mode <;> rfl

/-- The destination itself is connected to, and that may fail as well. -/
theorem returns_directly (indirect : Indirect log) (brings : p.Brings stream)
    (why : Unwritable e.config.cookie ∨ Unsent log) :
    Returns stream (Restored e destination stream) ⟨e, .waiting (.connecting h destination), p, log⟩ := by
  refine .call brings fun p' answer p'' arrives meets => ?_
  have directly (k : Handle) (target : SocketAddress) (answer' : (Connection.connecting k target).Answer)
      (mem : ⟨.connecting k target, answer'⟩ ∈ log ++ [⟨.connecting h destination, answer⟩]) :
      target = destination ∧ (Unwritable e.config.cookie ∨
        Unsent (log ++ [⟨.connecting h destination, answer⟩])) := by
    refine ⟨?_, why.imp_right fun ⟨k, to', request, error, sent, other⟩ =>
      ⟨k, to', request, error, List.mem_append_left _ sent, other⟩⟩
    rw [List.mem_append, List.mem_singleton] at mem
    rcases mem with mem | same
    · exact absurd mem (indirect k target answer')
    · cases same
      rfl
  cases answer with
  | ok => exact .finished rfl ⟨rfl, nofun, directly⟩
  | error error => exact .finished rfl ⟨rfl, nofun, directly⟩

/-! ## The answer -/

section Answer

variable (untracked : e.table.contains h = false) (indirect : Indirect log) (brings : p.Brings stream)
include untracked indirect brings

/-- The whole answer has been taken. -/
theorem returns_received {message : Bytes} (header : Header) (taken : p.taken = message)
    (opens : Header.decode message = .ok header) (whole : message.length = header.messageLength) :
    Returns stream (Restored e destination stream)
      (.of (Connection.proceed h destination ((e.tracking h s).received h message)) p log) := by
  unfold received
  cases read : Message.decode message with
  | error error => exact returns_fail untracked indirect brings _
  | ok answer =>
    obtain ⟨reply, used⟩ := answer
    simp only [settle]
    cases failed : reply.error with
    | some code => exact returns_fail untracked indirect brings _
    | none =>
      obtain ⟨header', opens', rfl, -⟩ := Message.messageLength_of_decode read
      cases opens.symm.trans opens'
      obtain ⟨rest, all⟩ := p.taken_isPrefix.trans brings.part
      rw [taken] at all
      rw [← whole] at read
      refine .finished rfl ⟨?_, fun _ _ => ⟨message, rest, reply, all.symm, taken, read, failed⟩, ?_⟩
      · rw [update_tracking untracked]
        exact remove_tracking untracked
      · exact fun h target answer mem => absurd mem (indirect h target answer)

theorem returns_takingRest {front : Bytes} {header : Header} (taken : p.taken = front)
    (opens : Header.decode front = .ok header) (length : front.length = headerLength) :
    Returns stream (Restored e destination stream) ⟨e.tracking h s,
      .waiting (.redirecting h destination (.takingRest h front header.messageLength)), p, log⟩ := by
  refine .call brings fun p' answer p'' arrives meets => ?_
  have indirect' := indirect.redirecting answer
  cases meets with
  | fails lost error => exact returns_fail untracked indirect' (arrives.brings.advance lost) _
  | whole there =>
    refine returns_received untracked indirect' (arrives.brings.advance _) header ?_ ?_ ?_
    · rw [Pipe.advance, arrives.taken, taken]
    · rw [Header.decode_of_isPrefix (List.prefix_append ..) length.ge, opens]
    · rw [List.length_append, length, List.length_take_of_le there,
        Nat.add_sub_cancel' header.headerLength_le_messageLength]

theorem returns_takingHeader (unread : p.taken = []) :
    Returns stream (Restored e destination stream)
      ⟨e.tracking h s, .waiting (.redirecting h destination (.takingHeader h)), p, log⟩ := by
  refine .call brings fun p' answer p'' arrives meets => ?_
  have indirect' := indirect.redirecting answer
  cases meets with
  | fails lost error => exact returns_fail untracked indirect' (arrives.brings.advance lost) _
  | whole there =>
    have brings' := arrives.brings.advance headerLength
    simp only [Connection.resume, resume, headerTaken]
    cases opens : Header.decode (p'.held.take headerLength) with
    | error error => exact returns_fail untracked indirect' brings' _
    | ok header =>
      refine returns_takingRest untracked indirect' brings' ?_ opens (List.length_take_of_le there)
      rw [Pipe.advance, arrives.taken, unread, List.nil_append]

/-! ## The request -/

/-- The socket has taken a part of what was left of the request, or all of it. -/
theorem returns_flushed (unread : p.taken = []) {sent : Nat} (part : sent ≤ s.pending.length) :
    Returns stream (Restored e destination stream) (.of (Connection.proceed h destination
      ((e.tracking h s).flushed h .blocking s.pending sent)) p log) := by
  have within : ((e.tracking h s).table.lookup h).any (fun state => state.pending.length < sent) = false := by
    rw [tracking, Registry.lookup_push]
    simpa using part
  have tracked : ∃ s', (if sent = 0 then e.tracking h s else (e.tracking h s).update h (·.sent sent)) =
      e.tracking h s' := by
    split
    · exact ⟨s, rfl⟩
    · exact ⟨s.sent sent, update_tracking untracked _⟩
  obtain ⟨s', tracked⟩ := tracked
  rw [flushed, within, if_neg Bool.false_ne_true, tracked]
  by_cases all : sent = s.pending.length
  · rw [if_pos all]
    exact returns_takingHeader untracked indirect brings unread
  · rw [if_neg all]
    exact returns_fail untracked indirect brings _

/-- The rest of the request goes out at once, or not in time. -/
theorem returns_flush (unread : p.taken = []) : Returns stream (Restored e destination stream)
    (.of (Connection.proceed h destination ((e.tracking h s).flush h .blocking)) p log) := by
  have found : (e.tracking h s).table.lookup h = some s := Registry.lookup_push ..
  by_cases out : s.pending.isEmpty
  · simp only [flush, found, out, if_true]
    exact returns_takingHeader untracked indirect brings unread
  simp only [flush, found, out]
  refine .call brings fun p' answer p'' arrives meets => ?_
  obtain rfl : p'' = p' := meets
  have indirect' := indirect.redirecting answer
  have unread' := arrives.taken.trans unread
  cases answer with
  | ok count =>
    exact returns_flushed untracked indirect' arrives.brings unread' (Nat.min_le_right ..)
  | error error =>
    simp only [Connection.resume, resume, flushAnswered]
    split
    · exact returns_flushed untracked indirect' arrives.brings unread' (Nat.zero_le _)
    · exact returns_fail untracked indirect' arrives.brings _

/-- The request is out as far as the socket took it, and the look for the answer begins. -/
theorem returns_awaited (unread : p.taken = []) (awaits : s.phase = .awaitingRedirect)
    (free : s.claimed = false) : Returns stream (Restored e destination stream)
    (.of (Connection.awaited h destination ((e.tracking h s).awaitReply h)) p log) := by
  have found : (e.tracking h s).table.lookup h = some s := Registry.lookup_push ..
  have drives : (e.tracking h s).awaitReply h = (e.tracking h s.claim).flush h .blocking := by
    simp only [awaitReply, drive, found, awaits, free, update_tracking untracked]
    rfl
  rw [drives, ← proceed_flush]
  exact returns_flush untracked indirect brings unread

end Answer

/-- The socket has answered the request. -/
theorem returns_sendingRequest (untracked : e.table.contains h = false) (indirect : Indirect log)
    (brings : p.Brings stream) (unread : p.taken = []) {request : Bytes}
    (awaits : s.phase = .awaitingRedirect) : Returns stream (Restored e destination stream)
      ⟨e.tracking h s, .waiting (.redirecting h destination (.sendingRequest h request)), p, log⟩ := by
  refine .call brings fun p' answer p'' arrives meets => ?_
  obtain rfl : p'' = p' := meets
  have indirect' := indirect.redirecting answer
  have unread' := arrives.taken.trans unread
  have out (sent : Nat) : Returns stream (Restored e destination stream)
      (.of (Connection.proceed h destination
        (requestAnswered.taken (e.tracking h s) h request sent)) p'' (log ++ [⟨_, answer⟩])) := by
    simp only [requestAnswered.taken, update_tracking untracked]
    have awaited : Returns stream (Restored e destination stream)
        (.of (Connection.awaited h destination
          ((e.tracking h (s.requested (request.drop sent))).awaitReply h)) p'' (log ++ [⟨_, answer⟩])) :=
      returns_awaited untracked indirect' arrives.brings unread' awaits rfl
    split <;> exact awaited
  cases answer with
  | ok count => exact out _
  | error error =>
    simp only [Connection.resume, resume, requestAnswered]
    split
    · exact out 0
    rename_i refused
    simp only [Connection.proceed, remove_tracking untracked, remove_of_untracked untracked]
    refine returns_directly indirect' arrives.brings (.inr ⟨h, destination, request, error, ?_, refused⟩)
    exact List.mem_append_right _ (List.mem_singleton_self _)

/-! ## The whole connect -/

theorem returns_tryConnect (untracked : e.table.contains h = false) (indirect : Indirect log)
    (brings : p.Brings stream) (unread : p.taken = []) : Returns stream (Restored e destination stream)
      (.of (Connection.proceed h destination
        ((e.tracking h { cookie := e.config.cookie }).tryConnect h destination)) p log) := by
  have found : (e.tracking h { cookie := e.config.cookie }).table.lookup h =
      some { cookie := e.config.cookie } := Registry.lookup_push ..
  cases written : request destination e.config.cookie with
  | ok request =>
    simp only [tryConnect, found, written, update_tracking untracked]
    exact returns_sendingRequest untracked indirect brings unread rfl
  | error error =>
    have falls : (e.tracking h { cookie := e.config.cookie }).tryConnect h destination =
        (e, .done (.connect (.ok .fallback))) := by
      simp only [tryConnect, found, written, remove_tracking untracked, ne_eq, not_true_eq_false,
        if_false]
    simp only [falls, Connection.proceed, remove_of_untracked untracked]
    exact returns_directly indirect brings (.inl (unwritable_of_request written))

/-- A socket was opened, or not. Where no multipath socket is to be had a plain one may be. -/
theorem returns_opened {family : AddressFamily} {multipath : Bool} (answer : Except IoError Handle)
    (indirect : Indirect log) (brings : p.Brings stream) (unread : p.taken = [])
    (plain : multipath = true → Returns stream (Restored e destination stream)
      ⟨e, .waiting (.opening destination family false), p, log⟩) :
    Returns stream (Restored e destination stream)
      (.of (Connection.opened e destination family multipath answer) p log) := by
  cases answer with
  | ok h =>
    cases tracked : e.table.contains h with
    | true =>
      simp only [Connection.opened, track_of_tracked tracked]
      exact returns_error indirect _
    | false =>
      simp only [Connection.opened, track_of_untracked tracked]
      exact returns_tryConnect tracked indirect brings unread
  | error error =>
    simp only [Connection.opened]
    split
    · rename_i unavailable
      simp only [Bool.and_eq_true] at unavailable
      exact plain unavailable.1.1
    · exact returns_error indirect _

/-- **A blocking connect gives up what it tracked.** Whatever the system and the converter do, it returns, and
its engine is then the one it began with, entry by entry. It returns a redirected socket only when one whole
answer without a failure was taken, and then nothing behind it was. It connects to the destination itself only
if the request could not be written for its cookie, or a socket refused it. -/
theorem restores_table (e : Engine) (destination : SocketAddress) (stream : Bytes) :
    Returns stream (Restored e destination stream) (.start e destination) := by
  have brings : ({} : Pipe).Brings stream := ⟨List.nil_prefix, nofun⟩
  refine .call brings fun p answer p' arrives meets => ?_
  obtain rfl : p' = p := meets
  have indirect : Indirect ([] ++ [⟨_, answer⟩]) :=
    Indirect.append (fun _ _ _ => List.not_mem_nil) answer nofun
  refine returns_opened answer indirect arrives.brings arrives.taken fun _ => ?_
  refine .call arrives.brings fun p₁ answer₁ p₂ arrives₁ meets₁ => ?_
  obtain rfl : p₂ = p₁ := meets₁
  exact returns_opened answer₁ (indirect.append answer₁ nofun) arrives₁.brings
    (arrives₁.taken.trans arrives.taken) nofun

/-- An empty cookie cannot be written, and the destination refuses the connection as well. -/
theorem restores_table_refused :
    let e : Engine := { config := { converter := .v4 ⟨192, 0, 2, 1⟩ 1234, cookie := some [] },
                        table := ⟨[{ state := { cookie := none }, owner := ⟨7⟩ }]⟩ }
    let destination : SocketAddress := .v4 ⟨203, 0, 113, 5⟩ 443
    let refused : IoError := .bare .connectionRefused
    ∃ x, Ends [] (.start e destination) (.error (.io refused)) x ∧ x.engine = e := by
  intro e destination refused
  have arrives : ({} : Pipe).Arrives [] {} := Pipe.Brings.arrives ⟨List.nil_prefix, fun _ => rfl⟩
  have opens : Step [] (.start e destination) ⟨e, .waiting (.connecting ⟨5⟩ destination), {}, _⟩ :=
    @Step.call [] e (.opening destination .ipv4 true) {} {} {} [] (.ok ⟨5⟩) arrives rfl
  let log : List (Σ c : Connection, c.Answer) := [⟨.opening destination .ipv4 true, .ok ⟨5⟩⟩]
  have fails : Step [] ⟨e, .waiting (.connecting ⟨5⟩ destination), {}, log⟩
      ⟨e, .done (.error (.io refused)), {}, _⟩ :=
    @Step.call [] e (.connecting ⟨5⟩ destination) {} {} {} log (.error refused) arrives rfl
  have ends := Ends.step opens (.step fails (.finished rfl))
  exact ⟨_, ends, ((restores_table e destination []).of_ends ends).engine⟩

end Connecting

end TransportConverter
