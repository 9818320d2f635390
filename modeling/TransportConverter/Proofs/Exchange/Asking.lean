import TransportConverter.Proofs.Client.Tracking
import TransportConverter.Proofs.Exchange.Run
import TransportConverter.Proofs.Message.Framing
/-!
# How a client takes the answer

A client's engine on one handle, over a connection that brings it one message. Whatever look it takes at
the connection, and however often, it takes that message and no more, as a whole (`Operation.Heard.looks`),
and then it is done with the redirect: for good, or with the code of the message (`Stance`).
-/
namespace TransportConverter

open Engine

/-! ## What a socket call does to the connection -/

theorem Pipe.advance_zero (p : Pipe) : p.advance 0 = p := by simp [Pipe.advance]

theorem Pipe.Hands.advance {p p' : Pipe} {closed : Prop} {count : Nat}
    {answer : Except IoError Bytes} (hands : p.Hands closed count answer p') :
    ∃ n, p' = p.advance n := by
  cases answer with
  | ok bytes => exact ⟨count, hands.2.2⟩
  | error error => exact ⟨0, hands.2.2.trans p.advance_zero.symm⟩

namespace Operation

variable {op : Operation} {answer : op.Answer} {up up' down down' : Pipe} {closed : Prop}

/-- The connection is given what the socket has taken. -/
theorem Heard.sends (heard : op.Heard up down closed answer up' down') :
    up' = up.put (op.taken answer) := by
  cases op with
  | sendingRequest h request =>
    cases answer with
    | ok count =>
      obtain ⟨-, rfl, -⟩ := heard
      rfl
    | error error =>
      obtain ⟨-, rfl, -⟩ := heard
      exact up'.put_nil.symm
  | flushing h mode pending =>
    cases answer with
    | ok count =>
      obtain ⟨-, -, rfl, -⟩ := heard
      rfl
    | error error =>
      obtain ⟨-, -, rfl, -⟩ := heard
      exact up'.put_nil.symm
  | armingReset h error =>
    obtain ⟨rfl, -⟩ := heard
    exact up'.put_nil.symm
  | peekingHeader h =>
    obtain ⟨-, rfl, -⟩ := heard
    exact up'.put_nil.symm
  | peekingMessage h length =>
    obtain ⟨-, rfl, -⟩ := heard
    exact up'.put_nil.symm
  | takingMessage h length =>
    obtain ⟨-, rfl⟩ := heard
    exact up'.put_nil.symm
  | takingHeader h =>
    obtain ⟨-, rfl⟩ := heard
    exact up'.put_nil.symm
  | takingRest h header length =>
    obtain ⟨-, rfl⟩ := heard
    exact up'.put_nil.symm

/-- Nothing is put into what comes from the converter. -/
theorem Heard.draws (heard : op.Heard up down closed answer up' down') :
    ∃ n, down' = down.advance n := by
  cases op with
  | sendingRequest h request =>
    cases answer with
    | ok count => exact ⟨0, heard.2.2.trans down.advance_zero.symm⟩
    | error error => exact ⟨0, heard.2.2.trans down.advance_zero.symm⟩
  | flushing h mode pending =>
    cases answer with
    | ok count => exact ⟨0, heard.2.2.2.trans down.advance_zero.symm⟩
    | error error => exact ⟨0, heard.2.2.2.trans down.advance_zero.symm⟩
  | armingReset h error => exact ⟨0, heard.2.trans down.advance_zero.symm⟩
  | peekingHeader h => exact ⟨0, heard.2.2.trans down.advance_zero.symm⟩
  | peekingMessage h length => exact ⟨0, heard.2.2.trans down.advance_zero.symm⟩
  | takingMessage h length => exact heard.1.advance
  | takingHeader h => exact heard.1.advance
  | takingRest h header length => exact heard.1.advance

/-- Only a look takes anything. -/
theorem Heard.unread (heard : op.Heard up down closed answer up' down') (reads : op.reads = false) :
    down' = down := by
  cases op with
  | sendingRequest h request =>
    cases answer with
    | ok count => exact heard.2.2
    | error error => exact heard.2.2
  | flushing h mode pending =>
    cases answer with
    | ok count => exact heard.2.2.2
    | error error => exact heard.2.2.2
  | armingReset h error => exact heard.2
  | _ => cases reads

/-! ## Looking for the answer -/

/-- What a look has taken of the answer when it waits for a socket call, and what it knows of the length:
what the header declares. -/
def Awaits (down : Pipe) : Operation → Prop
  | takingRest _ header length => down.taken = header ∧ header.length = headerLength ∧
      ∃ decoded, Header.decode header = .ok decoded ∧ decoded.messageLength = length
  | peekingMessage _ length | takingMessage _ length => down.taken = [] ∧ ∃ opens decoded,
      opens <+: down.sent ∧ headerLength ≤ opens.length ∧ Header.decode opens = .ok decoded ∧
        decoded.messageLength = length
  | sendingRequest .. | flushing .. | peekingHeader _ | takingHeader _ | armingReset .. =>
    down.taken = []

/-- How many answers a look takes at most from here on, when the whole message is at hand. -/
def left : Operation → Nat
  | peekingHeader _ => 3
  | peekingMessage .. | takingHeader _ => 2
  | takingMessage .. | takingRest .. => 1
  | sendingRequest .. | flushing .. | armingReset .. => 0

theorem left_le (op : Operation) : op.left ≤ 3 := by
  cases op <;> simp [left]

theorem left_pos (reads : op.reads = true) : 0 < op.left := by
  cases op with
  | sendingRequest | flushing | armingReset => cases reads
  | _ => exact Nat.succ_pos _

theorem Awaits.grows (awaits : op.Awaits down) (taken : down'.taken = down.taken)
    (grows : down.sent <+: down'.sent) : op.Awaits down' := by
  cases op with
  | takingRest h header length => exact ⟨taken.trans awaits.1, awaits.2⟩
  | peekingMessage h length =>
    obtain ⟨none, opens, decoded, part, rest⟩ := awaits
    exact ⟨taken.trans none, opens, decoded, part.trans grows, rest⟩
  | takingMessage h length =>
    obtain ⟨none, opens, decoded, part, rest⟩ := awaits
    exact ⟨taken.trans none, opens, decoded, part.trans grows, rest⟩
  | _ => exact taken.trans awaits

end Operation

namespace Message

variable {reply : Message} {down : Pipe} {closed : Prop} {opens : Bytes} {decoded : Header}

theorem headerLength_le_wire (m : Message) : headerLength ≤ m.wire.length := by
  rw [length_wire, encodedLength]
  exact Nat.le_add_right _ _

/-- The message is one that a converter answers with: success, or a failure with a name. -/
def Reports (m : Message) : Prop :=
  m = .empty ∨ ∃ code, m = .failure code ∧ code.registered = code

theorem Reports.valid {m : Message} (reports : m.Reports) : m.Valid := by
  rcases reports with rfl | ⟨code, rfl, -⟩
  · exact ⟨by simp [Message.empty], nofun⟩
  · exact ⟨by simp [Message.failure], nofun⟩

/-- A connection brings an answer, and is not closed before it has brought it. -/
structure Brought (reply : Message) (down : Pipe) (closed : Prop) : Prop where
  reports : reply.Reports
  carried : reply.Carried down.sent
  whole : closed → reply.wire <+: down.sent

theorem Brought.valid (brought : reply.Brought down closed) : reply.Valid := brought.reports.valid

theorem Brought.length_le (brought : reply.Brought down closed) (shut : closed) :
    reply.wire.length ≤ down.taken.length + down.held.length := by
  have := (brought.whole shut).length_le
  rwa [Pipe.sent, List.length_append] at this

theorem Brought.header (brought : reply.Brought down closed) (part : opens <+: down.sent)
    (long : headerLength ≤ opens.length) :
    ∃ decoded, Header.decode opens = .ok decoded ∧ decoded.messageLength = reply.wire.length :=
  (brought.carried.isPrefix part).header brought.valid long

/-- The length that a header declares is the right one. -/
theorem Brought.length_eq (brought : reply.Brought down closed) (part : opens <+: down.sent)
    (long : headerLength ≤ opens.length) (read : Header.decode opens = .ok decoded) :
    decoded.messageLength = reply.wire.length := by
  obtain ⟨decoded', read', length⟩ := brought.header part long
  cases read.symm.trans read'
  exact length

theorem Brought.eq_wire {bytes : Bytes} (brought : reply.Brought down closed)
    (part : bytes <+: down.sent) (length : bytes.length = reply.wire.length) : bytes = reply.wire :=
  (brought.carried.isPrefix part).eq_wire length

theorem Brought.advance (brought : reply.Brought down closed) (count : Nat) :
    reply.Brought (down.advance count) closed where
  reports := brought.reports
  carried := by
    rw [Pipe.sent_advance]
    exact brought.carried
  whole shut := by
    rw [Pipe.sent_advance]
    exact brought.whole shut

/-- A call that takes so much of the message as is still to come gets it. -/
theorem Brought.hands (brought : reply.Brought down closed) {count : Nat}
    (due : down.taken.length + count ≤ reply.wire.length) {answer : Except IoError Bytes}
    {down' : Pipe} (hands : down.Hands closed count answer down') :
    ∃ bytes, answer = .ok bytes ∧ bytes.length = count ∧ down'.taken = down.taken ++ bytes ∧
      reply.Brought down' closed := by
  cases answer with
  | ok bytes =>
    obtain ⟨there, rfl, rfl⟩ := hands
    exact ⟨_, rfl, List.length_take_of_le there, rfl, brought.advance count⟩
  | error error =>
    obtain ⟨shut, short, -⟩ := hands
    have := brought.length_le shut
    omega

end Message

namespace Engine

variable {down down' : Pipe} {closed : Prop} {reply : Message} {h : Handle}

/-- What can come of a look at a connection that brings `reply`: it goes on, closer to its end, or nothing
is there yet and everything is left, or the answer is taken as a whole. `left` answers were to come at most,
and a look that is shown all of the message, if `prompt` says so, does not find nothing. -/
inductive Finds (reply : Message) (down : Pipe) (prompt : Prop) (left : Nat) (e : Engine)
    (h : Handle) : Engine × Progress → Prop
  | further (op : Operation) (same : op.handle = h) (reads : op.reads = true)
      (awaits : op.Awaits down) (closer : op.left < left) :
      Finds reply down prompt left e h (e, .waiting op)
  | nothing (unread : down.taken = []) (late : ¬ prompt) :
      Finds reply down prompt left e h (e.settle h (.ok none))
  | answered (took : down.taken = reply.wire) :
      Finds reply down prompt left e h (e.settle h (.ok (some reply.normal)))

theorem finds_headerPeeked (brought : reply.Brought down closed) (unread : down.taken = [])
    {answer : Except IoError Bytes} (shows : down.Shows closed headerLength answer) (e : Engine) :
    Finds reply down (reply.wire <+: down.sent ∧ down.ShowsAll headerLength answer) 3 e h
      (e.headerPeeked h answer) := by
  have held : down.sent = down.held := by rw [Pipe.sent, unread, List.nil_append]
  have long (whole : reply.wire <+: down.sent) : headerLength ≤ down.held.length :=
    held ▸ Nat.le_trans reply.headerLength_le_wire whole.length_le
  unfold headerPeeked
  split
  · rename_i bytes
    obtain ⟨there, -, shut⟩ := shows
    split
    · rename_i empty
      obtain ⟨nothing, shut⟩ := shut (List.isEmpty_iff.1 empty)
      have long := brought.length_le shut
      rw [unread, nothing] at long
      exact absurd (Nat.le_trans reply.headerLength_le_wire long) (by decide)
    · split
      · rename_i short
        refine .nothing unread ?_
        rintro ⟨whole, all⟩
        rw [show bytes = _ from all, List.length_take_of_le (long whole)] at short
        exact Nat.lt_irrefl _ short
      · rename_i long
        obtain ⟨decoded, opens, -⟩ := brought.header (held ▸ there) (Nat.le_of_not_lt long)
        rw [opens]
        exact .further (.peekingMessage h _) rfl rfl
          ⟨unread, _, decoded, held ▸ there, Nat.le_of_not_lt long, opens, rfl⟩ (Nat.lt_succ_self 2)
  · rw [if_pos (show IoError.kind _ = .wouldBlock from shows)]
    refine .nothing unread ?_
    rintro ⟨whole, none, -⟩
    have := long whole
    rw [none] at this
    exact absurd this (by decide)

theorem finds_messagePeeked {length : Nat} (brought : reply.Brought down closed)
    (awaits : (Operation.peekingMessage h length).Awaits down) {answer : Except IoError Bytes}
    (shows : down.Shows closed length answer) (e : Engine) :
    Finds reply down (reply.wire <+: down.sent ∧ down.ShowsAll length answer) 2 e h
      (e.messagePeeked h length answer) := by
  have held : down.sent = down.held := by rw [Pipe.sent, awaits.1, List.nil_append]
  have long (whole : reply.wire <+: down.sent) : length ≤ down.held.length := by
    obtain ⟨-, opens, decoded, part, long, read, rfl⟩ := awaits
    rw [brought.length_eq part long read, ← held]
    exact whole.length_le
  unfold messagePeeked
  split
  · rename_i bytes
    split
    · rename_i short
      refine .nothing awaits.1 ?_
      rintro ⟨whole, all⟩
      rw [show bytes = _ from all, List.length_take_of_le (long whole)] at short
      exact Nat.lt_irrefl _ short
    · exact .further (.takingMessage h length) rfl rfl awaits (Nat.lt_succ_self 1)
  · rw [if_pos (show IoError.kind _ = .wouldBlock from shows)]
    refine .nothing awaits.1 ?_
    rintro ⟨whole, none, -⟩
    -- a message is not empty
    have := Nat.le_trans reply.headerLength_le_wire whole.length_le
    rw [held, none] at this
    exact absurd this (by decide)

/-- A message that was taken as a whole is settled as what it says. -/
theorem received_wire (reports : reply.Reports) (e : Engine) (h : Handle) :
    e.received h reply.wire = e.settle h (.ok (some reply.normal)) := by
  rw [received, Message.decode_wire reports.valid]

/-- What has been taken is the answer if its length is right. -/
theorem finds_received (brought : reply.Brought down closed) {message : Bytes}
    (took : down.taken = message) (length : message.length = reply.wire.length) (prompt : Prop)
    (left : Nat) (e : Engine) : Finds reply down prompt left e h (e.received h message) := by
  have eq := brought.eq_wire (took ▸ down.taken_isPrefix) length
  rw [eq] at took ⊢
  rw [received_wire brought.reports]
  exact .answered took

/-- **A look takes the answer as a whole or leaves all of it**, and it takes what it is shown all of. -/
theorem finds_resume {op : Operation} {answer : op.Answer} {up up' : Pipe}
    (heard : op.Heard up down closed answer up' down') (reads : op.reads = true)
    (awaits : op.Awaits down) (brought : reply.Brought down closed) (e : Engine) :
    Finds reply down' (reply.wire <+: down.sent ∧ op.Prompt down answer) op.left e op.handle
      (e.resume op answer) := by
  cases op with
  | sendingRequest h request => cases reads
  | flushing h mode pending => cases reads
  | armingReset h error => cases reads
  | peekingHeader h =>
    obtain ⟨shows, -, rfl⟩ := heard
    exact finds_headerPeeked brought awaits shows e
  | peekingMessage h length =>
    obtain ⟨shows, -, rfl⟩ := heard
    exact finds_messagePeeked brought awaits shows e
  | takingMessage h length =>
    obtain ⟨hands, -⟩ := heard
    obtain ⟨unread, opens, decoded, part, long, read, rfl⟩ := awaits
    have whole := brought.length_eq part long read
    obtain ⟨message, rfl, length, took, brought⟩ :=
      brought.hands (by rw [unread, whole]; exact Nat.le_of_eq (Nat.zero_add _)) hands
    rw [unread, List.nil_append] at took
    exact finds_received brought took (length.trans whole) _ _ e
  | takingHeader h =>
    obtain ⟨hands, -⟩ := heard
    have unread : down.taken = [] := awaits
    obtain ⟨header, rfl, length, took, brought⟩ :=
      brought.hands (by rw [unread]; exact reply.headerLength_le_wire) hands
    rw [unread, List.nil_append] at took
    obtain ⟨decoded, opens, -⟩ :=
      brought.header (took ▸ down'.taken_isPrefix) (Nat.le_of_eq length.symm)
    show Finds reply down' _ 2 e h (e.headerTaken h (.ok header))
    rw [headerTaken, opens]
    exact .further (.takingRest h header _) rfl rfl
      ⟨took, length, decoded, opens, rfl⟩ (Nat.lt_succ_self 1)
  | takingRest h header length =>
    obtain ⟨hands, -⟩ := heard
    obtain ⟨rfl, long, decoded, opens, rfl⟩ := awaits
    have whole := brought.length_eq down.taken_isPrefix (Nat.le_of_eq long.symm) opens
    have := reply.headerLength_le_wire
    obtain ⟨rest, rfl, length, took, brought⟩ := brought.hands (by omega) hands
    refine finds_received brought took ?_ _ _ e
    rw [List.length_append, length]
    omega

end Engine

/-! ## Beginning a look -/

theorem Registry.Alone.forall_lookup {σ : Type} {r : Registry σ} {h : Handle} {s : σ}
    (alone : r.Alone h s) {P : σ → Prop} (holds : P s) : ∀ s', r.lookup h = some s' → P s' := by
  intro s' found
  rw [alone.lookup] at found
  cases found
  exact holds

/-- The first socket call of a look: what is left of the request goes out before anything is read. -/
def Operation.first (h : Handle) (mode : WaitMode) (pending : Bytes) : Operation :=
  if pending = [] then
    match mode with
    | .polling => .peekingHeader h
    | .blocking => .takingHeader h
  else .flushing h mode pending

namespace Operation

theorem first_of_pending {pending : Bytes} (left : pending ≠ []) (h : Handle) (mode : WaitMode) :
    first h mode pending = .flushing h mode pending := if_neg left

theorem handle_first (h : Handle) (mode : WaitMode) (pending : Bytes) :
    (first h mode pending).handle = h := by
  unfold first
  split
  · cases mode <;> rfl
  · rfl

theorem awaits_first {down : Pipe} (unread : down.taken = []) (h : Handle) (mode : WaitMode)
    (pending : Bytes) : (first h mode pending).Awaits down := by
  unfold first
  split
  · cases mode <;> exact unread
  · exact unread

theorem due_first {request accepted pending : Bytes} (split : accepted ++ pending = request)
    (config : ClientConfig) (h : Handle) (mode : WaitMode) :
    ((first h mode pending).call config).Due request accepted pending := by
  unfold first
  split
  · rename_i out
    rw [out, List.append_nil] at split
    cases mode <;> exact ⟨out, split⟩
  · exact ⟨rfl, ‹_›, split⟩

end Operation

namespace Engine

variable {e : Engine} {h : Handle} {s : RedirectState}

theorem flush_eq (found : e.table.lookup h = some s) (mode : WaitMode) :
    e.flush h mode = (e, .waiting (.first h mode s.pending)) := by
  rw [flush, found]
  simp only [List.isEmpty_iff, Operation.first]
  split
  · cases mode <;> rfl
  · rfl

/-- Whether a call waits for the answer. -/
def Call.mode : Call → WaitMode
  | await => .blocking
  | connect _ | readable | send => .polling

/-- Whoever looks at an idle entry gets the claim. -/
theorem start_of_idle (found : e.table.lookup h = some s) (awaits : s.phase = .awaitingRedirect)
    (free : s.claimed = false) {call : Call} (looks : call.destination? = none) :
    e.start h call =
      (e.update h RedirectState.claim, .waiting (.first h call.mode s.pending)) := by
  have drive (mode : WaitMode) : e.drive h mode =
      (e.update h RedirectState.claim, .waiting (.first h mode s.pending)) := by
    have found' : (e.update h RedirectState.claim).table.lookup h = some s.claim := by
      rw [update, Registry.lookup_update_self, found]
      rfl
    rw [Engine.drive, found]
    simp only [awaits, free, Bool.false_eq_true, if_false]
    exact flush_eq found' mode
  cases call with
  | connect destination => cases looks
  | readable => exact drive .polling
  | send => exact drive .polling
  | await => exact drive .blocking

/-- A caller has nothing to wait for on an entry that is not there for it. -/
theorem start_of_calm {call : Call}
    (calm : ∀ s, e.table.lookup h = some s → (s.phase = .created → call.destination? = none) ∧
      (s.phase = .awaitingRedirect → s.claimed = true ∨ call.destination? ≠ none)) :
    ∃ r, e.start h call = (e, .done r) := by
  have drive (looks : call.destination? = none) (mode : WaitMode) :
      ∃ r, e.drive h mode = (e, .done r) := by
    unfold Engine.drive
    split
    · exact ⟨_, rfl⟩
    · rename_i s found
      split
      · rename_i awaits
        rcases (calm s found).2 awaits with claimed | asks
        · rw [if_pos claimed]
          exact ⟨_, rfl⟩
        · exact absurd looks asks
      · exact ⟨_, rfl⟩
      · exact ⟨_, rfl⟩
      · exact ⟨_, rfl⟩
  cases call with
  | connect destination =>
    show ∃ r, e.tryConnect h destination = (e, .done r)
    unfold tryConnect
    split
    · exact ⟨_, rfl⟩
    · rename_i s found
      have late : s.phase ≠ .created := fun fresh => nomatch (calm s found).1 fresh
      rw [if_pos late]
      exact ⟨_, rfl⟩
  | readable => exact drive rfl .polling
  | send => exact drive rfl .polling
  | await => exact drive rfl .blocking

/-- A request with a proper cookie can be written. -/
theorem request_of_proper {cookie : Option Bytes}
    (proper : ∀ c, cookie = some c → 1 ≤ c.length ∧ c.length ≤ 256) (destination : SocketAddress) :
    request destination cookie = .ok (Message.request destination cookie).wire := by
  rw [request_eq_encode]
  exact Message.encode_of_valid ⟨by simp [Message.request], proper⟩

/-! ## Where a redirect has got to -/

/-- A redirect of `h`, whose connection has been read as far as `down` shows, and what was told of it:
nothing as long as nothing but a part of a look has been read, and otherwise what was read. -/
inductive Stance (h : Handle) (w : World) (log : List Event) (down : Pipe) :
    Option (Except RedirectError Unit) → Prop
  | seeking {s : RedirectState} (alone : w.engine.table.Alone h s)
      (standing : Standing w.engine.config (asked h log) (accepted h log) s (w.flying h))
      (going : s.phase ≠ .failed) (awaits : ∀ c ∈ w.flying h, c.op.Awaits down)
      (unread : w.flying h = [] → down.taken = []) : Stance h w log down none
  | resolved (untracked : w.engine.table.contains h = false) (quiet : w.flying h = [])
      (took : down.taken = Message.empty.wire) : Stance h w log down (some (.ok ()))
  | failed {s : RedirectState} {code : ErrorCode} (alone : w.engine.table.Alone h s)
      (standing : Standing w.engine.config (asked h log) (accepted h log) s (w.flying h))
      (failed : s.phase = .failed)
      (arms : ∀ c ∈ w.flying h, c.op = .armingReset h (.rejected code))
      (took : down.taken = (Message.failure code).wire) (named : code.registered = code) :
      Stance h w log down (some (.error (.rejected code)))

namespace Stance

variable {w w' : World} {log log' : List Event} {down down' : Pipe}
  {told : Option (Except RedirectError Unit)}

/-- What happens elsewhere is no matter, nor what else arrives. -/
theorem frame (stance : Stance h w log down told) (config : w'.engine.config = w.engine.config)
    (untracked : w.engine.table.contains h = false → w'.engine.table.contains h = false)
    (alone : ∀ s, w.engine.table.Alone h s → w'.engine.table.Alone h s)
    (flying : w'.flying h = w.flying h) (asks : asked h log' = asked h log)
    (accepts : accepted h log' = accepted h log) (taken : down'.taken = down.taken)
    (grows : down.sent <+: down'.sent) : Stance h w' log' down' told := by
  cases stance with
  | @seeking s alone' standing going awaits unread =>
    refine .seeking (alone s alone') ?_ going ?_ ?_
    · rw [config, asks, accepts, flying]
      exact standing
    · rw [flying]
      exact fun c mem => (awaits c mem).grows taken grows
    · rw [flying, taken]
      exact unread
  | resolved untracked' quiet took =>
    exact .resolved (untracked untracked') (flying.trans quiet) (taken.trans took)
  | @failed s code alone' standing phase arms took named =>
    refine .failed (alone s alone') ?_ phase ?_ (taken.trans took) named
    · rw [config, asks, accepts, flying]
      exact standing
    · rw [flying]
      exact arms

theorem of_driven {c : Caller} (flies : w.flying h = [c]) {s : RedirectState}
    (alone : w.engine.table.Alone h s)
    (standing : Standing w.engine.config (asked h log) (accepted h log) s [c])
    (going : s.phase ≠ .failed) (awaits : c.op.Awaits down) : Stance h w log down none := by
  refine .seeking alone (flies ▸ standing) going ?_ ?_
  · rw [flies]
    rintro _ (_ | ⟨_, ⟨⟩⟩)
    exact awaits
  · rw [flies]
    exact nofun

theorem of_idle (flies : w.flying h = []) {s : RedirectState} (alone : w.engine.table.Alone h s)
    (standing : Standing w.engine.config (asked h log) (accepted h log) s [])
    (going : s.phase ≠ .failed) (unread : down.taken = []) : Stance h w log down none := by
  refine .seeking alone (flies ▸ standing) going ?_ fun _ => unread
  rw [flies]
  exact nofun

/-- A call that changes nothing is no matter. -/
theorem calm (stance : Stance h w log down told) {again : Option SocketAddress}
    (late : again = none ∨ ∀ s, w.engine.table.lookup h = some s → s.phase ≠ .created)
    (asks : asked h log' = (asked h log).or again) (accepts : accepted h log' = accepted h log) :
    Stance h w log' down told := by
  cases stance with
  | @seeking s alone standing going awaits unread =>
    refine .seeking alone ?_ going awaits unread
    rw [asks, accepts]
    exact standing.or_asked (late.imp_right fun late => late s alone.lookup)
  | resolved untracked quiet took => exact .resolved untracked quiet took
  | @failed s code alone standing phase arms took named =>
    refine .failed alone ?_ phase arms took named
    rw [asks, accepts]
    exact standing.or_asked (late.imp_right fun late => late s alone.lookup)

/-- **A call takes a claim that nobody has, or changes nothing.** -/
theorem call (stance : Stance h w log down told)
    (proper : ∀ c, w.engine.config.cookie = some c → 1 ≤ c.length ∧ c.length ≤ 256) {call : Call}
    {p : Progress} (started : w.engine.start h call = (e, p)) :
    Stance h { w with engine := e, inFlight := p.callers (w.trackings h) ++ w.inFlight }
      (log ++ [.called h (w.trackings h) call p]) down told := by
  have asks : asked h (log ++ [.called h (w.trackings h) call p]) =
      (asked h log).or call.destination? := by
    rw [asked_snoc, Event.destination?, if_pos rfl]
  have accepts : accepted h (log ++ [.called h (w.trackings h) call p]) = accepted h log := by
    rw [accepted_snoc]
    exact List.append_nil _
  have nothing (fresh : ∀ s, w.engine.table.lookup h = some s → s.phase = .created →
        call.destination? = none)
      (idle : ∀ s, w.engine.table.lookup h = some s → s.phase = .awaitingRedirect →
        s.claimed = true ∨ call.destination? ≠ none) :
      Stance h { w with engine := e, inFlight := p.callers (w.trackings h) ++ w.inFlight }
        (log ++ [.called h (w.trackings h) call p]) down told := by
    obtain ⟨r, eq⟩ := start_of_calm fun s found => ⟨fresh s found, idle s found⟩
    rw [eq] at started
    cases started
    refine stance.calm ?_ asks accepts
    by_cases looks : call.destination? = none
    · exact .inl looks
    · exact .inr fun s found created => looks (fresh s found created)
  have flies {op : Operation} (same : op.handle = h) (quiet : w.flying h = []) (e : Engine) :
      World.flying
        { w with engine := e, inFlight := (Progress.waiting op).callers (w.trackings h) ++ w.inFlight }
        h = [⟨w.trackings h, op⟩] := by
    rw [flying_call (by rintro _ ⟨⟩; exact same), if_pos rfl, quiet]
    rfl
  cases stance with
  | @seeking s alone standing going awaits unread =>
    generalize quiet : w.flying h = callers at standing
    cases standing with
    | created unasked none =>
      cases call with
      | connect destination =>
        have written := request_of_proper proper destination
        rw [start_of_created alone.lookup rfl written] at started
        cases started
        refine of_driven (flies rfl quiet _) (alone.update_self _) ?_ (by rintro ⟨⟩)
          (unread quiet)
        rw [asks, accepts, unasked]
        exact .driven rfl written ⟨rfl, none, rfl⟩
      | _ => exact nothing (fun _ _ _ => rfl) (alone.forall_lookup (by rintro ⟨⟩))
    | @idle destination request pending asked' written split =>
      by_cases looks : call.destination? = none
      · rw [start_of_idle alone.lookup rfl rfl looks] at started
        cases started
        refine of_driven (flies (Operation.handle_first h call.mode pending) quiet _)
          (alone.update_self _) ?_ (by rintro ⟨⟩) (Operation.awaits_first (unread quiet) ..)
        rw [asks, accepts, looks, Option.or_none]
        exact .driven asked' written (Operation.due_first split ..)
      · exact nothing (alone.forall_lookup (by rintro ⟨⟩)) fun _ _ _ => .inr looks
    | driven asked' written due =>
      exact nothing (alone.forall_lookup (by rintro ⟨⟩)) (alone.forall_lookup fun _ => .inl rfl)
    | resetting asked' arms => exact absurd rfl going
    | failed asked' => exact absurd rfl going
  | resolved untracked quiet took =>
    have none := Registry.lookup_of_untracked untracked
    exact nothing (by rw [none]; rintro _ ⟨⟩) (by rw [none]; rintro _ ⟨⟩)
  | @failed s code alone standing phase arms took named =>
    refine nothing (alone.forall_lookup ?_) (alone.forall_lookup ?_)
    · rw [phase]
      rintro ⟨⟩
    · rw [phase]
      rintro ⟨⟩

variable {reply : Message} {p : Progress} {flying : List Caller} {destination : SocketAddress}
  {request pending : Bytes} {n : Nat}

/-- What a caller is told of a message, and what becomes of it then. -/
theorem settle_reply (e : Engine) (h : Handle) (reports : reply.Reports) :
    reply = .empty ∧ e.settle h (.ok (some reply.normal)) =
      ((e.update h RedirectState.resolve).remove h, .done (.read (.ok .resolved))) ∨
    ∃ code, reply = .failure code ∧ code.registered = code ∧ e.settle h (.ok (some reply.normal)) =
      (e.update h RedirectState.fail, .waiting (.armingReset h (.rejected code))) := by
  rcases reports with rfl | ⟨code, rfl, named⟩
  · exact .inl ⟨rfl, rfl⟩
  · refine .inr ⟨code, rfl, named, ?_⟩
    show e.fail h (.rejected code.registered) = _
    rw [named]
    rfl

/-- Whoever has the claim when the request is out goes on looking, stops, or has the answer. -/
theorem of_finds {e₀ : Engine} {result : Engine × Progress} {prompt : Prop} {left : Nat}
    (finds : Finds reply down prompt left e₀ h result)
    (resumed : result = (e, p)) (reports : reply.Reports)
    (asks : asked h log = some destination)
    (written : Engine.request destination e₀.config.cookie = .ok (accepted h log))
    (alone : e₀.table.Alone h
      { phase := .awaitingRedirect, destination := some destination, cookie := e₀.config.cookie
        claimed := true })
    (flies : World.flying { w with engine := e, inFlight := flying } h = p.callers n) :
    Stance h { w with engine := e, inFlight := flying } log down p.verdict? := by
  cases finds with
  | further op same reads awaits =>
    cases resumed
    have unsettled : (Progress.waiting op).verdict? = none := by
      cases op with
      | armingReset h error => cases reads
      | _ => rfl
    rw [unsettled]
    refine of_driven flies alone (.driven asks written ?_) nofun awaits
    exact (Operation.due_iff_of_reads reads e.config).2 ⟨rfl, rfl⟩
  | nothing unread =>
    cases resumed
    exact of_idle flies (alone.update_self _) (.idle asks written (List.append_nil _)) nofun unread
  | answered took =>
    rcases settle_reply e₀ h reports with ⟨rfl, eq⟩ | ⟨code, rfl, named, eq⟩
    · rw [eq] at resumed
      cases resumed
      exact .resolved (Registry.contains_remove_self _ h) flies took
    · rw [eq] at resumed
      cases resumed
      refine .failed (alone.update_self _) ?_ rfl ?_ took named
      · rw [flies]
        exact .resetting asks rfl
      · rw [flies]
        rintro _ (_ | ⟨_, ⟨⟩⟩)
        rfl

/-- What becomes of the rest of a request when nothing fails: it is out and the answer is looked for, or
a part of it is out and the caller stops. -/
theorem flushAnswered_of_heard {mode : WaitMode} {answer : Except IoError Nat} {s : RedirectState}
    {up up' : Pipe} {closed : Prop} (found : e.table.lookup h = some s) (left : s.pending = pending)
    (heard : (Operation.flushing h mode pending).Heard up down closed answer up' down') :
    ((Operation.flushing h mode pending).taken answer = pending ∧
      e.flushAnswered h mode pending answer =
        (e.update h (·.sent pending.length)).readReply h mode) ∨
    ∃ sent, (Operation.flushing h mode pending).taken answer = pending.take sent ∧
      e.flushAnswered h mode pending answer = (e.update h (·.sent sent)).settle h (.ok none) := by
  subst left
  have flushed (sent : Nat) (le : sent ≤ s.pending.length)
      (waits : mode = .blocking → sent = s.pending.length) :
      (sent = s.pending.length ∧ e.flushed h mode s.pending sent =
        (e.update h (·.sent s.pending.length)).readReply h mode) ∨
      e.flushed h mode s.pending sent = (e.update h (·.sent sent)).settle h (.ok none) := by
    rw [flushed_eq found le]
    by_cases whole : sent = s.pending.length
    · simp only [if_pos whole]
      exact .inl ⟨whole, by rw [whole]⟩
    · simp only [if_neg whole]
      cases mode with
      | polling => exact .inr rfl
      | blocking => exact absurd (waits rfl) whole
  cases answer with
  | ok count =>
    obtain ⟨le, waits, -⟩ := heard
    have min : min count s.pending.length = count := Nat.min_eq_left le
    rw [flushAnswered, min]
    rcases flushed count le waits with ⟨rfl, eq⟩ | eq
    · exact .inl ⟨List.take_length, eq⟩
    · exact .inr ⟨count, rfl, eq⟩
  | error error =>
    obtain ⟨polls, blocks, -⟩ := heard
    rw [flushAnswered, if_pos blocks]
    rcases flushed 0 (Nat.zero_le _) (fun waits => by rw [polls] at waits; cases waits) with
      ⟨none, eq⟩ | eq
    · refine .inl ⟨?_, eq⟩
      rw [List.length_eq_zero_iff.1 none.symm]
      rfl
    · exact .inr ⟨0, rfl, eq⟩

/-- The request is out but for a rest, when nothing fails. -/
theorem requestAnswered_of_heard {answer : Except IoError Nat} {up up' : Pipe} {closed : Prop}
    (heard : (Operation.sendingRequest h request).Heard up down closed answer up' down')
    (e : Engine) : ∃ rest outcome,
      (Operation.sendingRequest h request).taken answer ++ rest = request ∧
      e.requestAnswered h request answer =
        (e.update h (·.requested rest), .done (.connect (.ok outcome))) := by
  cases answer with
  | ok count =>
    refine ⟨request.drop (min count request.length), _, ?_, rfl⟩
    rw [Operation.taken, List.take_eq_take_min, List.take_append_drop]
  | error error =>
    obtain ⟨connecting, -⟩ := heard
    have sent : e.requestAnswered h request (.error error) = requestAnswered.taken e h request 0 := by
      rw [requestAnswered, if_pos connecting]
    exact ⟨request, _, rfl, sent⟩

/-- What a caller with the claim makes of an answer. -/
theorem of_due {op : Operation} (own : op.handle = h) {answer : op.Answer} {up up' : Pipe}
    {closed : Prop} (alone : w.engine.table.Alone h
      { phase := .awaitingRedirect, destination := some destination
        cookie := w.engine.config.cookie, pending, claimed := true })
    (written : Engine.request destination w.engine.config.cookie = .ok request)
    {before : Bytes} (due : (op.call w.engine.config).Due request before pending)
    (awaits : op.Awaits down) (heard : op.Heard up down closed answer up' down')
    (brought : reply.Brought down closed) (resumed : w.engine.resume op answer = (e, p))
    (asks : asked h log = some destination)
    (accepts : accepted h log = before ++ op.taken answer)
    (flies : World.flying { w with engine := e, inFlight := flying } h = p.callers n) :
    Stance h { w with engine := e, inFlight := flying } log down' p.verdict? := by
  by_cases reads : op.reads = true
  · obtain ⟨rfl, rfl⟩ := (Operation.due_iff_of_reads reads w.engine.config).1 due
    rw [Operation.taken_of_reads reads, List.append_nil] at accepts
    have finds := finds_resume heard reads awaits brought w.engine
    rw [own] at finds
    exact of_finds finds resumed brought.reports asks (accepts ▸ written) alone flies
  · have same := heard.unread (Bool.not_eq_true _ ▸ reads)
    cases op with
    | sendingRequest h' request' =>
      obtain rfl : h' = h := own
      obtain ⟨rfl, rfl, rfl⟩ := due
      obtain ⟨rest, outcome, split, eq⟩ := requestAnswered_of_heard heard w.engine
      cases eq.symm.trans resumed
      refine of_idle flies (alone.update_self _) (.idle asks written (accepts ▸ split))
        (by rintro ⟨⟩) ?_
      rw [same]
      exact awaits
    | flushing h' mode pending' =>
      obtain rfl : h' = h := own
      obtain ⟨rfl, left, split⟩ := due
      have unread : down'.taken = [] := by
        rw [same]
        exact awaits
      rcases flushAnswered_of_heard alone.lookup rfl heard with ⟨all, eq⟩ | ⟨sent, part, eq⟩
      · replace eq := eq.symm.trans resumed
        rw [all, split] at accepts
        have out := alone.update_self (·.sent pending'.length)
        rw [RedirectState.sent, List.drop_length] at out
        have finds : Finds reply down' False 4 (w.engine.update h' (·.sent pending'.length)) h'
            ((w.engine.update h' (·.sent pending'.length)).readReply h' mode) := by
          cases mode with
          | polling => exact .further (.peekingHeader h') rfl rfl unread (by decide : 3 < 4)
          | blocking => exact .further (.takingHeader h') rfl rfl unread (by decide : 2 < 4)
        exact of_finds finds eq brought.reports asks (accepts ▸ written) out flies
      · cases eq.symm.trans resumed
        refine of_idle flies ((alone.update_self _).update_self _) (.idle asks written ?_)
          (by rintro ⟨⟩) unread
        rw [accepts, part, List.append_assoc]
        exact (congrArg _ (List.take_append_drop ..)).trans split
    | armingReset h' error => exact absurd due id
    | _ => exact absurd rfl reads

/-- **An answer is taken as it was sent, and every caller is told the same of it.** -/
theorem answer (stance : Stance h w log down told) {before after : List Caller} {c : Caller}
    (place : w.inFlight = before ++ c :: after) (own : c.handle = h) {answer : c.op.Answer}
    {up up' : Pipe} {closed : Prop} (heard : c.op.Heard up down closed answer up' down')
    (brought : reply.Brought down closed)
    (resumed : w.engine.resume c.op answer = (e, p)) :
    Stance h { w with engine := e, inFlight := before ++ p.callers c.tracking ++ after }
      (log ++ [.answered c answer p]) down' (told.or p.verdict?) ∧
    (told = none ∨ p.verdict? = told) := by
  have confined := confined_resume w.engine c.op answer
  rw [resumed] at confined
  have flying := flying_answer (p := p) place confined.handle e h
  rw [if_pos own] at flying
  obtain ⟨others, after', flying, flying'⟩ := flying
  have asks : asked h (log ++ [.answered c answer p]) = asked h log := by
    rw [asked_snoc]
    exact Option.or_none
  have accepts : accepted h (log ++ [.answered c answer p]) =
      accepted h log ++ c.op.taken answer := by
    rw [accepted_snoc, Event.taken, if_pos own]
  have mem : c ∈ w.flying h := by simp [flying]
  cases stance with
  | @seeking s alone standing going awaits unread =>
    refine ⟨?_, .inl rfl⟩
    rw [Option.none_or]
    replace awaits := awaits c mem
    -- whoever is answered is the only one in flight, and has the claim
    rw [flying] at standing
    obtain ⟨rfl, rfl⟩ := standing.eq_singleton
    rw [List.nil_append, List.append_nil] at flying'
    generalize eq : [] ++ c :: [] = callers at standing
    cases standing with
    | created unasked nothing => cases eq
    | idle asked' written split => cases eq
    | resetting asked' arms => exact absurd rfl going
    | failed asked' => cases eq
    | driven asked' written due =>
      cases eq
      exact of_due own alone written due awaits heard brought resumed (asks.trans asked')
        accepts flying'
  | resolved untracked quiet took =>
    rw [quiet] at mem
    cases mem
  | @failed s code alone standing phase arms took named =>
    obtain ⟨tracking, op⟩ := c
    obtain rfl : op = .armingReset h (.rejected code) := arms _ mem
    cases resumed
    rw [flying] at standing
    obtain ⟨rfl, rfl⟩ := standing.eq_singleton
    refine ⟨?_, .inr rfl⟩
    refine .failed alone ?_ phase ?_ ?_ named
    · rw [flying', asks]
      generalize [] ++ _ :: [] = callers at standing
      cases standing with
      | created unasked nothing => cases phase
      | idle asked' written split => cases phase
      | driven asked' written due => cases phase
      | resetting asked' arms => exact .failed asked'
      | failed asked' => exact .failed asked'
    · rw [flying']
      rintro _ ⟨⟩
    · rw [heard.unread rfl, took]

/-- What a socket takes is what comes next of the request. -/
theorem takes (stance : Stance h w log down told) {c : Caller} (mem : c ∈ w.flying h)
    (answer : c.op.Answer) : c.op.taken answer = [] ∨ ∃ destination request,
      asked h log = some destination ∧
      Engine.request destination w.engine.config.cookie = .ok request ∧
      accepted h log ++ c.op.taken answer <+: request := by
  obtain ⟨tracking, op⟩ := c
  cases stance with
  | @seeking s alone standing going awaits unread =>
    obtain ⟨others, after, flying⟩ := List.append_of_mem mem
    rw [flying] at standing
    obtain ⟨rfl, rfl⟩ := standing.eq_singleton
    generalize eq : [] ++ _ :: [] = callers at standing
    cases standing with
    | created unasked nothing => cases eq
    | idle asked' written split => cases eq
    | resetting asked' arms => exact absurd rfl going
    | failed asked' => cases eq
    | @driven destination request pending c asked' written due =>
      cases eq
      by_cases reads : op.reads = true
      · exact .inl (Operation.taken_of_reads reads answer)
      · refine .inr ⟨destination, request, asked', written, ?_⟩
        cases op with
        | sendingRequest h' request' =>
          obtain ⟨rfl, none, -⟩ := due
          rw [none, List.nil_append]
          cases answer with
          | ok count => exact List.take_prefix ..
          | error error => exact List.nil_prefix ..
        | flushing h' mode pending' =>
          obtain ⟨rfl, -, rfl⟩ := due
          rw [List.prefix_append_right_inj]
          cases answer with
          | ok count => exact List.take_prefix ..
          | error error => exact List.nil_prefix ..
        | armingReset h' error => exact absurd due id
        | _ => exact absurd rfl reads
  | resolved untracked quiet took =>
    rw [quiet] at mem
    cases mem
  | @failed s code alone standing phase arms took named =>
    obtain rfl : op = .armingReset h (.rejected code) := arms _ mem
    exact .inl rfl

/-- A redirect of which nothing has been told is idle, or one caller is at it. -/
theorem seeks (stance : Stance h w log down none) (asks : asked h log ≠ none) :
    ∃ destination request pending, asked h log = some destination ∧
      Engine.request destination w.engine.config.cookie = .ok request ∧
      ((w.flying h = [] ∧ accepted h log ++ pending = request ∧ down.taken = [] ∧
          w.engine.table.Alone h
            { phase := .awaitingRedirect, destination := some destination
              cookie := w.engine.config.cookie, pending }) ∨
        ∃ c, w.flying h = [c] ∧ c.op.Awaits down ∧
          (c.op.call w.engine.config).Due request (accepted h log) pending ∧
          w.engine.table.Alone h
            { phase := .awaitingRedirect, destination := some destination
              cookie := w.engine.config.cookie, pending, claimed := true }) := by
  cases stance with
  | @seeking s alone standing going awaits unread =>
    generalize flies : w.flying h = callers at standing awaits unread
    cases standing with
    | created unasked nothing => exact absurd unasked asks
    | idle asked' written split =>
      exact ⟨_, _, _, asked', written, .inl ⟨rfl, split, unread rfl, alone⟩⟩
    | @driven destination request pending c asked' written due =>
      exact ⟨_, _, _, asked', written, .inr ⟨c, rfl, awaits c (List.mem_singleton.2 rfl), due, alone⟩⟩
    | resetting asked' arms => exact absurd rfl going
    | failed asked' => exact absurd rfl going

end Stance

end Engine

end TransportConverter
