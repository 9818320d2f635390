import TransportConverter.Proofs.Server.Declining
import TransportConverter.Proofs.Server.Leaving
/-!
# The session limit

The permits that are left and the sessions that hold one make up the limit at every moment (`Balanced`): a
permit is taken when a connection is accepted, and comes back when its session ends, on whatever way
(`Sound.passes`). A session that was accepted when none was left only refuses its request, also when one has
come back meanwhile. `keeps_limit` puts this together.
-/
namespace TransportConverter

/-- The session took a permit and has not given it back. -/
def Session.holds (k : Session) : Bool := k.permitted && !k.stage.hasEnded

namespace Server

/-- How many sessions hold a permit. -/
def holders (s : Server) : Nat := s.sessions.countP Session.holds

theorem permits_reach (s : Server) (k : Session) (stage : Stage) :
    (s.reach k stage).permits = s.permits + if k.permitted && stage.hasEnded then 1 else 0 := by
  obtain ⟨n, handle, address, permitted, _⟩ := k
  cases stage <;> cases permitted <;> rfl

namespace World

variable {w w' : World} {k : Session} {log log' : List Event} {division : Division}

/-- The session with this number holds a permit. -/
def Holds (w : World) (id : Nat) : Prop := ∃ k ∈ w.server.sessions, k.id = id ∧ k.holds = true

/-- The permits that are left and those that are held make up the limit. -/
def Balanced (w : World) : Prop := w.server.permits + w.server.holders = w.server.config.maxSessions

theorem permits_advance (w : World) (k : Session) (answer : k.stage.Answer) :
    (w.advance k answer).server.permits =
      w.server.permits + if k.permitted && (w.next k answer).2.hasEnded then 1 else 0 :=
  permits_reach ..

/-- A session that goes on keeps its place among the others. -/
theorem Sound.sessions_split (sound : w.Sound log) (mem : k ∈ w.server.sessions)
    (answer : k.stage.Answer) : ∃ before after, w.server.sessions = before ++ k :: after ∧
      (w.advance k answer).server.sessions =
        before ++ { k with stage := (w.next k answer).2 } :: after := by
  obtain ⟨before, after, split⟩ := List.append_of_mem mem
  have distinct := sound.distinct
  rw [split, List.map_append, List.map_cons, List.nodup_middle, List.nodup_cons, ← List.map_append]
    at distinct
  have others (l : List Session) (part : ∀ k' ∈ l, k' ∈ before ++ after) : (l.map fun other =>
      if other.id = k.id then { other with stage := (w.next k answer).2 } else other) = l := by
    refine (List.map_congr_left fun other there => if_neg fun same => distinct.1 ?_).trans
      (List.map_id' l)
    exact same ▸ List.mem_map_of_mem (part other there)
  refine ⟨before, after, split, ?_⟩
  rw [sessions_advance, split, List.map_append, List.map_cons, if_pos rfl,
    others before fun _ => List.mem_append_left _, others after fun _ => List.mem_append_right _]

/-- Who goes on has not ended. -/
theorem holds_of_answer (answer : k.stage.Answer) : k.holds = k.permitted := by
  rw [Session.holds, Stage.not_hasEnded answer, Bool.not_false, Bool.and_true]

/-- A session that goes on holds its permit until it ends. -/
theorem Sound.holders_advance (sound : w.Sound log) (mem : k ∈ w.server.sessions)
    (answer : k.stage.Answer) :
    (w.advance k answer).server.holders +
      (if k.permitted && (w.next k answer).2.hasEnded then 1 else 0) = w.server.holders := by
  obtain ⟨before, after, split, split'⟩ := sound.sessions_split mem answer
  rw [Server.holders, Server.holders, split, split', List.countP_append, List.countP_append,
    List.countP_cons, List.countP_cons, holds_of_answer answer, Session.holds]
  cases k.permitted <;> cases (w.next k answer).2.hasEnded <;> simp
  omega

/-! ## The balance -/

theorem Fresh.balanced (fresh : w.Fresh) : w.Balanced := by
  obtain ⟨config, rfl⟩ := fresh.exists_config
  rfl

/-- A connection that is accepted takes a permit if one is left. -/
theorem holders_accept (w : World) (handle : Handle) (clientAddress : SocketAddress) :
    (w.accept handle clientAddress).server.holders =
      w.server.holders + if 0 < w.server.permits then 1 else 0 := by
  simp [Server.holders, accept, Server.accept, List.countP_append, Session.holds, Stage.hasEnded]

theorem Balanced.step {event : Event} (balanced : w.Balanced) (sound : w.Sound log)
    (step : Step division w event w') : w'.Balanced := by
  rcases acts_of_step step with
    ⟨handle, clientAddress, rfl, rfl⟩ | ⟨k, mem, answer, rfl, rfl⟩ | ⟨still, -⟩
  · show w.server.permits - 1 + (w.accept handle clientAddress).server.holders =
      w.server.config.maxSessions
    rw [holders_accept, ← balanced]
    split <;> omega
  · rw [Balanced, config_advance, ← balanced, permits_advance, ← sound.holders_advance mem answer]
    omega
  · rwa [Balanced, Server.holders, still.sessions, still.permits, still.config]

theorem Balanced.run {rule : World → Event → Prop} (balanced : w.Balanced) (sound : w.Sound log)
    (run : Run division rule w log' w') : w'.Balanced :=
  sound.run_keeps run balanced fun _ _ _ _ sound balanced _ step => balanced.step sound step

theorem Balanced.active (balanced : w.Balanced) :
    w.server.activeSessions = w.server.holders := by
  rw [Server.activeSessions, ← balanced, Nat.add_sub_cancel_left]

theorem Balanced.permits (balanced : w.Balanced) :
    w.server.permits = w.server.config.maxSessions - w.server.activeSessions := by
  rw [balanced.active, ← balanced, Nat.add_sub_cancel]

/-! ## Taking a permit and giving it back -/

/-- What a step does to the permits that are held: nothing, or one is taken by the connection that was
accepted, or one is given back by the session that has ended. -/
inductive Passes (w : World) : Event → World → Prop
  | keeps {event : Event} {w' : World} (permits : w'.server.permits = w.server.permits)
      (holds : ∀ id, w'.Holds id ↔ w.Holds id) : Passes w event w'
  | takes {handle : Handle} {clientAddress : SocketAddress} {w' : World}
      (permits : w'.server.permits + 1 = w.server.permits)
      (holds : ∀ id, w'.Holds id ↔ w.Holds id ∨ id = w.server.accepted) :
      Passes w (.accepted handle clientAddress) w'
  | returns {k : Session} {answer : k.stage.Answer} {w' : World} (held : w.Holds k.id)
      (permits : w'.server.permits = w.server.permits + 1)
      (holds : ∀ id, w'.Holds id ↔ w.Holds id ∧ id ≠ k.id) : Passes w (.advanced k answer) w'

theorem passes_accept (w : World) (handle : Handle) (clientAddress : SocketAddress) :
    w.Passes (.accepted handle clientAddress) (w.accept handle clientAddress) := by
  have holds (id : Nat) : (w.accept handle clientAddress).Holds id ↔
      w.Holds id ∨ 0 < w.server.permits ∧ id = w.server.accepted := by
    simp only [Holds, accept, Server.accept, List.mem_append, List.mem_singleton, or_and_right,
      exists_or, exists_eq_left]
    refine or_congr_right ?_
    simp [Session.holds, Stage.hasEnded, eq_comm, and_comm]
  by_cases room : 0 < w.server.permits
  · refine .takes (Nat.sub_add_cancel room) fun id => (holds id).trans ?_
    rw [and_iff_right room]
  · refine .keeps ?_ fun id => (holds id).trans (or_iff_left fun new => room new.1)
    show w.server.permits - 1 = w.server.permits
    omega

theorem Sound.passes_advance (sound : w.Sound log) (mem : k ∈ w.server.sessions)
    (answer : k.stage.Answer) : w.Passes (.advanced k answer) (w.advance k answer) := by
  have permits := w.permits_advance k answer
  have before (id : Nat) (own : id = k.id) : w.Holds id ↔ k.permitted = true := by
    constructor
    · rintro ⟨k', mem', number, holds⟩
      rw [sound.eq_of_id mem' mem (number.trans own)] at holds
      exact holds_of_answer answer ▸ holds
    · exact fun permitted => ⟨k, mem, own.symm, (holds_of_answer answer).trans permitted⟩
  have after (id : Nat) (own : id = k.id) : (w.advance k answer).Holds id ↔
      k.permitted = true ∧ (w.next k answer).2.hasEnded = false := by
    have gone := (sound.mem_advance mem answer).2 (.inl rfl)
    rw [← Bool.not_eq_true', ← Bool.and_eq_true]
    constructor
    · rintro ⟨k', mem', number, holds⟩
      rcases (sound.mem_advance mem answer).1 mem' with rfl | ⟨-, other⟩
      · exact holds
      · exact (other (number.trans own)).elim
    · exact fun holds => ⟨_, gone, own.symm, holds⟩
  have others (id : Nat) (other : id ≠ k.id) : (w.advance k answer).Holds id ↔ w.Holds id := by
    constructor
    · rintro ⟨k', mem', rfl, holds⟩
      rcases (sound.mem_advance mem answer).1 mem' with rfl | ⟨mem', -⟩
      · exact (other rfl).elim
      · exact ⟨k', mem', rfl, holds⟩
    · rintro ⟨k', mem', rfl, holds⟩
      exact ⟨k', (sound.mem_advance mem answer).2 (.inr ⟨mem', other⟩), rfl, holds⟩
  by_cases ends : k.permitted = true ∧ (w.next k answer).2.hasEnded = true
  · refine .returns ((before k.id rfl).2 ends.1) (by rw [permits, ends.1, ends.2]; rfl) fun id => ?_
    by_cases own : id = k.id
    · rw [after id own, ends.2]
      simp [own]
    · rw [others id own, and_iff_left own]
  · refine .keeps (by rw [permits, if_neg (by simpa using ends), Nat.add_zero]) fun id => ?_
    by_cases own : id = k.id
    · rw [after id own, before id own]
      simpa using ends
    · exact others id own

/-- **A permit is held from the step that accepts its connection to the step that ends its session.** -/
theorem Sound.passes {event : Event} (sound : w.Sound log) (step : Step division w event w') :
    w.Passes event w' := by
  rcases acts_of_step step with
    ⟨handle, clientAddress, rfl, rfl⟩ | ⟨k, mem, answer, rfl, rfl⟩ | ⟨still, -⟩
  · exact w.passes_accept handle clientAddress
  · exact sound.passes_advance mem answer
  · exact .keeps still.permits fun id => by rw [Holds, Holds, still.sessions]

/-- A session that has ended stays as it is. -/
theorem Sound.ended {rule : World → Event → Prop} (sound : w.Sound log)
    (mem : k ∈ w.server.sessions) (ended : k.stage.hasEnded = true)
    (run : Run division rule w log' w') : k ∈ w'.server.sessions := by
  refine sound.run_keeps (P := fun w => k ∈ w.server.sessions) run mem
    fun log w event w' sound mem _ step => ?_
  rcases acts_of_step step with
    ⟨handle, clientAddress, -, rfl⟩ | ⟨k', mem', answer, -, rfl⟩ | ⟨still, -⟩
  · exact List.mem_append_left _ mem
  · refine (sound.mem_advance mem' answer).2 (.inr ⟨mem, fun same => ?_⟩)
    rw [sound.eq_of_id mem mem' same, Stage.not_hasEnded answer] at ended
    cases ended
  · rwa [still.sessions]

/-- Connections that are accepted one after the other. -/
def acceptAll (w : World) (connections : List (Handle × SocketAddress)) : World :=
  connections.foldl (fun w connection => w.accept connection.1 connection.2) w

theorem run_acceptAll (w : World) (connections : List (Handle × SocketAddress)) :
    Run division AnyRule w (connections.map fun connection => .accepted connection.1 connection.2)
      (w.acceptAll connections) := by
  induction connections generalizing w with
  | nil => exact .start
  | cons connection connections ih =>
    exact (Run.start.step trivial (.accept ..)).append (ih _)

/-- **As many connections get a permit as there are left.** -/
theorem permitted_acceptAll (w : World) (connections : List (Handle × SocketAddress))
    (room : connections.length ≤ w.server.permits) : ∃ new, (w.acceptAll connections).server.sessions =
      w.server.sessions ++ new ∧ new.length = connections.length ∧
        ∀ k ∈ new, k.permitted = true := by
  induction connections generalizing w with
  | nil => exact ⟨[], (List.append_nil _).symm, rfl, by simp⟩
  | cons connection connections ih =>
    rw [List.length_cons] at room
    obtain ⟨new, sessions, length, permitted⟩ := ih (w.accept connection.1 connection.2)
      (Nat.le_sub_one_of_lt room)
    refine ⟨_ :: new, sessions.trans (List.append_assoc ..), by simp [length], fun k mem => ?_⟩
    rcases List.mem_cons.1 mem with rfl | mem
    · exact decide_eq_true (Nat.zero_lt_of_lt room)
    · exact permitted k mem

/-! ## What the limit comes to -/

/-- The session with this number has no permit. It does not connect; and once its request has come in and
decodes, it gives its client the message that the limit is exceeded: all of it, unless the client takes no
more. -/
def TurnsAway (id : Nat) (log : List Event) (w : World) : Prop :=
  ∃ k ∈ w.server.sessions, k.id = id ∧ k.permitted = false ∧
    (∀ destination within, .connect destination within ∉ k.stage.calls w.server.config) ∧
    (Asked id log → ∃ rest, given id log ++ rest = (Message.failure .resourceExceeded).wire ∧
      (k.stage = .rejecting (.rejected .resourceExceeded) rest ∨
        k.stage.FailedFor (.rejected .resourceExceeded) ∧ (rest = [] ∨ Cut id log)))

theorem Declines.turnsAway {id : Nat} (declines : w.Declines id log) : w.TurnsAway id log := by
  obtain ⟨k, mem, number, refused, stands⟩ := declines
  exact ⟨k, mem, number, refused, stands.not_connect _, stands.told⟩

/-- What holds of the limit at a moment of a run, and from then on. -/
structure KeepsLimit (division : Division) (w : World) : Prop where
  /-- The permits held are those of the sessions that took one and have not ended. -/
  active : w.server.activeSessions = w.server.holders
  limit : w.server.activeSessions ≤ w.server.config.maxSessions
  /-- No more permits are left than there are, so that the ones held are counted right. -/
  room : w.server.permits ≤ w.server.config.maxSessions
  /-- Each step passes on as many permits as sessions begin or cease to hold one. -/
  passes : ∀ event w', Step division w event w' → w.Passes event w'
  /-- A session that has ended does not go on, and so gives nothing back again. -/
  ended : ∀ k ∈ w.server.sessions, k.stage.hasEnded = true →
    ∀ log w', Run division AnyRule w log w' → k ∈ w'.server.sessions
  /-- A connection that is accepted while all permits are held is turned away. -/
  full : w.server.activeSessions = w.server.config.maxSessions → ∀ handle clientAddress log w',
    Run division AnyRule (w.accept handle clientAddress) log w' →
      w'.TurnsAway w.server.accepted log
  /-- As many connections get a permit as are not held. -/
  free : ∀ connections : List (Handle × SocketAddress),
    w.server.activeSessions + connections.length ≤ w.server.config.maxSessions →
      ∃ log w' new, Run division AnyRule w log w' ∧
        log = connections.map (fun connection => .accepted connection.1 connection.2) ∧
        w'.server.sessions = w.server.sessions ++ new ∧ new.length = connections.length ∧
        ∀ k ∈ new, k.permitted = true
  idle : (∀ k ∈ w.server.sessions, k.stage.hasEnded = true) → w.server.activeSessions = 0

/-- **The limit holds and no permit is lost**, however connections that are accepted and sessions that end,
fail or are turned away come between one another. -/
theorem keeps_limit (fresh : w.Fresh) (run : Run division AnyRule w log w') :
    w'.KeepsLimit division := by
  have sound : w'.Sound log := fresh.sound.run run
  have balanced := fresh.balanced.run fresh.sound run
  constructor
  case active => exact balanced.active
  case limit => exact Nat.sub_le ..
  case room =>
    rw [balanced.permits]
    exact Nat.sub_le ..
  case passes =>
    intro event w'' step
    exact sound.passes step
  case ended =>
    intro k mem ended log' w'' later
    exact sound.ended mem ended later
  case full =>
    intro full handle clientAddress log' w'' later
    have none : w'.server.permits = 0 := by rw [balanced.permits, full, Nat.sub_self]
    have sound' := sound.accept handle clientAddress []
    exact ((declines_accept none handle clientAddress).run sound' later).turnsAway
  case free =>
    intro connections fits
    have room : connections.length ≤ w'.server.permits := by
      rw [balanced.permits]
      omega
    obtain ⟨new, sessions, length, permitted⟩ := w'.permitted_acceptAll connections room
    exact ⟨_, _, new, w'.run_acceptAll connections, rfl, sessions, length, permitted⟩
  case idle =>
    intro done
    rw [balanced.active, Server.holders, List.countP_eq_zero]
    intro k mem
    rw [Session.holds, done k mem]
    simp

/-- With a limit of one, the first connection takes the only permit and the second is accepted without. -/
theorem keeps_limit_of_one :
    let division : Division := ⟨1, fun _ => 0⟩
    let w : World := { server := { config := { maxSessions := 1 } } }
    ∃ log w', w.Fresh ∧ Run division AnyRule w log w' ∧
      w'.server.sessions.map Session.permitted = [true, false] ∧ w'.server.activeSessions = 1 ∧
      w'.KeepsLimit division := by
  intro division w
  have fresh : w.Fresh := ⟨{ maxSessions := 1 }, _, rfl, rfl⟩
  have first : Run division AnyRule w _ (w.accept ⟨7⟩ (.v4 ⟨192, 0, 2, 9⟩ 50000)) :=
    Run.start.step trivial (.accept ..)
  have second := first.step trivial (.accept ⟨8⟩ (.v4 ⟨192, 0, 2, 10⟩ 50001))
  exact ⟨_, _, fresh, second, rfl, rfl, keeps_limit fresh second⟩

end World

end Server

end TransportConverter
