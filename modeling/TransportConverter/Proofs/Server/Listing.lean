import TransportConverter.Proofs.Server.Entries
/-!
# Sessions and their cells

At every moment of a run each cell of the table is that of one session and tells what this session has
got to, and each session that has entered the table and has not left it has its cell there
(`World.Sound`). A session whose destination's socket cannot be duplicated ends without leaving the
table, and its cell stays.
-/
namespace TransportConverter

namespace Server

/-! ## What a step does to the converter -/

/-- A step in which the destination's socket of a session cannot be duplicated. -/
def Event.Strands (id : Nat) : Event → Prop
  | advanced k answer => k.id = id ∧ k.stage.Strands answer
  | _ => False

/-- The session ended because its destination's socket could not be duplicated. -/
def Stranded (id : Nat) (log : List Event) : Prop := ∃ event ∈ log, event.Strands id

theorem Stranded.append {id : Nat} {log : List Event} (stranded : Stranded id log)
    (more : List Event) : Stranded id (log ++ more) := by
  obtain ⟨event, mem, strands⟩ := stranded
  exact ⟨event, List.mem_append_left _ mem, strands⟩

namespace World

variable {w w' : World} {k k' : Session} {log log' : List Event} {division : Division}

@[simp] theorem table_advance (w : World) (k : Session) (answer : k.stage.Answer) :
    (w.advance k answer).server.table = (w.next k answer).1.table := rfl

@[simp] theorem sessions_advance (w : World) (k : Session) (answer : k.stage.Answer) :
    (w.advance k answer).server.sessions = w.server.sessions.map fun other =>
      if other.id = k.id then { other with stage := (w.next k answer).2 } else other := rfl

@[simp] theorem accepted_advance (w : World) (k : Session) (answer : k.stage.Answer) :
    (w.advance k answer).server.accepted = w.server.accepted := rfl

theorem leads_next (w : World) (k : Session) (answer : k.stage.Answer) :
    k.stage.Leads w.server.toConverterState answer (w.next k answer).2 := Stage.leads_resume answer

/-- A shutdown changes nothing of a converter but its flags. -/
theorem server_sweepOn (w : World) (division : Division) (sweep : Sweep) (answer : sweep.Answer) :
    (w.sweepOn division sweep answer).server = w.server ∨
      (w.sweepOn division sweep answer).server = { w.server with draining := true } := by
  cases sweep with
  | raising => exact .inr rfl
  | listing part found => exact .inl rfl
  | looking handles =>
    left
    cases handles with
    | nil => rfl
    | cons h handles =>
      simp only [sweepOn, Sweep.resume]
      split <;> rfl
  | stopping sockets handles => exact .inl rfl
  | waiting => exact .inl rfl
  | checking part timeLeft =>
    left
    simp only [sweepOn, Sweep.resume]
    split <;> rfl
  | done drained => cases answer

/-- The sessions and the table are as they were. -/
structure Same (w w' : World) : Prop where
  sessions : w'.server.sessions = w.server.sessions
  accepted : w'.server.accepted = w.server.accepted
  table : w'.server.table = w.server.table

/-- The permits and the configuration are so, too. -/
structure Still (w w' : World) : Prop extends w.Same w' where
  config : w'.server.config = w.server.config
  permits : w'.server.permits = w.server.permits

theorem still_start {bound : Except IoError (SocketAddress × Bool)} {server : Server}
    (started : w.server.start bound = .ok server) : w.Still { w with server, sweep := none } := by
  unfold Server.start at started
  split at started
  · cases started
  · split at started <;> cases started
    exact ⟨⟨rfl, rfl, rfl⟩, rfl, rfl⟩

theorem still_sweepOn (w : World) (division : Division) (sweep : Sweep) (answer : sweep.Answer) :
    w.Still (w.sweepOn division sweep answer) := by
  rcases w.server_sweepOn division sweep answer with eq | eq
  · exact ⟨⟨by rw [eq], by rw [eq], by rw [eq]⟩, by rw [eq], by rw [eq]⟩
  · exact ⟨⟨by rw [eq], by rw [eq], by rw [eq]⟩, by rw [eq], by rw [eq]⟩

theorem same_start {bound : Except IoError (SocketAddress × Bool)} {server : Server}
    (started : w.server.start bound = .ok server) : w.Same { w with server, sweep := none } :=
  (still_start started).toSame

theorem same_sweepOn (w : World) (division : Division) (sweep : Sweep) (answer : sweep.Answer) :
    w.Same (w.sweepOn division sweep answer) := (w.still_sweepOn division sweep answer).toSame

theorem same_close (w : World) (socket : SessionSocket) (handle : Handle) :
    w.Same (w.close socket handle) := ⟨rfl, rfl, rfl⟩

/-- Only a connection that is accepted and a session that goes on change any of that. -/
theorem acts_of_step {event : Event} (step : Step division w event w') :
    (∃ handle clientAddress, event = .accepted handle clientAddress ∧
      w' = w.accept handle clientAddress) ∨
    (∃ k ∈ w.server.sessions, ∃ answer, event = .advanced k answer ∧ w' = w.advance k answer) ∨
    w.Still w' ∧ ∀ k answer, event ≠ .advanced k answer := by
  cases step with
  | start resting started => exact .inr (.inr ⟨still_start started, fun _ _ own => by cases own⟩)
  | stop resting => exact .inr (.inr ⟨⟨⟨rfl, rfl, rfl⟩, rfl, rfl⟩, fun _ _ own => by cases own⟩)
  | accept handle clientAddress => exact .inl ⟨handle, clientAddress, rfl, rfl⟩
  | advance mem answer => exact .inr (.inl ⟨_, mem, answer, rfl, rfl⟩)
  | shutdown resting => exact .inr (.inr ⟨⟨⟨rfl, rfl, rfl⟩, rfl, rfl⟩, fun _ _ own => by cases own⟩)
  | sweep goes answer =>
    exact .inr (.inr ⟨w.still_sweepOn division _ answer, fun _ _ own => by cases own⟩)
  | close mem opened lets =>
    exact .inr (.inr ⟨⟨w.same_close _ _, rfl, rfl⟩, fun _ _ own => by cases own⟩)

/-- Only they change the sessions or the table. -/
theorem same_of_step {event : Event} (step : Step division w event w') :
    (∃ handle clientAddress, event = .accepted handle clientAddress ∧
      w' = w.accept handle clientAddress) ∨
    (∃ k ∈ w.server.sessions, ∃ answer, event = .advanced k answer ∧ w' = w.advance k answer) ∨
    w.Same w' :=
  (acts_of_step step).imp_right (.imp_right fun still => still.1.toSame)

/-- A session that has just come in is the last one, and has done nothing yet. -/
theorem mem_accept {handle : Handle} {clientAddress : SocketAddress}
    (mem : k ∈ (w.accept handle clientAddress).server.sessions) : k ∈ w.server.sessions ∨
      k.id = w.server.accepted ∧ k.handle = handle ∧ k.stage = .arriving := by
  rcases List.mem_append.1 mem with mem | mem
  · exact .inl mem
  · rw [List.mem_singleton.1 mem]
    exact .inr ⟨rfl, rfl, rfl⟩

/-! ## Every cell has its session, and every session its cell -/

/-- What holds of the table at every moment of a run. -/
structure Sound (log : List Event) (w : World) : Prop where
  distinct : (w.server.sessions.map Session.id).Nodup
  below : ∀ k ∈ w.server.sessions, k.id < w.server.accepted
  table : w.server.table.Sound
  owned : ∀ c ∈ w.server.table.cells, ∃ k ∈ w.server.sessions, k.Owns c
  listed : ∀ k ∈ w.server.sessions, k.Listed w.server.table
  /-- A session that is over has left the table, or could not. -/
  left : ∀ k ∈ w.server.sessions, ∀ c ∈ w.server.table.cells, k.Owns c →
    k.stage.tracked = false → Stranded k.id log

theorem Fresh.sound (fresh : w.Fresh) : w.Sound [] := by
  obtain ⟨config, rfl⟩ := fresh.exists_config
  exact ⟨List.nodup_nil, by simp, List.nodup_nil, by simp, by simp, by simp⟩

namespace Sound

/-- Two sessions of one number are the same. -/
theorem eq_of_id (sound : w.Sound log) (mem : k ∈ w.server.sessions)
    (mem' : k' ∈ w.server.sessions) (same : k.id = k'.id) : k = k' :=
  List.inj_on_of_nodup_map sound.distinct mem mem' same

/-- A cell that tells of a session is that session's. -/
theorem owns_of_session (sound : w.Sound log) (mem : k ∈ w.server.sessions) {c : Cell SessionState}
    (there : c ∈ w.server.table.cells) (own : c.state.clientSocket.session = k.id) : k.Owns c := by
  obtain ⟨k', mem', owns⟩ := sound.owned c there
  obtain rfl := sound.eq_of_id mem' mem (owns.session.symm.trans own)
  exact owns

theorem mem_advance (sound : w.Sound log) (mem : k ∈ w.server.sessions) (answer : k.stage.Answer) :
    k' ∈ (w.advance k answer).server.sessions ↔
      k' = { k with stage := (w.next k answer).2 } ∨ k' ∈ w.server.sessions ∧ k'.id ≠ k.id := by
  rw [sessions_advance, List.mem_map]
  constructor
  · rintro ⟨other, mem', rfl⟩
    by_cases own : other.id = k.id
    · obtain rfl := sound.eq_of_id mem' mem own
      simp
    · simp [own, mem']
  · rintro (rfl | ⟨mem', other⟩)
    · exact ⟨k, mem, if_pos rfl⟩
    · exact ⟨k', mem', if_neg other⟩

theorem enters (sound : w.Sound log) (mem : k ∈ w.server.sessions) (answer : k.stage.Answer) :
    Stage.Enters k answer (w.next k answer).2 w.server.table (w.next k answer).1.table :=
  Stage.enters_resume sound.table (sound.listed k mem) rfl

/-- **The cells of other sessions stay as they are.** -/
theorem mem_cells_advance (sound : w.Sound log) (mem : k ∈ w.server.sessions)
    (answer : k.stage.Answer) {c : Cell SessionState} (other : c.state.clientSocket.session ≠ k.id) :
    c ∈ (w.advance k answer).server.table.cells ↔ c ∈ w.server.table.cells := by
  have apart (own : ∀ c ∈ w.server.table.cells, c.names k.handle = true → k.Owns c)
      (mem : c ∈ w.server.table.cells) : c.names k.handle = false := by
    refine Bool.eq_false_iff.2 fun named => other (own c mem named).session
  rw [table_advance]
  cases sound.enters mem answer with
  | stays same tells tracked => rw [same]
  | puts new sound' swaps own owns tracks bridged beside =>
    rw [swaps c]
    constructor
    · rintro (⟨⟨⟩⟩ | ⟨there, -⟩)
      · exact absurd owns.session other
      · exact there
    · exact fun there => .inr ⟨there, apart own there⟩
  | leaves sound' swaps own out =>
    rw [swaps c]
    constructor
    · rintro (⟨⟨⟩⟩ | ⟨there, -⟩)
      exact there
    · exact fun there => .inr ⟨there, apart own there⟩

/-- The cell of a session that has gone on is its new one. -/
theorem owns_advance (sound : w.Sound log) (mem : k ∈ w.server.sessions) (answer : k.stage.Answer)
    {c : Cell SessionState} (there : c ∈ (w.advance k answer).server.table.cells)
    (own : c.state.clientSocket.session = k.id) :
    Session.Owns { k with stage := (w.next k answer).2 } c := by
  have owns (mem' : c ∈ w.server.table.cells) : k.Owns c := sound.owns_of_session mem mem' own
  rw [table_advance] at there
  cases sound.enters mem answer with
  | stays same tells tracked =>
    rw [same] at there
    exact tells c (owns there)
  | puts new sound' swaps _ owns' tracks bridged beside =>
    rcases (swaps c).1 there with ⟨⟨⟩⟩ | ⟨old, apart⟩
    · exact owns'
    · rw [(owns old).names] at apart
      cases apart
  | leaves sound' swaps _ out =>
    rcases (swaps c).1 there with ⟨⟨⟩⟩ | ⟨old, apart⟩
    rw [(owns old).names] at apart
    cases apart

theorem advance (sound : w.Sound log) (mem : k ∈ w.server.sessions) (answer : k.stage.Answer) :
    (w.advance k answer).Sound (log ++ [.advanced k answer]) := by
  have kept {k' : Session} (mem' : k' ∈ w.server.sessions) (other : k'.id ≠ k.id)
      {c : Cell SessionState} (owns : k'.Owns c) :
      c ∈ (w.advance k answer).server.table.cells ↔ c ∈ w.server.table.cells :=
    sound.mem_cells_advance mem answer (owns.session ▸ other)
  refine ⟨?_, ?_, ?_, ?_, ?_, ?_⟩
  · have same : (w.advance k answer).server.sessions.map Session.id =
        w.server.sessions.map Session.id := by
      rw [sessions_advance, List.map_map]
      refine List.map_congr_left fun other _ => ?_
      simp only [Function.comp_apply]
      split <;> rfl
    rw [same]
    exact sound.distinct
  · intro k' mem'
    rcases (sound.mem_advance mem answer).1 mem' with rfl | ⟨mem', -⟩
    · exact sound.below k mem
    · exact sound.below k' mem'
  · cases sound.enters mem answer with
    | stays same tells tracked =>
      rw [table_advance, same]
      exact sound.table
    | puts new sound' swaps own owns tracks bridged beside => exact sound'
    | leaves sound' swaps own out => exact sound'
  · intro c there
    by_cases own : c.state.clientSocket.session = k.id
    · exact ⟨_, (sound.mem_advance mem answer).2 (.inl rfl), sound.owns_advance mem answer there own⟩
    · obtain ⟨k', mem', owns⟩ := sound.owned c ((sound.mem_cells_advance mem answer own).1 there)
      exact ⟨k', (sound.mem_advance mem answer).2 (.inr ⟨mem', owns.session ▸ own⟩), owns⟩
  · intro k' mem' tracked
    rcases (sound.mem_advance mem answer).1 mem' with rfl | ⟨mem', other⟩
    · rw [table_advance]
      cases sound.enters mem answer with
      | stays same tells tracks =>
        rcases tracks with tracks | ⟨out, -⟩
        · obtain ⟨c, there, owns⟩ := sound.listed k mem (tracks ▸ tracked)
          exact ⟨c, by rwa [same], tells c owns⟩
        · rw [out] at tracked
          cases tracked
      | puts new sound' swaps own owns tracks bridged beside =>
        exact ⟨new, (swaps new).2 (.inl rfl), owns⟩
      | leaves sound' swaps own out =>
        rw [out] at tracked
        cases tracked
    · obtain ⟨c, there, owns⟩ := sound.listed k' mem' tracked
      exact ⟨c, (kept mem' other owns).2 there, owns⟩
  · intro k' mem' c there owns out
    rcases (sound.mem_advance mem answer).1 mem' with rfl | ⟨mem', other⟩
    · rw [table_advance] at there
      cases sound.enters mem answer with
      | stays same tells tracks =>
        rw [same] at there
        have owns₀ := sound.owns_of_session mem there owns.session
        rcases tracks with tracks | ⟨-, strands⟩
        · exact (sound.left k mem c there owns₀ (tracks ▸ out)).append _
        · exact ⟨_, List.mem_append_right _ (List.mem_singleton_self _), rfl, strands⟩
      | puts new sound' swaps own owns' tracked bridged beside =>
        rw [tracked] at out
        cases out
      | leaves sound' swaps own out =>
        rcases (swaps c).1 there with ⟨⟨⟩⟩ | ⟨-, apart⟩
        rw [owns.names] at apart
        cases apart
    · exact (sound.left k' mem' c ((kept mem' other owns).1 there) owns out).append _

/-- Steps that are no session's leave all as it is. -/
theorem same (sound : w.Sound log) (same : w.Same w') (more : List Event) :
    w'.Sound (log ++ more) := by
  obtain ⟨sessions, accepted, table⟩ := same
  obtain ⟨distinct, below, clean, owned, listed, left⟩ := sound
  rw [← sessions] at distinct below owned listed left
  rw [← accepted] at below
  rw [← table] at clean owned listed left
  exact ⟨distinct, below, clean, owned, listed,
    fun k mem c there owns out => (left k mem c there owns out).append more⟩

/-- A session that has been accepted is not in the table yet. -/
theorem accept (sound : w.Sound log) (handle : Handle) (clientAddress : SocketAddress)
    (more : List Event) : (w.accept handle clientAddress).Sound (log ++ more) := by
  obtain ⟨distinct, below, clean, owned, listed, left⟩ := sound
  refine ⟨?_, ?_, clean, ?_, ?_, ?_⟩
  · have apart : ∀ id ∈ w.server.sessions.map Session.id, id ≠ w.server.accepted := by
      intro id mem
      obtain ⟨k, listed, rfl⟩ := List.mem_map.1 mem
      exact Nat.ne_of_lt (below k listed)
    have ids : (w.accept handle clientAddress).server.sessions.map Session.id =
        w.server.sessions.map Session.id ++ [w.server.accepted] := List.map_append
    rw [ids, List.nodup_append]
    exact ⟨distinct, List.nodup_singleton _, by simpa using apart⟩
  · intro k mem
    rcases mem_accept mem with mem | ⟨new, -⟩
    · exact Nat.lt_succ_of_lt (below k mem)
    · exact new ▸ Nat.lt_succ_self _
  · intro c there
    obtain ⟨k, mem, owns⟩ := owned c there
    exact ⟨k, List.mem_append_left _ mem, owns⟩
  · intro k mem tracked
    rcases mem_accept mem with mem | ⟨-, -, arriving⟩
    · exact listed k mem tracked
    · rw [arriving] at tracked
      cases tracked
  · intro k mem c there owns out
    rcases mem_accept mem with mem | ⟨-, -, arriving⟩
    · exact (left k mem c there owns out).append more
    · have tells := owns.tells
      rw [arriving] at tells
      exact tells.elim

theorem step {event : Event} (sound : w.Sound log) (step : Step division w event w') :
    w'.Sound (log ++ [event]) := by
  rcases same_of_step step with ⟨handle, clientAddress, rfl, rfl⟩ | ⟨k, mem, answer, rfl, rfl⟩ | same
  · exact sound.accept handle clientAddress _
  · exact sound.advance mem answer
  · exact sound.same same _

/-- **Every cell has its session and every session its cell, at every moment of a run.** -/
theorem run {rule : World → Event → Prop} (sound : w.Sound log)
    (run : Run division rule w log' w') : w'.Sound (log ++ log') := by
  induction run with
  | start =>
    rw [List.append_nil]
    exact sound
  | step _ _ next ih =>
    rw [← List.append_assoc]
    exact ih.step next

/-- What holds of the stage of a session and is kept on every way holds after the next step. -/
theorem stage_step {P : Stage → Prop} {id : Nat} {event : Event} (sound : w.Sound log)
    (kept : ∀ (s : ConverterState) (stage : Stage) (answer : stage.Answer) (stage' : Stage),
      stage.Leads s answer stage' → P stage → P stage')
    (step : Step division w event w') (holds : ∃ k ∈ w.server.sessions, k.id = id ∧ P k.stage) :
    ∃ k ∈ w'.server.sessions, k.id = id ∧ P k.stage := by
  obtain ⟨k, mem, number, holds⟩ := holds
  rcases same_of_step step with ⟨handle, clientAddress, -, rfl⟩ | ⟨k', mem', answer, -, rfl⟩ | same
  · exact ⟨k, List.mem_append_left _ mem, number, holds⟩
  · by_cases own : k.id = k'.id
    · obtain rfl := sound.eq_of_id mem mem' own
      exact ⟨_, (sound.mem_advance mem answer).2 (.inl rfl), number,
        kept _ _ answer _ (w.leads_next k answer) holds⟩
    · exact ⟨k, (sound.mem_advance mem' answer).2 (.inr ⟨mem, own⟩), number, holds⟩
  · exact ⟨k, same.sessions ▸ mem, number, holds⟩

/-- What holds at first and is kept by every step holds at the end of a run. -/
theorem run_keeps {rule : World → Event → Prop} {P : World → Prop} (sound : w.Sound log)
    (run : Run division rule w log' w') (first : P w)
    (keeps : ∀ log w event w', w.Sound log → P w → rule w event → Step division w event w' → P w') :
    P w' := by
  induction run with
  | start => exact first
  | step before allowed next ih => exact keeps _ _ _ _ (sound.run before) ih allowed next

end Sound

end World

end Server

end TransportConverter
