import TransportConverter.Proofs.Server.Progression
/-!
# What is reported of a session

The report on a session (`session_stats`) is put together from its state in the table and from what the
system answers about its sockets. Whoever knows the stages that the session has gone through, in order
(`trail`), can tell each part of it without a look at the table (`SessionStats.Tells`). One step of the
session keeps its state to its trail (`SessionState.Follows`), steps of others leave both alone, and so a
whole run does (`World.Fresh.follows`).
-/
namespace TransportConverter

namespace Stage

/-- The phase that is recorded at a stage. -/
def phase? : Stage → Option SessionPhase
  | announcing => some .headerPending
  | admitted _ => some .connecting
  | recording _ => some .bridging
  | finishing _ => some .closed
  | marking _ => some .rejected
  | _ => none

/-- The destination that is recorded at a stage. -/
def destination? : Stage → Option SocketAddress
  | admitted destination => some destination
  | _ => none

/-- The bytes of a piece that is counted at a stage. -/
def counts (d : Direction) : Stage → Nat
  | counting d' count _ _ => if d' = d then count else 0
  | _ => 0

/-- The bridge is recorded at a stage, and the destination's socket with it. -/
def recordsBridge : Stage → Bool
  | recording _ => true
  | _ => false

end Stage

/-! ## Stages and what they record -/

/-- The phase that a session was in last. -/
def Stage.lastPhase (stages : List Stage) : SessionPhase :=
  (stages.filterMap phase?).getLast?.getD .accepted

def Stage.lastDestination? (stages : List Stage) : Option SocketAddress :=
  (stages.filterMap destination?).getLast?

/-- All bytes of a direction that have been counted. -/
def Stage.total (d : Direction) (stages : List Stage) : Nat :=
  stages.foldl (fun sum stage => sum + stage.counts d) 0

/-- The report tells of the session that has gone through these stages. -/
structure SessionStats.Tells (system : SocketInfo SessionSocket) (k : Session) (stages : List Stage)
    (report : SessionStats) : Prop where
  phase : report.phase = Stage.lastPhase stages
  clientAddress : report.clientAddress = k.clientAddress
  destination : report.destination = Stage.lastDestination? stages
  bytesUp : report.bytesUp = Stage.total .upward stages
  bytesDown : report.bytesDown = Stage.total .downward stages
  client : report.client = (system.stats k.clientSocket).toOption
  /-- The system is asked about the destination's socket once the bridge is recorded. -/
  destinationConnection : report.destinationConnection =
    if stages.any Stage.recordsBridge then (system.stats k.destinationSocket).toOption else none

namespace SessionState

/-- The bytes that a state tells of a direction. -/
def bytes (d : Direction) (s : SessionState) : Nat :=
  (s.bridge.map fun b => (b.direction d).bytes).getD 0

/-- The state is what the session has made of it at these stages. -/
structure Follows (k : Session) (stages : List Stage) (s : SessionState) : Prop where
  phase : s.phase = Stage.lastPhase stages
  clientAddress : s.clientAddress = k.clientAddress
  destination : s.destination = Stage.lastDestination? stages
  bytes : ∀ d, s.bytes d = Stage.total d stages
  clientSocket : s.clientSocket = k.clientSocket
  destinationSocket : s.destinationSocket =
    if stages.any Stage.recordsBridge then some k.destinationSocket else none

variable {k : Session} {stage : Stage} {stages : List Stage} {s : SessionState}
  {partner : Option Handle}

/-- **What is reported of a state that follows the session tells of this session.** -/
theorem Follows.stats (follows : s.Follows k stages) (system : SocketInfo SessionSocket) :
    (s.stats system).Tells system k stages where
  phase := follows.phase
  clientAddress := follows.clientAddress
  destination := follows.destination
  bytesUp := follows.bytes .upward
  bytesDown := follows.bytes .downward
  client := by rw [← follows.clientSocket]; rfl
  destinationConnection := by
    change s.destinationSocket.bind _ = _
    rw [follows.destinationSocket]
    split <;> rfl

end SessionState

namespace Stage

variable {k : Session} {stage : Stage} {stages : List Stage}

theorem lastPhase_snoc : lastPhase (stages ++ [stage]) = stage.phase?.getD (lastPhase stages) := by
  cases recorded : stage.phase? <;> simp [lastPhase, recorded]

theorem lastDestination?_snoc :
    lastDestination? (stages ++ [stage]) = stage.destination?.or (lastDestination? stages) := by
  cases recorded : stage.destination? <;> simp [lastDestination?, recorded]

theorem total_snoc (d : Direction) :
    total d (stages ++ [stage]) = total d stages + stage.counts d := by
  simp [total]

/-- What is recorded at a stage that does not change the state. -/
structure Idle (stage : Stage) : Prop where
  phase : stage.phase? = none
  destination : stage.destination? = none
  counts : ∀ d, stage.counts d = 0
  recorded : stage.recordsBridge = false

theorem idle_of_change?_eq_none (unchanged : stage.change? k = none) : stage.Idle := by
  cases stage <;> first | cases unchanged; done | exact ⟨rfl, rfl, fun _ => rfl, rfl⟩

theorem idle_of_not_begun (out : stage.begun = false) : stage.Idle := by
  cases stage <;> first | cases out; done | exact ⟨rfl, rfl, fun _ => rfl, rfl⟩

end Stage

namespace SessionState

variable {k : Session} {stage : Stage} {stages : List Stage} {s : SessionState}
  {partner : Option Handle}

/-- A stage that records nothing leaves the state where it is. -/
theorem Follows.idle (follows : s.Follows k stages) (idle : stage.Idle) :
    s.Follows k (stages ++ [stage]) where
  phase := by rw [Stage.lastPhase_snoc, idle.phase]; exact follows.phase
  clientAddress := follows.clientAddress
  destination := by
    rw [Stage.lastDestination?_snoc, idle.destination]
    exact follows.destination
  bytes d := by rw [Stage.total_snoc, idle.counts, follows.bytes, Nat.add_zero]
  clientSocket := follows.clientSocket
  destinationSocket := by simp [follows.destinationSocket, idle.recorded]

/-- It is all the same where the session is going. -/
theorem Follows.withStage (follows : s.Follows k stages) (stage : Stage) :
    s.Follows { k with stage } stages where
  phase := follows.phase
  clientAddress := follows.clientAddress
  destination := follows.destination
  bytes := follows.bytes
  clientSocket := follows.clientSocket
  destinationSocket := follows.destinationSocket

/-- The first state follows a session that has recorded nothing yet. -/
theorem follows_firstState (idle : ∀ stage ∈ stages, stage.Idle) :
    k.firstState.Follows k stages := by
  induction stages using List.reverseRecOn with
  | nil => exact ⟨rfl, rfl, rfl, fun _ => rfl, rfl, rfl⟩
  | append_singleton stages stage ih =>
    rw [List.forall_mem_append, List.forall_mem_singleton] at idle
    exact (ih idle.1).idle idle.2

theorem bytes_counted {bridge : Bridge} (there : s.bridge = some bridge) (d d' : Direction)
    (count : Nat) : (s.onBridge (·.counted d' count)).bytes d =
      s.bytes d + if d' = d then count else 0 := by
  cases d <;> cases d' <;>
    simp [bytes, onBridge, there, Bridge.counted, Bridge.onDirection, Bridge.direction]

theorem bytes_ended (s : SessionState) (d d' : Direction) :
    (s.onBridge (·.ended d')).bytes d = s.bytes d := by
  cases there : s.bridge <;> cases d <;> cases d' <;>
    simp [bytes, onBridge, there, Bridge.ended, Bridge.onDirection, Bridge.direction]

theorem bytes_closed (s : SessionState) (d : Direction) : s.closed.bytes d = s.bytes d := by
  cases there : s.bridge <;> cases d <;>
    simp [bytes, closed, onBridge, there, Bridge.closed, Bridge.ended, Bridge.onDirection,
      Bridge.direction]

/-- **What a session makes of its state is what its stage records.** -/
theorem Follows.change (follows : s.Follows k stages) (tells : stage.Tells k partner s)
    {f : SessionState → SessionState} (changes : stage.change? k = some f) :
    (f s).Follows k (stages ++ [stage]) := by
  have client : (f s).clientAddress = s.clientAddress ∧ (f s).clientSocket = s.clientSocket := by
    cases stage <;> cases changes <;> exact ⟨rfl, rfl⟩
  have phase : (f s).phase = stage.phase?.getD s.phase := by
    cases stage <;> cases changes <;> rfl
  have bytes (d : Direction) : (f s).bytes d = s.bytes d + stage.counts d := by
    cases stage with
    | recording outbound =>
      -- no bridge has been there, and the new one has counted nothing
      obtain ⟨-, destination, rfl⟩ := tells
      cases changes
      cases d <;> rfl
    | counting d' count upward downward =>
      obtain ⟨destination, bridge, -, -, rfl⟩ := tells
      cases changes
      exact bytes_counted rfl d d' count
    | ending d' upward downward =>
      cases changes
      exact bytes_ended s d d'
    | finishing result =>
      cases changes
      exact bytes_closed s d
    | _ => cases changes <;> rfl
  have destination : (f s).destination = stage.destination?.or s.destination := by
    cases stage <;> cases changes <;> rfl
  have socket : (f s).destinationSocket =
      if stage.recordsBridge then some k.destinationSocket else s.destinationSocket := by
    cases stage <;> cases changes <;> rfl
  exact
    { phase := by rw [phase, Stage.lastPhase_snoc, follows.phase]
      clientAddress := client.1.trans follows.clientAddress
      destination := by rw [destination, Stage.lastDestination?_snoc, follows.destination]
      bytes := fun d => by rw [bytes, Stage.total_snoc, follows.bytes]
      clientSocket := client.2.trans follows.clientSocket
      destinationSocket := by
        rw [socket, follows.destinationSocket]
        cases recorded : stage.recordsBridge <;> simp [recorded] }

end SessionState

namespace Server

/-- The stage that the session with this number goes on from in a step. -/
def Event.stage? (id : Nat) : Event → Option Stage
  | advanced k _ => if k.id = id then some k.stage else none
  | _ => none

/-- The stages that the session with this number has gone through. -/
def trail (id : Nat) (log : List Event) : List Stage := log.filterMap (Event.stage? id)

section Trail

variable {id : Nat} {log : List Event} {event : Event} {k : Session} {answer : k.stage.Answer}

theorem trail_own (log : List Event) (k : Session) (answer : k.stage.Answer) :
    trail k.id (log ++ [.advanced k answer]) = trail k.id log ++ [k.stage] := by
  simp [trail, Event.stage?]

/-- Steps of others are not on the trail of a session. -/
theorem trail_other (other : k.id ≠ id) : trail id (log ++ [.advanced k answer]) = trail id log := by
  simp [trail, Event.stage?, other]

/-- What is no session's step is on no trail. -/
theorem trail_idle (idle : ∀ k answer, event ≠ .advanced k answer) :
    trail id (log ++ [event]) = trail id log := by
  cases event with
  | advanced k answer => exact (idle k answer rfl).elim
  | _ => simp [trail, Event.stage?]

end Trail

namespace World

variable {w w' : World} {k : Session} {log log' : List Event} {division : Division}
  {rule : World → Event → Prop} {s : SessionState}

/-- What is seen of the sessions follows their trails. -/
structure Follows (log : List Event) (w : World) : Prop where
  /-- A connection that has not been accepted has no trail. -/
  ahead : ∀ id, w.server.accepted ≤ id → trail id log = []
  /-- A session that has not come in has recorded nothing. -/
  outside : ∀ k ∈ w.server.sessions, k.stage.begun = false →
    ∀ stage ∈ trail k.id log, stage.begun = false
  seen : ∀ k ∈ w.server.sessions, ∀ s, w.Sees k.id s → s.Follows k (trail k.id log)

theorem Fresh.follows_nil (fresh : w.Fresh) : w.Follows [] := by
  obtain ⟨config, rfl⟩ := fresh.exists_config
  exact ⟨fun _ _ => rfl, by simp, by simp⟩

theorem Follows.accept (follows : w.Follows log) (sound : w.Sound log') (handle : Handle)
    (clientAddress : SocketAddress) :
    (w.accept handle clientAddress).Follows (log ++ [.accepted handle clientAddress]) := by
  have same (id : Nat) : trail id (log ++ [.accepted handle clientAddress]) = trail id log :=
    trail_idle fun _ _ own => by cases own
  constructor
  · intro id later
    rw [same]
    exact follows.ahead id (Nat.le_of_succ_le later)
  · intro k mem out
    rw [same]
    rcases mem_accept mem with mem | ⟨new, -, -⟩
    · exact follows.outside k mem out
    · rw [new, follows.ahead _ (Nat.le_refl _)]
      exact List.forall_mem_nil _
  · intro k mem s sees
    rw [same]
    rcases mem_accept mem with mem | ⟨new, -, arrives⟩
    · exact follows.seen k mem s (sees_of_accept sees)
    · -- its number is new, so nothing has been seen of it
      obtain ⟨k', mem', number, -⟩ := sound.tells_of_sees (sees_of_accept sees)
      have below := sound.below k' mem'
      rw [number, new] at below
      exact (Nat.lt_irrefl _ below).elim

/-- The state of a session that goes on is what its trail leads to. -/
theorem Follows.seen_own (follows : w.Follows log) (sound : w.Sound log')
    (mem : k ∈ w.server.sessions) (answer : k.stage.Answer)
    (sees : (w.advance k answer).Sees k.id s) : s.Follows k (trail k.id log ++ [k.stage]) := by
  rcases sound.sees_advance mem answer sees with ⟨enters, rfl⟩ | ⟨s₀, before, changes, -⟩
  · have out : k.stage.begun = false := by rw [enters]; rfl
    have first := SessionState.follows_firstState (k := k) fun stage there =>
      Stage.idle_of_not_begun (follows.outside k mem out stage there)
    exact first.idle (Stage.idle_of_not_begun out)
  · have before := follows.seen k mem s₀ before
    rcases changes with ⟨unchanged, rfl⟩ | ⟨partner, f, tells, changes, rfl⟩
    · exact before.idle (Stage.idle_of_change?_eq_none unchanged)
    · exact before.change tells changes

theorem Follows.advance (follows : w.Follows log) (sound : w.Sound log')
    (mem : k ∈ w.server.sessions) (answer : k.stage.Answer) :
    (w.advance k answer).Follows (log ++ [.advanced k answer]) := by
  constructor
  · intro id later
    rw [accepted_advance] at later
    have other : k.id ≠ id := Nat.ne_of_lt (Nat.lt_of_lt_of_le (sound.below k mem) later)
    rw [trail_other other]
    exact follows.ahead id later
  · intro k' mem' out
    rcases (sound.mem_advance mem answer).1 mem' with rfl | ⟨mem', other⟩
    · have before : k.stage.begun = false := by
        by_contra begun
        have after := (w.leads_next k answer).begun ((Bool.not_eq_false _).mp begun)
        rw [after] at out
        cases out
      change ∀ stage ∈ trail k.id _, _
      rw [trail_own, List.forall_mem_append, List.forall_mem_singleton]
      exact ⟨follows.outside k mem before, before⟩
    · rw [trail_other other.symm]
      exact follows.outside k' mem' out
  · intro k' mem' s sees
    rcases (sound.mem_advance mem answer).1 mem' with rfl | ⟨mem', other⟩
    · have own := (follows.seen_own sound mem answer sees).withStage (w.next k answer).2
      rwa [← trail_own log k answer] at own
    · rw [trail_other other.symm]
      exact follows.seen k' mem' s (sound.sees_other mem answer other.symm sees)

theorem Follows.step {event : Event} (follows : w.Follows log) (sound : w.Sound log')
    (step : Step division w event w') : w'.Follows (log ++ [event]) := by
  rcases acts_of_step step with
    ⟨handle, clientAddress, rfl, rfl⟩ | ⟨k, mem, answer, rfl, rfl⟩ | ⟨still, idle⟩
  · exact follows.accept sound handle clientAddress
  · exact follows.advance sound mem answer
  · constructor
    · intro id later
      rw [trail_idle idle]
      exact follows.ahead id (still.accepted ▸ later)
    · intro k mem out
      rw [trail_idle idle]
      exact follows.outside k (still.sessions ▸ mem) out
    · rintro k mem s ⟨h, found, session⟩
      rw [trail_idle idle]
      exact follows.seen k (still.sessions ▸ mem) s ⟨h, still.table ▸ found, session⟩

/-- **What is seen of every session follows its trail, at every moment of a run.** -/
theorem Fresh.follows (fresh : w.Fresh) (run : Run division rule w log w') : w'.Follows log := by
  induction run with
  | start => exact fresh.follows_nil
  | step before _ next ih => exact ih.step (fresh.sound.run before) next

/-- **A handle of a session that is seen leads to a report on this session.** -/
theorem Follows.report (follows : w.Follows log) (mem : k ∈ w.server.sessions) {h : Handle}
    (found : w.server.table.lookup h = some s) (own : s.clientSocket = k.clientSocket)
    (system : SocketInfo SessionSocket) :
    ∃ report, w.server.sessionStats system h = some report ∧
      report.Tells system k (trail k.id log) := by
  have sees : w.Sees k.id s := ⟨h, found, by rw [own]; rfl⟩
  refine ⟨s.stats system, ?_, (follows.seen k mem s sees).stats system⟩
  rw [Server.sessionStats, found]
  rfl

end World

end Server

end TransportConverter
