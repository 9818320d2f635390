import TransportConverter.Proofs.Server.Leaving
import TransportConverter.Proofs.Server.Writing
/-!
# What is seen of a session, over time

Whoever looks a handle up sees the state of a session. However the steps of all sessions come between one
another, what is seen of one session begins with an accepted connection, goes through its phases in order,
and is gone for good once the session has left (`progresses`). One change is `SessionState.Advances`, and
any number of them `SessionState.Precedes`.
-/
namespace TransportConverter

namespace SessionPhase

/-- One phase may come right after another. -/
inductive Next : SessionPhase → SessionPhase → Prop
  | announce : Next accepted headerPending
  | connect : Next headerPending connecting
  | bridge : Next connecting bridging
  | close : Next bridging closed
  | refuse : Next headerPending rejected
  | fail : Next connecting rejected

/-- No phase comes after it. -/
def isLast : SessionPhase → Bool
  | closed | rejected => true
  | _ => false

/-- The request has not been granted yet. -/
def isEarly : SessionPhase → Bool
  | accepted | headerPending => true
  | _ => false

/-- The bridge stands, or has stood. -/
def isLate : SessionPhase → Bool
  | bridging | closed => true
  | _ => false

end SessionPhase

/-- The bridge goes on: it counts no fewer bytes, and no direction that has ended is open again. -/
structure Bridge.Precedes (b b' : Bridge) : Prop where
  client : b'.client = b.client
  destination : b'.destination = b.destination
  bytes : ∀ d, (b.direction d).bytes ≤ (b'.direction d).bytes
  shut : ∀ d, (b.direction d).isOpen = false → (b'.direction d).isOpen = false

namespace Bridge.Precedes

variable {b b' b'' : Bridge}

theorem refl (b : Bridge) : b.Precedes b := ⟨rfl, rfl, fun _ => Nat.le_refl _, fun _ => id⟩

theorem trans (first : b.Precedes b') (second : b'.Precedes b'') : b.Precedes b'' where
  client := second.client.trans first.client
  destination := second.destination.trans first.destination
  bytes d := (first.bytes d).trans (second.bytes d)
  shut d shut := second.shut d (first.shut d shut)

/-- One of its directions goes on. -/
theorem onDirection (b : Bridge) (d : Direction) {f : DirectionState → DirectionState}
    (bytes : ∀ s, s.bytes ≤ (f s).bytes) (shut : ∀ s, s.isOpen = false → (f s).isOpen = false) :
    b.Precedes (b.onDirection d f) := by
  cases d with
  | upward => exact ⟨rfl, rfl, by rintro (_ | _) <;> simp [direction, Bridge.onDirection, bytes],
      by rintro (_ | _) <;> simp +contextual [direction, Bridge.onDirection, shut]⟩
  | downward => exact ⟨rfl, rfl, by rintro (_ | _) <;> simp [direction, Bridge.onDirection, bytes],
      by rintro (_ | _) <;> simp +contextual [direction, Bridge.onDirection, shut]⟩

theorem counted (b : Bridge) (d : Direction) (count : Nat) : b.Precedes (b.counted d count) :=
  onDirection b d (fun _ => Nat.le_add_right ..) fun _ => id

theorem ended (b : Bridge) (d : Direction) : b.Precedes (b.ended d) :=
  onDirection b d (fun _ => Nat.le_refl _) fun _ _ => rfl

theorem closed (b : Bridge) : b.Precedes b.closed := (ended b .upward).trans (ended _ .downward)

end Bridge.Precedes

namespace SessionState

variable {s s' s'' : SessionState}

/-- What there is in a state fits to its phase. -/
structure Proper (s : SessionState) : Prop where
  early : s.phase.isEarly = true → s.destination = none
  granted : s.destination = none → s.phase.isEarly = true ∨ s.phase = .rejected
  bridge : s.bridge.isSome = s.phase.isLate
  socket : s.destinationSocket.isSome = s.phase.isLate
  /-- A bridge that is over shows both of its sources as ended. -/
  atEnd : s.phase = .closed → ∀ b, s.bridge = some b → b.isClosed = true

/-- One change. -/
structure Advances (s s' : SessionState) : Prop where
  phase : s'.phase = s.phase ∨ s.phase.Next s'.phase
  /-- The destination is set together with the phase. -/
  destination : s'.destination = s.destination ∨
    s.destination = none ∧ s.phase = .headerPending ∧ s'.phase = .connecting
  last : s.phase.isLast = true → s' = s
  bridge : ∀ b, s.bridge = some b → ∃ b', s'.bridge = some b' ∧ b.Precedes b'
  socket : ∀ socket, s.destinationSocket = some socket → s'.destinationSocket = some socket

/-- Any number of changes. -/
structure Precedes (s s' : SessionState) : Prop where
  phase : Relation.ReflTransGen SessionPhase.Next s.phase s'.phase
  destination : ∀ address, s.destination = some address → s'.destination = some address
  last : s.phase.isLast = true → s' = s
  bridge : ∀ b, s.bridge = some b → ∃ b', s'.bridge = some b' ∧ b.Precedes b'
  socket : ∀ socket, s.destinationSocket = some socket → s'.destinationSocket = some socket

theorem Advances.refl (s : SessionState) : s.Advances s :=
  ⟨.inl rfl, .inl rfl, fun _ => rfl, fun b there => ⟨b, there, .refl b⟩, fun _ => id⟩

theorem Precedes.refl (s : SessionState) : s.Precedes s :=
  ⟨.refl, fun _ => id, fun _ => rfl, fun b there => ⟨b, there, .refl b⟩, fun _ => id⟩

theorem Precedes.tail (precedes : s.Precedes s') (advances : s'.Advances s'') : s.Precedes s'' where
  phase := by
    rcases advances.phase with same | next
    · exact same ▸ precedes.phase
    · exact precedes.phase.tail next
  destination address there := by
    have before := precedes.destination address there
    rcases advances.destination with same | ⟨none, -⟩
    · exact same.trans before
    · rw [none] at before
      cases before
  last last := by
    obtain rfl := precedes.last last
    exact advances.last last
  bridge b there := by
    obtain ⟨b', there', first⟩ := precedes.bridge b there
    obtain ⟨b'', there'', second⟩ := advances.bridge b' there'
    exact ⟨b'', there'', first.trans second⟩
  socket socket there := advances.socket socket (precedes.socket socket there)

/-- The bridge goes on, and nothing else changes. -/
theorem Advances.onBridge (s : SessionState) (going : s.phase.isLast = false) {f : Bridge → Bridge}
    (precedes : ∀ b : Bridge, b.Precedes (f b)) : s.Advances (s.onBridge f) where
  phase := .inl rfl
  destination := .inl rfl
  last last := by
    rw [going] at last
    cases last
  bridge b there := ⟨f b, by rw [SessionState.onBridge, there]; rfl, precedes b⟩
  socket _ := id

end SessionState

namespace Session

variable {k : Session} {s : SessionState}

theorem Records.proper (records : k.Records s) : s.Proper := by
  cases records with
  | first => exact ⟨fun _ => rfl, fun _ => .inl rfl, rfl, rfl, nofun⟩
  | opening opening =>
    rcases opening with rfl | ⟨destination, rfl⟩
    · exact ⟨fun _ => rfl, fun _ => .inl rfl, rfl, rfl, nofun⟩
    · exact ⟨nofun, nofun, rfl, rfl, nofun⟩
  | rejected opening =>
    rcases opening with rfl | ⟨destination, rfl⟩
    · exact ⟨nofun, fun _ => .inr rfl, rfl, rfl, nofun⟩
    · exact ⟨nofun, nofun, rfl, rfl, nofun⟩
  | bridging destination bridge => exact ⟨nofun, nofun, rfl, rfl, nofun⟩
  | closed destination bridge =>
    refine ⟨nofun, nofun, rfl, rfl, fun _ b there => ?_⟩
    cases there
    rfl

end Session

namespace Stage

variable {s : ConverterState} {k : Session} {stage stage' : Stage} {partner : Option Handle}
  {state : SessionState}

/-- **What a session makes of its state is a step forward.** -/
theorem Tells.advances (tells : stage.Tells k partner state) {f : SessionState → SessionState}
    (changes : stage.change? k = some f) : state.Advances (f state) := by
  cases stage with
  | announcing =>
    obtain ⟨-, rfl⟩ := tells
    cases changes
    exact ⟨.inr .announce, .inl rfl, nofun, nofun, nofun⟩
  | admitted destination =>
    obtain ⟨-, rfl⟩ := tells
    cases changes
    exact ⟨.inr .connect, .inr ⟨rfl, rfl, rfl⟩, nofun, nofun, nofun⟩
  | recording outbound =>
    obtain ⟨-, destination, rfl⟩ := tells
    cases changes
    exact ⟨.inr .bridge, .inl rfl, nofun, nofun, nofun⟩
  | counting d count upward downward =>
    obtain ⟨destination, bridge, -, -, rfl⟩ := tells
    cases changes
    exact .onBridge _ rfl (.counted · d count)
  | ending d upward downward =>
    obtain ⟨destination, bridge, -, -, rfl⟩ := tells
    cases changes
    exact .onBridge _ rfl (.ended · d)
  | finishing result =>
    obtain ⟨destination, bridge, -, -, rfl⟩ := tells
    cases changes
    refine ⟨.inr .close, .inl rfl, nofun, ?_, fun _ => id⟩
    intro b there
    cases there
    exact ⟨_, rfl, .closed bridge⟩
  | marking error =>
    obtain ⟨-, rfl | ⟨destination, rfl⟩⟩ := tells <;> cases changes
    · exact ⟨.inr .refuse, .inl rfl, nofun, nofun, nofun⟩
    · exact ⟨.inr .fail, .inl rfl, nofun, nofun, nofun⟩
  | _ => cases changes

/-- In answer to the session's reading its request is complete, and admission grants it for this address. -/
def Grants (config : ServerConfig) (destination : SocketAddress) :
    (stage : Stage) → stage.Answer → Prop
  | reading reader, .inTime given => ∃ message request used,
    reader.resume given = .done (.ok message) ∧ Message.decode message = .ok (request, used) ∧
      config.grant request = .ok destination
  | _, _ => False

theorem failing_ne_admitted (error : ConverterError) (destination : SocketAddress) :
    failing error ≠ admitted destination := by
  rw [failing_eq]
  cases error.replyCode <;> exact nofun

/-- Only a request that decodes and that admission grants is judged well. -/
theorem granted_of_judge {config : ServerConfig} {permitted : Bool} {message : Bytes}
    {destination : SocketAddress} (judged : config.judge permitted message = .ok destination) :
    ∃ request used, Message.decode message = .ok (request, used) ∧
      config.grant request = .ok destination := by
  obtain ⟨request, used, decoded⟩ := judge_eq_ok judged
  refine ⟨request, used, decoded, ?_⟩
  simp only [ServerConfig.judge, decoded] at judged
  split at judged
  · cases admission : config.grant request with
    | error code =>
      rw [admission] at judged
      cases judged
    | ok destination' =>
      rw [admission] at judged
      cases judged
      rfl
  · cases judged

theorem judge_of_judged {config : ServerConfig} {permitted : Bool} {message : Bytes}
    {destination : SocketAddress} (goes : judged config permitted message = admitted destination) :
    config.judge permitted message = .ok destination := by
  unfold judged at goes
  split at goes
  · cases goes
    assumption
  · exact (failing_ne_admitted _ destination goes).elim

/-- **A destination is recorded when admission has returned it.** -/
theorem grants_of_resume {answer : stage.Answer} {destination : SocketAddress}
    (granted : (stage.resume s k answer).2 = admitted destination) :
    stage.Grants s.config destination answer := by
  obtain ⟨reader, rfl⟩ : ∃ reader, stage = reading reader := by
    have leads : Leads s stage answer (admitted destination) := granted ▸ leads_resume answer
    cases leads with
    | grant => exact ⟨_, rfl⟩
    | copy before after => cases after
  cases answer with
  | late =>
    simp only [resume] at granted
    exact (failing_ne_admitted _ destination granted).elim
  | inTime given =>
    simp only [resume] at granted
    cases progress : reader.resume given with
    | waiting reader' =>
      rw [progress] at granted
      cases granted
    | done result =>
      rw [progress] at granted
      cases result with
      | error error => exact (failing_ne_admitted _ destination granted).elim
      | ok message =>
        obtain ⟨m, used, decoded, admission⟩ := granted_of_judge (judge_of_judged granted)
        exact ⟨message, m, used, progress, decoded, admission⟩

/-- A destination is set by recording what was admitted, and by nothing else. -/
theorem destination_of_change {f : SessionState → SessionState}
    (changes : stage.change? k = some f) : (∀ s, (f s).destination = s.destination) ∨
      ∃ destination, stage = admitted destination ∧ ∀ s, (f s).destination = some destination := by
  cases stage with
  | admitted destination =>
    cases changes
    exact .inr ⟨destination, rfl, fun _ => rfl⟩
  | _ => cases changes <;> exact .inl fun _ => rfl

/-- The session has come in. -/
def begun : Stage → Bool
  | arriving | entering => false
  | _ => true

theorem Leads.begun {answer : stage.Answer} (leads : Leads s stage answer stage')
    (begun : stage.begun = true) : stage'.begun = true := by
  cases leads with
  | arrive => cases begun
  | copy before after => cases stage' <;> first | rfl | cases after
  | _ => rfl

theorem Tells.begun (tells : stage.Tells k partner state) : stage.begun = true := by
  cases stage <;> first | rfl | exact tells.elim

/-- A session that is seen at its last phase has only to leave. -/
theorem Tells.leaving (tells : stage.Tells k partner state) (last : state.phase.isLast = true) :
    ∃ result, stage = leaving result := by
  rcases tells.stands with leaving | rfl | (rfl | ⟨destination, rfl⟩) | ⟨destination, bridge, -, -, rfl⟩
  · exact leaving
  · cases last
  · cases last
  · cases last
  · cases last

end Stage

namespace Server

/-- Admission has granted the request of the session for this address. -/
def Granted (config : ServerConfig) (id : Nat) (destination : SocketAddress) : List Event → Prop :=
  Did id (Stage.Grants config destination)

namespace World

variable {w w' w'' : World} {k : Session} {log log' log'' : List Event} {division : Division}
  {rule : World → Event → Prop} {id : Nat} {s s' : SessionState}

/-- Some handle leads to `s`, and that is the state of the session with this number. -/
def Sees (w : World) (id : Nat) (s : SessionState) : Prop :=
  ∃ h, w.server.table.lookup h = some s ∧ s.clientSocket.session = id

/-- A connection that was accepted changes nothing of what is seen. -/
theorem sees_of_accept {handle : Handle} {clientAddress : SocketAddress}
    (sees : (w.accept handle clientAddress).Sees id s) : w.Sees id s := by
  obtain ⟨h, found, own⟩ := sees
  exact ⟨h, found, own⟩

/-- What is seen is what stands in the cells. -/
theorem Sound.sees_iff (sound : w.Sound log) : w.Sees id s ↔
    ∃ c ∈ w.server.table.cells, c.state = s ∧ c.state.clientSocket.session = id := by
  constructor
  · rintro ⟨h, found, own⟩
    obtain ⟨c, leads, rfl⟩ := Option.map_eq_some_iff.1 found
    exact ⟨c, (sound.table.cell?_eq_some_iff.1 leads).1, rfl, own⟩
  · rintro ⟨c, there, rfl, own⟩
    have found : w.server.table.cell? c.owner = some c :=
      sound.table.cell?_eq_some_iff.2 ⟨there, by simp [Cell.names]⟩
    exact ⟨c.owner, by rw [Registry.lookup, found]; rfl, own⟩

/-- Who is seen has a session, and the table tells what it has got to. -/
theorem Sound.tells_of_sees (sound : w.Sound log) (sees : w.Sees id s) :
    ∃ k ∈ w.server.sessions, k.id = id ∧ ∃ partner, k.stage.Tells k partner s := by
  obtain ⟨c, there, rfl, own⟩ := sound.sees_iff.1 sees
  obtain ⟨k, mem, owns⟩ := sound.owned c there
  exact ⟨k, mem, owns.session.symm.trans own, _, owns.tells⟩

/-- All handles of a session lead to one state. -/
theorem Sound.sees_unique (sound : w.Sound log) (sees : w.Sees id s) (sees' : w.Sees id s') :
    s = s' := by
  obtain ⟨c, there, rfl, own⟩ := sound.sees_iff.1 sees
  obtain ⟨c', there', rfl, own'⟩ := sound.sees_iff.1 sees'
  obtain ⟨k, mem, owns⟩ := sound.owned c there
  have owns' := sound.owns_of_session mem there' (own'.trans (own.symm.trans owns.session))
  have found := sound.table.cell?_eq_some_iff.2 ⟨there, owns.names⟩
  have found' := sound.table.cell?_eq_some_iff.2 ⟨there', owns'.names⟩
  rw [Option.some.inj (found.symm.trans found')]

/-! ## One step -/

/-- What is seen of a session after a step of its own comes from what was seen before, or the session has
just come in. -/
theorem Sound.sees_advance (sound : w.Sound log) (mem : k ∈ w.server.sessions)
    (answer : k.stage.Answer) (sees : (w.advance k answer).Sees k.id s) :
    k.stage = .entering ∧ s = k.firstState ∨
      ∃ s₀, w.Sees k.id s₀ ∧ (k.stage.change? k = none ∧ s = s₀ ∨ ∃ partner f,
        k.stage.Tells k partner s₀ ∧ k.stage.change? k = some f ∧ s = f s₀) ∧
          ∀ result, k.stage ≠ .leaving result := by
  obtain ⟨c, there, rfl, own⟩ := (sound.advance mem answer).sees_iff.1 sees
  have seen {c : Cell SessionState} (before : c ∈ w.server.table.cells) (owns : k.Owns c) :
      w.Sees k.id c.state := sound.sees_iff.2 ⟨c, before, rfl, owns.session⟩
  have renews := sound.renews mem answer there own
  generalize goes : k.stage = stage, (w.next k answer).2 = stage' at renews
  cases renews with
  | enter inserted => exact .inl ⟨rfl, rfl⟩
  | link linked before owns single => exact .inr ⟨_, seen before owns, .inl ⟨rfl, rfl⟩, nofun⟩
  | unlink refused before owns => exact .inr ⟨_, seen before owns, .inl ⟨rfl, rfl⟩, nofun⟩
  | change changes before owns =>
    refine .inr ⟨_, seen before owns, .inr ⟨_, _, goes ▸ owns.tells, changes, rfl⟩, ?_⟩
    rintro result rfl
    cases changes
  | keep idle before owns =>
    refine .inr ⟨_, seen before owns, .inl ⟨Stage.change?_of_idle idle, rfl⟩, ?_⟩
    rintro result rfl
    cases idle

/-- What is seen of a session after a step of another one was seen before. -/
theorem Sound.sees_other (sound : w.Sound log) (mem : k ∈ w.server.sessions)
    (answer : k.stage.Answer) (other : k.id ≠ id) (sees : (w.advance k answer).Sees id s) :
    w.Sees id s := by
  obtain ⟨c, there, rfl, session⟩ := (sound.advance mem answer).sees_iff.1 sees
  have apart : c.state.clientSocket.session ≠ k.id := fun same => other (same.symm.trans session)
  exact sound.sees_iff.2 ⟨c, (sound.mem_cells_advance mem answer apart).1 there, rfl, session⟩

/-- What is seen of a session is changed by its own steps alone. -/
theorem Sound.sees_step {event : Event} (sound : w.Sound log) (step : Step division w event w')
    (sees : w'.Sees id s) : w.Sees id s ∨
      ∃ k ∈ w.server.sessions, ∃ answer, k.id = id ∧ w' = w.advance k answer := by
  rcases acts_of_step step with
    ⟨handle, clientAddress, rfl, rfl⟩ | ⟨k, mem, answer, rfl, rfl⟩ | ⟨still, -⟩
  · exact .inl (sees_of_accept sees)
  · by_cases own : k.id = id
    · exact .inr ⟨k, mem, answer, own, rfl⟩
    · exact .inl (sound.sees_other mem answer own sees)
  · obtain ⟨h, found, session⟩ := sees
    exact .inl ⟨h, still.table ▸ found, session⟩

/-- **One step changes what is seen of a session by one step forward, if at all.** -/
theorem Sound.advances {event : Event} (sound : w.Sound log) (step : Step division w event w')
    (sees : w.Sees id s) (sees' : w'.Sees id s') : s.Advances s' := by
  rcases sound.sees_step step sees' with same | ⟨k, mem, answer, rfl, rfl⟩
  · rw [sound.sees_unique sees same]
    exact .refl s'
  · rcases sound.sees_advance mem answer sees' with ⟨enters, -⟩ | ⟨s₀, before, changes, -⟩
    · obtain ⟨k', mem', number, partner, tells⟩ := sound.tells_of_sees sees
      rw [sound.eq_of_id mem' mem number, enters] at tells
      exact tells.elim
    · obtain rfl := sound.sees_unique sees before
      rcases changes with ⟨-, rfl⟩ | ⟨partner, f, tells, changes, rfl⟩
      · exact .refl _
      · exact tells.advances changes

/-- A session is seen first as it was accepted. -/
theorem Sound.first {event : Event} (sound : w.Sound log) (step : Step division w event w')
    (unseen : ∀ s, ¬ w.Sees id s) (sees : w'.Sees id s) :
    ∃ k ∈ w.server.sessions, k.id = id ∧ k.stage = .entering ∧ s = k.firstState := by
  rcases sound.sees_step step sees with same | ⟨k, mem, answer, rfl, rfl⟩
  · exact (unseen s same).elim
  · rcases sound.sees_advance mem answer sees with ⟨enters, first⟩ | ⟨s₀, before, -⟩
    · exact ⟨k, mem, rfl, enters, first⟩
    · exact (unseen s₀ before).elim

/-! ## Any number of steps -/

/-- The session has come in. -/
def Begun (w : World) (id : Nat) : Prop :=
  ∃ k ∈ w.server.sessions, k.id = id ∧ k.stage.begun = true

theorem Sound.begun (sound : w.Sound log) (sees : w.Sees id s) : w.Begun id := by
  obtain ⟨k, mem, number, partner, tells⟩ := sound.tells_of_sees sees
  exact ⟨k, mem, number, tells.begun⟩

theorem Begun.step {event : Event} (begun : w.Begun id) (sound : w.Sound log)
    (step : Step division w event w') : w'.Begun id :=
  sound.stage_step (P := (·.begun = true)) (fun _ _ _ _ leads => leads.begun) step begun

theorem Begun.run (begun : w.Begun id) (sound : w.Sound log) (run : Run division rule w log' w') :
    w'.Begun id :=
  sound.run_keeps (P := (·.Begun id)) run begun fun _ _ _ _ sound begun _ step => begun.step sound step

/-- **A session that is no longer seen is never seen again.** -/
theorem Sound.gone (sound : w.Sound log) (begun : w.Begun id) (unseen : ∀ s, ¬ w.Sees id s)
    (run : Run division rule w log' w') (s : SessionState) : ¬ w'.Sees id s := by
  induction run generalizing s with
  | start => exact unseen s
  | step before _ next ih =>
    intro sees
    have sound' := sound.run before
    obtain ⟨k, mem, number, enters, -⟩ := sound'.first next ih sees
    obtain ⟨k', mem', number', begun'⟩ := begun.run sound before
    rw [sound'.eq_of_id mem' mem (number'.trans number.symm), enters] at begun'
    cases begun'

/-- **What is seen of a session at one moment precedes what is seen of it later.** -/
theorem Sound.precedes (sound : w.Sound log) (sees : w.Sees id s)
    (run : Run division rule w log' w') (sees' : w'.Sees id s') : s.Precedes s' := by
  induction run generalizing s' with
  | start =>
    rw [sound.sees_unique sees sees']
    exact .refl s'
  | @step log₁ w₁ w₂ event before _ next ih =>
    have sound' := sound.run before
    by_cases seen : ∃ s₁, w₁.Sees id s₁
    · obtain ⟨s₁, seen⟩ := seen
      exact (ih seen).tail (sound'.advances next seen sees')
    · -- what is gone does not come back
      have begun := (sound.begun sees).run sound before
      have after : Run division AnyRule w₁ _ w₂ := Run.start.step trivial next
      exact (sound'.gone begun (not_exists.1 seen) after s' sees').elim

/-! ## Where destinations come from -/

/-- Every destination that is to be recorded or is seen is one that admission has returned. -/
structure Traced (log : List Event) (w : World) : Prop where
  admitted : ∀ k ∈ w.server.sessions, ∀ destination, k.stage = .admitted destination →
    Granted w.server.config k.id destination log
  seen : ∀ id s destination, w.Sees id s → s.destination = some destination →
    Granted w.server.config id destination log

theorem Fresh.traced (fresh : w.Fresh) : w.Traced [] := by
  obtain ⟨config, rfl⟩ := fresh.exists_config
  refine ⟨by simp, ?_⟩
  rintro id s destination ⟨h, found, -⟩
  cases found

theorem Traced.step {event : Event} (traced : w.Traced log) (sound : w.Sound log')
    (step : Step division w event w') : w'.Traced (log ++ [event]) := by
  have config : w'.server.config = w.server.config := by
    have run : Run division AnyRule w [event] w' := Run.start.step trivial step
    exact config_run run
  have grown {id : Nat} {destination : SocketAddress}
      (granted : Granted w.server.config id destination log) :
      Granted w'.server.config id destination (log ++ [event]) := by
    rw [config]
    exact did_snoc.2 (.inl granted)
  constructor
  · intro k mem destination admitted
    rcases acts_of_step step with
      ⟨handle, clientAddress, rfl, rfl⟩ | ⟨k', mem', answer, rfl, rfl⟩ | ⟨still, -⟩
    · rcases mem_accept mem with mem | ⟨-, -, arrives⟩
      · exact grown (traced.admitted k mem destination admitted)
      · rw [arrives] at admitted
        cases admitted
    · rcases (sound.mem_advance mem' answer).1 mem with rfl | ⟨mem, -⟩
      · rw [config]
        exact did_advanced.2 (.inr ⟨rfl, Stage.grants_of_resume admitted⟩)
      · exact grown (traced.admitted k mem destination admitted)
    · exact grown (traced.admitted k (still.sessions ▸ mem) destination admitted)
  · intro id s destination sees there
    rcases sound.sees_step step sees with same | ⟨k, mem, answer, rfl, rfl⟩
    · exact grown (traced.seen id s destination same there)
    · rcases sound.sees_advance mem answer sees with ⟨-, rfl⟩ | ⟨s₀, before, changes, -⟩
      · cases there
      · rcases changes with ⟨-, rfl⟩ | ⟨partner, f, -, changes, rfl⟩
        · exact grown (traced.seen k.id _ destination before there)
        · rcases Stage.destination_of_change changes with same | ⟨destination', admitted, set⟩
          · exact grown (traced.seen k.id s₀ destination before ((same s₀).symm.trans there))
          · obtain rfl := Option.some.inj ((set s₀).symm.trans there)
            exact grown (traced.admitted k mem _ admitted)

theorem Fresh.traced_run (fresh : w.Fresh) (run : Run division rule w log w') : w'.Traced log := by
  induction run with
  | start => exact fresh.traced
  | step before _ next ih => exact ih.step (fresh.sound.run before) next

/-! ## The whole course of a session -/

/-- What is seen of the session with this number at a moment of a run, and from then on. -/
structure Progresses (division : Division) (log : List Event) (w : World) (id : Nat) : Prop where
  /-- All handles of a session lead to one state. -/
  one : ∀ s s', w.Sees id s → w.Sees id s' → s = s'
  proper : ∀ s, w.Sees id s → s.Proper
  /-- The destination is what admission has returned. -/
  granted : ∀ s destination, w.Sees id s → s.destination = some destination →
    Granted w.server.config id destination log
  /-- A session that comes in is seen as accepted. -/
  first : (∀ s, ¬ w.Sees id s) → ∀ event w' s, Step division w event w' → w'.Sees id s →
    s.phase = .accepted
  step : ∀ event w' s s', Step division w event w' → w.Sees id s → w'.Sees id s' → s.Advances s'
  later : ∀ log' w' s s', Run division AnyRule w log' w' → w.Sees id s → w'.Sees id s' →
    s.Precedes s'
  /-- A session that is seen at its last phase is not seen after its next step. -/
  last : ∀ s, w.Sees id s → s.phase.isLast = true → ∀ k ∈ w.server.sessions, k.id = id →
    ∀ answer s', ¬ (w.advance k answer).Sees id s'
  /-- A session that is no longer seen is never seen again. -/
  gone : ∀ log' w' s, Run division AnyRule w log' w' → w.Sees id s → (∀ s, ¬ w'.Sees id s) →
    ∀ log'' w'' s', Run division AnyRule w' log'' w'' → ¬ w''.Sees id s'

/-- **A session is seen to go through its phases in order**, however the steps of all sessions and what is
looked up come between one another. -/
theorem progresses (fresh : w.Fresh) (run : Run division AnyRule w log w') (id : Nat) :
    w'.Progresses division log id := by
  have sound : w'.Sound log := fresh.sound.run run
  constructor
  case one =>
    intro s s'
    exact sound.sees_unique
  case proper =>
    intro s sees
    obtain ⟨k, -, -, partner, tells⟩ := sound.tells_of_sees sees
    exact tells.records.proper
  case granted => exact (fresh.traced_run run).seen id
  case first =>
    intro unseen event w₁ s step sees
    obtain ⟨k, -, -, -, rfl⟩ := sound.first step unseen sees
    rfl
  case step =>
    intro event w₁ s s'
    exact sound.advances
  case later =>
    intro log₁ w₁ s s' later sees
    exact sound.precedes sees later
  case last =>
    intro s sees last k mem number answer s' after
    obtain ⟨k', mem', number', partner, tells⟩ := sound.tells_of_sees sees
    obtain rfl := sound.eq_of_id mem' mem (number'.trans number.symm)
    obtain ⟨result, leaves⟩ := tells.leaving last
    subst number
    rcases sound.sees_advance mem answer after with ⟨enters, -⟩ | ⟨s₀, -, -, stays⟩
    · rw [enters] at leaves
      cases leaves
    · exact stays result leaves
  case gone =>
    intro log₁ w₁ s later sees unseen log₂ w₂ s' after
    exact (sound.run later).gone ((sound.begun sees).run sound later) unseen after s'

/-- The first session, when its bridge stands. -/
theorem progresses_bridging :
    let division : Division := ⟨1, fun _ => 0⟩
    let w : World := { server := { config := {} } }
    ∃ log w', w.Fresh ∧ Run division AnyRule w log w' ∧
      (∃ s, w'.Sees 0 s ∧ s.phase = .bridging ∧ s.destination = some (.v4 ⟨203, 0, 113, 5⟩ 443)) ∧
      w'.Progresses division log 0 := by
  intro division w
  have fresh : w.Fresh := ⟨{}, _, rfl, rfl⟩
  have valid : (Message.request (.v4 ⟨203, 0, 113, 5⟩ 443) none).Valid :=
    ⟨by simp [Message.request], nofun⟩
  have room : 0 < ServerConfig.maxSessions {} := by decide
  have accepted : Run division AnyRule w [.accepted ⟨7⟩ (.v4 ⟨192, 0, 2, 9⟩ 50000)]
      (w.accept ⟨7⟩ (.v4 ⟨192, 0, 2, 9⟩ 50000)) := Run.start.step trivial (.accept ..)
  have bridged : Reaches division OpensNew (w.accept ⟨7⟩ (.v4 ⟨192, 0, 2, 9⟩ 50000)) _ :=
    reaches_bridged room valid rfl _ (show (⟨9⟩ : Handle) ≠ ⟨7⟩ by decide)
  obtain ⟨log, bridged⟩ := bridged
  have run := accepted.append (bridged.mono fun _ _ _ => trivial)
  exact ⟨_, _, fresh, run, ⟨_, ⟨⟨9⟩, rfl, rfl⟩, rfl, rfl⟩, progresses fresh run 0⟩

end World

end Server

end TransportConverter
