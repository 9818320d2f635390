import TransportConverter.Proofs.Server.Listing
/-!
# What a session writes

Which of its stages touch the table, and how (`Stage.Writes`), and what the session's cell comes from in a
step (`Stage.Renews`): a session comes in at one stage, gets its second handle at another, changes its state
at seven, and leaves at one. What a session has done is read off the events of a run (`Did`).
-/
namespace TransportConverter

namespace Session

/-- The states that the entry of a session goes through. -/
inductive Records (k : Session) : SessionState → Prop
  | first : Records k k.firstState
  | opening {s : SessionState} (opening : k.Opening s) : Records k s
  | rejected {s : SessionState} (opening : k.Opening s) : Records k s.rejected
  | bridging (destination : SocketAddress) (bridge : Bridge) :
      Records k ((k.connectingState destination).bridged bridge k.destinationSocket)
  | closed (destination : SocketAddress) (bridge : Bridge) :
      Records k ((k.connectingState destination).bridged bridge k.destinationSocket).closed

theorem Records.clientAddress {k : Session} {s : SessionState} (records : k.Records s) :
    s.clientAddress = k.clientAddress := by
  cases records with
  | opening opening => rcases opening with rfl | ⟨destination, rfl⟩ <;> rfl
  | rejected opening => rcases opening with rfl | ⟨destination, rfl⟩ <;> rfl
  | _ => rfl

end Session

namespace Stage

variable {k : Session} {partner : Option Handle} {s : SessionState} {stage : Stage}

/-- Before it leaves, a session has just come in, is opening, or bridges. -/
theorem Tells.stands (tells : stage.Tells k partner s) : (∃ result, stage = leaving result) ∨
    s = k.firstState ∨ k.Opening s ∨ k.Bridging partner s := by
  cases stage with
  | arriving => exact tells.elim
  | entering => exact tells.elim
  | announcing => exact .inr (.inl tells.2)
  | reading reader => exact .inr (.inr (.inl (.inl tells.2)))
  | admitted destination => exact .inr (.inr (.inl (.inl tells.2)))
  | connecting destination => exact .inr (.inr (.inl (.inr ⟨_, tells.2⟩)))
  | connected outbound => exact .inr (.inr (.inl (.inr tells.2)))
  | replying outbound rest => exact .inr (.inr (.inl (.inr tells.2)))
  | duplicating outbound => exact .inr (.inr (.inl (.inr tells.2)))
  | linking outbound => exact .inr (.inr (.inl (.inr tells.2)))
  | recording outbound => exact .inr (.inr (.inl (.inr tells.2)))
  | rejecting error rest => exact .inr (.inr (.inl tells.2))
  | armingReset error => exact .inr (.inr (.inl tells.2))
  | marking error => exact .inr (.inr (.inl tells.2))
  | leaving result => exact .inl ⟨result, rfl⟩
  | ended result => exact .inr (.inr (.inl (.inr tells.2.2)))
  | _ => exact .inr (.inr (.inr tells))

theorem Tells.records (tells : stage.Tells k partner s) : k.Records s := by
  rcases tells.stands with
    ⟨result, rfl⟩ | rfl | opening | ⟨destination, bridge, -, -, rfl⟩
  · rcases tells with ⟨-, connecting | ⟨s₀, opening, rfl⟩⟩ | ⟨s₀, ⟨_, bridge, -, -, rfl⟩, rfl⟩
    · exact .opening (.inr connecting)
    · exact .rejected opening
    · exact .closed _ bridge
  · exact .first
  · exact .opening opening
  · exact .bridging destination bridge

/-- What a session makes of its state in the table, at the stages that change it. -/
def change? (k : Session) : Stage → Option (SessionState → SessionState)
  | announcing => some SessionState.announced
  | admitted destination => some (·.admitted destination)
  | recording outbound =>
    some (·.bridged { client := k.handle, destination := outbound } k.destinationSocket)
  | counting d count _ _ => some (·.onBridge (·.counted d count))
  | ending d _ _ => some (·.onBridge (·.ended d))
  | finishing _ => some SessionState.closed
  | marking _ => some SessionState.rejected
  | _ => none

/-- The stage touches the table. -/
def touches : Stage → Bool
  | entering | announcing | admitted _ | linking _ | recording _ | counting .. | ending ..
  | finishing _ | marking _ | leaving _ => true
  | _ => false

/-- What a session does to the table `r` in a step from one stage to another. -/
inductive Writes (k : Session) (r : Registry SessionState) :
    Stage → Stage → Registry SessionState → Prop
  | enter {r' : Registry SessionState} (inserted : r.insert k.handle k.firstState = .ok r') :
      Writes k r entering announcing r'
  | bar {error : RegistryError} (refused : r.insert k.handle k.firstState = .error error) :
      Writes k r entering (ended (.error (.registry error))) r
  | link {outbound : Handle} {r' : Registry SessionState}
      (linked : r.link k.handle outbound = .ok r') :
      Writes k r (linking outbound) (recording outbound) r'
  | unlink {outbound : Handle} {error : RegistryError}
      (refused : r.link k.handle outbound = .error error) :
      Writes k r (linking outbound) (leaving (.error (.registry error))) r
  | change {stage stage' : Stage} {f : SessionState → SessionState}
      (changes : stage.change? k = some f) : Writes k r stage stage' (r.update k.handle f)
  | leave {result : Except ConverterError Unit} :
      Writes k r (leaving result) (ended result) (r.remove k.handle)
  | nothing {stage stage' : Stage} (idle : stage.touches = false) : Writes k r stage stage' r

variable {s s' : ConverterState} {k : Session} {stage stage' : Stage} {r r' : Registry SessionState}

/-- **A session writes nothing else.** -/
theorem writes_resume {answer : stage.Answer} (resumed : stage.resume s k answer = (s', stage')) :
    Writes k s.table stage stage' s'.table := by
  cases stage with
  | arriving => cases answer <;> cases resumed <;> exact .nothing rfl
  | entering =>
    simp only [resume] at resumed
    split at resumed <;> cases resumed
    · exact .enter ‹_›
    · exact .bar ‹_›
  | reading reader => cases answer <;> cases resumed <;> exact .nothing rfl
  | connecting destination =>
    obtain ⟨rfl, -⟩ := resume_connecting resumed
    exact .nothing rfl
  | replying outbound rest =>
    simp only [resume] at resumed
    split at resumed <;> cases resumed <;> exact .nothing rfl
  | duplicating outbound => cases answer <;> cases resumed <;> exact .nothing rfl
  | linking outbound =>
    simp only [resume] at resumed
    split at resumed <;> cases resumed
    · exact .link ‹_›
    · exact .unlink ‹_›
  | stopping sides =>
    obtain ⟨rfl, -⟩ := resume_stopping resumed
    exact .nothing rfl
  | copying upward downward => cases answer <;> cases resumed <;> exact .nothing rfl
  | rejecting error rest =>
    simp only [resume] at resumed
    split at resumed <;> cases resumed <;> exact .nothing rfl
  | leaving result =>
    cases resumed
    exact .leave
  | connected outbound =>
    cases resumed
    exact .nothing rfl
  | bridged =>
    cases resumed
    exact .nothing rfl
  | halfClosing d upward downward =>
    cases resumed
    exact .nothing rfl
  | armingReset error =>
    cases resumed
    exact .nothing rfl
  | ended result => cases answer
  | admitted destination =>
    cases resumed
    exact .change (f := (·.admitted destination)) rfl
  | recording outbound =>
    cases resumed
    let bridge : Bridge := { client := k.handle, destination := outbound }
    exact .change (f := (·.bridged bridge k.destinationSocket)) rfl
  | counting d count upward downward =>
    cases resumed
    exact .change (f := (·.onBridge (·.counted d count))) rfl
  | ending d upward downward =>
    cases resumed
    exact .change (f := (·.onBridge (·.ended d))) rfl
  | _ =>
    cases resumed
    exact .change rfl

theorem tracked_of_change {f : SessionState → SessionState} (changes : stage.change? k = some f) :
    stage.tracked = true := by
  cases stage <;> first | rfl | cases changes

theorem change?_of_idle (idle : stage.touches = false) : stage.change? k = none := by
  cases stage <;> first | rfl | cases idle

/-! ## What becomes of a session's cell -/

/-- What the cell of a session comes from in a step from one stage to another: `r` is the table before
it. -/
inductive Renews (k : Session) (r : Registry SessionState) :
    Stage → Stage → Cell SessionState → Prop
  | enter {r' : Registry SessionState} (inserted : r.insert k.handle k.firstState = .ok r') :
      Renews k r entering announcing { state := k.firstState, owner := k.handle }
  | link {outbound : Handle} {r' : Registry SessionState} {c : Cell SessionState}
      (linked : r.link k.handle outbound = .ok r') (before : c ∈ r.cells) (owns : k.Owns c)
      (single : c.partner = none) :
      Renews k r (linking outbound) (recording outbound) { c with partner := some outbound }
  | unlink {outbound : Handle} {error : RegistryError} {c : Cell SessionState}
      (refused : r.link k.handle outbound = .error error) (before : c ∈ r.cells) (owns : k.Owns c) :
      Renews k r (linking outbound) (leaving (.error (.registry error))) c
  | change {stage stage' : Stage} {f : SessionState → SessionState} {c : Cell SessionState}
      (changes : stage.change? k = some f) (before : c ∈ r.cells) (owns : k.Owns c) :
      Renews k r stage stage' { c with state := f c.state }
  | keep {stage stage' : Stage} {c : Cell SessionState} (idle : stage.touches = false)
      (before : c ∈ r.cells) (owns : k.Owns c) : Renews k r stage stage' c

/-- A cell that was put where the session's was is the new one. -/
theorem eq_of_swaps {new : Option (Cell SessionState)} (swaps : Registry.Swaps k.handle new r r')
    (own : ∀ c ∈ r.cells, c.state.clientSocket.session = k.id → k.Owns c) {c : Cell SessionState}
    (there : c ∈ r'.cells) (session : c.state.clientSocket.session = k.id) : new = some c := by
  rcases (swaps c).1 there with put | ⟨before, apart⟩
  · exact put
  · rw [(own c before session).names] at apart
    cases apart

theorem Writes.renews (sound : r.Sound) (listed : k.Listed r)
    (own : ∀ c ∈ r.cells, c.state.clientSocket.session = k.id → k.Owns c)
    (writes : Writes k r k.stage stage' r') {c : Cell SessionState} (there : c ∈ r'.cells)
    (session : c.state.clientSocket.session = k.id) : Renews k r k.stage stage' c := by
  obtain ⟨n, handle, address, permitted, stage⟩ := k
  simp only at writes
  cases writes with
  | enter inserted =>
    cases eq_of_swaps (Registry.swaps_insert inserted) own there session
    exact .enter inserted
  | bar refused => exact (own c there session).tells.elim
  | link linked =>
    obtain ⟨partner, s, lists, ⟨rfl, destination⟩, -⟩ := Enters.exists_lists sound listed rfl
    cases eq_of_swaps (Registry.swaps_link sound lists linked) own there session
    exact .link linked lists ⟨rfl, rfl, destination⟩ rfl
  | unlink refused => exact .unlink refused there (own c there session)
  | change changes =>
    obtain ⟨partner, s, lists, tells, -⟩ := Enters.exists_lists sound listed (tracked_of_change changes)
    cases eq_of_swaps (Registry.swaps_update sound lists _) own there session
    exact .change changes lists ⟨rfl, tells⟩
  | leave => cases eq_of_swaps (Registry.swaps_remove r handle) own there session
  | nothing idle => exact .keep idle there (own c there session)

end Stage

namespace Server

/-! ## What a session has done -/

/-- A step of the session with this number that has `p`. -/
def Event.By (id : Nat) (p : (stage : Stage) → stage.Answer → Prop) : Event → Prop
  | advanced k answer => k.id = id ∧ p k.stage answer
  | _ => False

/-- The session has taken a step that has `p`. -/
def Did (id : Nat) (p : (stage : Stage) → stage.Answer → Prop) (log : List Event) : Prop :=
  ∃ event ∈ log, event.By id p

section Did

variable {id : Nat} {p : (stage : Stage) → stage.Answer → Prop} {log : List Event} {event : Event}
  {k : Session} {answer : k.stage.Answer}

theorem not_did_nil : ¬ Did id p [] := by
  rintro ⟨event, mem, -⟩
  cases mem

theorem did_snoc : Did id p (log ++ [event]) ↔ Did id p log ∨ event.By id p := by
  simp [Did, or_and_right, exists_or]

theorem did_advanced :
    Did id p (log ++ [.advanced k answer]) ↔ Did id p log ∨ k.id = id ∧ p k.stage answer := did_snoc

/-- Steps of others say nothing about a session. -/
theorem did_other (other : k.id ≠ id) : Did id p (log ++ [.advanced k answer]) ↔ Did id p log := by
  rw [did_advanced, or_iff_left fun own => other own.1]

/-- What is no session's step says nothing about any. -/
theorem did_idle (idle : ∀ k answer, event ≠ .advanced k answer) :
    Did id p (log ++ [event]) ↔ Did id p log := by
  rw [did_snoc, or_iff_left]
  intro own
  cases event with
  | advanced k answer => exact idle k answer rfl
  | _ => exact own

end Did

namespace World

variable {w w' : World} {k : Session} {log log' : List Event} {division : Division}

/-- A session leaves the configuration alone. -/
theorem config_advance (w : World) (k : Session) (answer : k.stage.Answer) :
    (w.advance k answer).server.config = w.server.config :=
  Stage.config_resume rfl

/-- **The configuration is never changed.** -/
theorem config_run {rule : World → Event → Prop} (run : Run division rule w log w') :
    w'.server.config = w.server.config := by
  induction run with
  | start => rfl
  | step _ _ next ih =>
    rw [← ih]
    rcases acts_of_step next with
      ⟨handle, clientAddress, -, rfl⟩ | ⟨k, mem, answer, -, rfl⟩ | ⟨still, -⟩
    · rfl
    · exact config_advance _ k answer
    · exact still.config

/-- Whoever has done something was accepted before. -/
theorem Sound.did_below (sound : w.Sound []) {rule : World → Event → Prop}
    (run : Run division rule w log w') {id : Nat} {p : (stage : Stage) → stage.Answer → Prop}
    (did : Did id p log) : id < w'.server.accepted := by
  induction run with
  | start => exact (not_did_nil did).elim
  | step before _ next ih =>
    rcases acts_of_step next with
      ⟨handle, clientAddress, rfl, rfl⟩ | ⟨k, mem, answer, rfl, rfl⟩ | ⟨same, idle⟩
    · exact Nat.lt_succ_of_lt (ih ((did_idle fun _ _ own => by cases own).1 did))
    · rcases did_advanced.1 did with did | ⟨rfl, -⟩
      · exact ih did
      · exact (sound.run before).below k mem
    · rw [same.accepted]
      exact ih ((did_idle idle).1 did)

/-- What a step of a session does to the table. -/
theorem writes (w : World) (k : Session) (answer : k.stage.Answer) :
    Stage.Writes k w.server.table k.stage (w.next k answer).2 (w.advance k answer).server.table :=
  Stage.writes_resume rfl

/-- **Where the cell of a session that has gone on comes from.** -/
theorem Sound.renews (sound : w.Sound log) (mem : k ∈ w.server.sessions) (answer : k.stage.Answer)
    {c : Cell SessionState} (there : c ∈ (w.advance k answer).server.table.cells)
    (session : c.state.clientSocket.session = k.id) :
    Stage.Renews k w.server.table k.stage (w.next k answer).2 c :=
  (w.writes k answer).renews sound.table (sound.listed k mem)
    (fun _ before own => sound.owns_of_session mem before own) there session

end World

end Server

end TransportConverter
