import TransportConverter.Proofs.Server.Arrival
import TransportConverter.Proofs.Server.Sweep
/-!
# A shutdown misses no bridge

While a shutdown goes over the table, sessions come, go and link. A bridge that is in the table when the
flag is raised is still to be listed or to be looked up, or the reading of its sockets is being stopped
(`Sweep.Owes`); one that is recorded later finds the flag raised and stops its own reading. A session that
has not come past its first look at the flag is refused. So once every part of the table has been found
empty, nobody bridges (`shutdown_misses_no_bridge`).
-/
namespace TransportConverter

namespace Server

namespace World

variable {w w' : World} {k : Session} {log log' : List Event} {division : Division}

/-- A socket that was told to stop reading, whatever it answered. -/
def Halted (w : World) (k : Session) (side : Side) : Prop := ⟨k.id, side⟩ ∈ w.halted

/-- A bridge that is not recorded in a step was there before it. -/
theorem Sound.exists_bridged (sound : w.Sound log) (mem : k ∈ w.server.sessions)
    (answer : k.stage.Answer) {c : Cell SessionState}
    (there : c ∈ (w.advance k answer).server.table.cells)
    (owns : Session.Owns { k with stage := (w.next k answer).2 } c)
    (bridged : c.state.bridge.isSome = true) (after : (w.next k answer).2.registering = false) :
    ∃ c₀ ∈ w.server.table.cells, k.Owns c₀ ∧ c₀.state.bridge.isSome = true := by
  have replaced (apart : c.names k.handle = false) : False := by
    have named : c.names k.handle = true := owns.names
    rw [named] at apart
    cases apart
  rw [table_advance] at there
  cases sound.enters mem answer with
  | stays same tells tracked =>
    rw [same] at there
    exact ⟨c, there, sound.owns_of_session mem there owns.session, bridged⟩
  | puts new sound' swaps own owns' tracked has beside =>
    rcases (swaps c).1 there with ⟨⟨⟩⟩ | ⟨-, apart⟩
    · obtain ⟨c₀, there₀, owns₀⟩ := sound.listed k mem (Stage.tracked_of_hasBridge (has bridged))
      have recorded := (w.leads_next k answer).recorded (has bridged) after
      obtain ⟨_, _, -, -, eq⟩ := owns₀.tells.bridging (has bridged) recorded
      exact ⟨c₀, there₀, owns₀, by rw [eq]; rfl⟩
    · exact (replaced apart).elim
  | leaves sound' swaps own out =>
    rcases (swaps c).1 there with ⟨⟨⟩⟩ | ⟨-, apart⟩
    exact (replaced apart).elim

/-- What holds of a converter whose shutdown has come to `sweep`. -/
structure Covered (division : Division) (sweep : Sweep) (w : World) : Prop where
  draining : sweep = .raising ∨ w.server.draining = true
  /-- A session that stops its own reading has stopped that of the sides it has done with. -/
  own : ∀ k ∈ w.server.sessions, ∀ sides, k.stage = .stopping sides →
    ∀ side, side ∈ sides ∨ w.Halted k side
  /-- What has not been stopped of a bridge is still to be stopped. -/
  owed : ∀ k ∈ w.server.sessions, ∀ c ∈ w.server.table.cells, k.Owns c →
    c.state.bridge.isSome = true → k.stage.registering = false →
      ∀ side, sweep.Owes division k side ∨ w.Halted k side
  /-- What has been found empty stays free of bridges. -/
  checked : ∀ k ∈ w.server.sessions, k.stage.passed = true → sweep.Leaves division k

namespace Covered

variable {sweep : Sweep}

/-- Before any shutdown there is nothing that it could have missed. -/
theorem raising (own : ∀ k ∈ w.server.sessions, ∀ sides, k.stage = .stopping sides →
    ∀ side, side ∈ sides ∨ w.Halted k side) : w.Covered division .raising :=
  ⟨.inl rfl, own, fun _ _ _ _ _ _ _ _ => .inl trivial, fun _ _ _ => trivial⟩

theorem same (covered : w.Covered division sweep) (same : w.Same w')
    (draining : w.server.draining = true → w'.server.draining = true)
    (halted : w.halted ⊆ w'.halted) : w'.Covered division sweep := by
  obtain ⟨raised, own, owed, checked⟩ := covered
  obtain ⟨sessions, -, table⟩ := same
  rw [← sessions] at own owed checked
  rw [← table] at owed
  exact ⟨raised.imp_right draining,
    fun k mem sides stops side => (own k mem sides stops side).imp_right (@halted _),
    fun k mem c there owns bridged registered side =>
      (owed k mem c there owns bridged registered side).imp_right (@halted _), checked⟩

/-- A session that has just come in bridges nothing. -/
theorem accept (covered : w.Covered division sweep) (handle : Handle)
    (clientAddress : SocketAddress) : (w.accept handle clientAddress).Covered division sweep := by
  obtain ⟨raised, own, owed, checked⟩ := covered
  refine ⟨raised, fun k mem sides stops => ?_, fun k mem c there owns bridged registered => ?_,
    fun k mem passed => ?_⟩
  · rcases mem_accept mem with mem | ⟨-, -, arriving⟩
    · exact own k mem sides stops
    · rw [arriving] at stops
      cases stops
  · rcases mem_accept mem with mem | ⟨-, -, arriving⟩
    · exact owed k mem c there owns bridged registered
    · have tells := owns.tells
      rw [arriving] at tells
      exact tells.elim
  · rcases mem_accept mem with mem | ⟨-, -, arriving⟩
    · exact checked k mem passed
    · rw [arriving] at passed
      cases passed

/-- **Nothing escapes by a session's step.** A bridge that it has seen to either finds the flag raised
and has stopped its reading, or was there before. -/
theorem advance (covered : w.Covered division sweep) (sound : w.Sound log)
    (mem : k ∈ w.server.sessions) (answer : k.stage.Answer) :
    (w.advance k answer).Covered division sweep := by
  have keeps {k' : Session} {side : Side} (halted : w.Halted k' side) :
      (w.advance k answer).Halted k' side := List.mem_append_right _ halted
  have stops {side : Side} (now : side ∈ k.stage.halts) : (w.advance k answer).Halted k side :=
    List.mem_append_left _ (List.mem_map_of_mem now)
  have raising (down : w.server.draining = false) : sweep = .raising := by
    refine covered.draining.resolve_right ?_
    rw [down]
    exact nofun
  refine ⟨?_, fun k' mem' sides stopping side => ?_,
    fun k' mem' c there owns bridged after side => ?_, fun k' mem' passed => ?_⟩
  · have same : (w.advance k answer).server.draining = w.server.draining :=
      Stage.draining_resume answer
    rw [same]
    exact covered.draining
  · rcases (sound.mem_advance mem answer).1 mem' with rfl | ⟨mem', other⟩
    · rcases (w.leads_next k answer).stopping stopping side with
        left | now | ⟨sides', before, done⟩
      · exact .inl left
      · exact .inr (stops now)
      · exact .inr (keeps ((covered.own k mem sides' before side).resolve_left done))
    · exact (covered.own k' mem' sides stopping side).imp_right keeps
  · rcases (sound.mem_advance mem answer).1 mem' with rfl | ⟨mem', other⟩
    · by_cases before : k.stage.registering = true
      · -- the bridge was recorded before this step, and has been seen to in it
        rcases (w.leads_next k answer).registered before after with down | done
        · rw [raising down]
          exact .inl trivial
        · rcases done side with now | ⟨sides, stopping, done⟩
          · exact .inr (stops now)
          · exact .inr (keeps ((covered.own k mem sides stopping side).resolve_left done))
      · obtain ⟨c₀, there₀, owns₀, bridged₀⟩ :=
          sound.exists_bridged mem answer there owns bridged after
        exact (covered.owed k mem c₀ there₀ owns₀ bridged₀ (Bool.eq_false_iff.2 before) side).imp
          id keeps
    · have there := (sound.mem_cells_advance mem answer (owns.session ▸ other)).1 there
      exact (covered.owed k' mem' c there owns bridged after side).imp_right keeps
  · rcases (sound.mem_advance mem answer).1 mem' with rfl | ⟨mem', other⟩
    · rcases (w.leads_next k answer).passed passed with passed | ⟨-, down⟩
      · exact covered.checked k mem passed
      · rw [raising down]
        trivial
    · exact covered.checked k' mem' passed

/-- What a shutdown has done stays done, whatever happens but a new start. -/
theorem step {event : Event} (covered : w.Covered division sweep) (sound : w.Sound log)
    (step : Step division w event w') (goes : ∀ bound, event ≠ .started bound) :
    w'.Covered division sweep := by
  cases step with
  | start resting started => exact absurd rfl (goes _)
  | stop resting => exact covered.same ⟨rfl, rfl, rfl⟩ id (List.Subset.refl _)
  | accept handle clientAddress => exact covered.accept handle clientAddress
  | advance mem answer => exact covered.advance sound mem answer
  | shutdown resting => exact covered.same ⟨rfl, rfl, rfl⟩ id (List.Subset.refl _)
  | sweep goes answer =>
    refine covered.same (w.same_sweepOn division _ answer) (fun draining => ?_)
      (List.subset_append_right _ _)
    rcases w.server_sweepOn division _ answer with same | raised
    · rw [same, draining]
    · rw [raised]
  | close mem opened lets => exact covered.same (w.same_close _ _) id (List.Subset.refl _)

theorem run {rule : World → Event → Prop} (covered : w.Covered division sweep) (sound : w.Sound log)
    (run : Run division rule w log' w') (goes : ∀ bound, .started bound ∉ log') :
    w'.Covered division sweep := by
  induction run with
  | start => exact covered
  | step before _ next ih =>
    exact (ih fun bound mem => goes bound (List.mem_append_left _ mem)).step (sound.run before) next
      fun bound eq => goes bound (by simp [eq])

/-- A step of the shutdown itself. -/
theorem sweepOn (covered : w.Covered division sweep) (sound : w.Sound log)
    (index : ∀ h, division.index h < division.count) (answer : sweep.Answer) :
    (w.sweepOn division sweep answer).Covered division
      (sweep.resume division w.server answer).2 := by
  have same := w.same_sweepOn division sweep answer
  have keeps {k : Session} {side : Side} (halted : w.Halted k side) :
      (w.sweepOn division sweep answer).Halted k side := List.mem_append_right _ halted
  refine ⟨.inr ?_, fun k mem sides stopping side => ?_,
    fun k mem c there owns bridged registered side => ?_, fun k mem passed => ?_⟩
  · rcases covered.draining with rfl | draining
    · rfl
    · rcases w.server_sweepOn division sweep answer with same | raised
      · rw [same, draining]
      · rw [raised]
  · rw [same.sessions] at mem
    exact (covered.own k mem sides stopping side).imp_right keeps
  · rw [same.sessions] at mem
    rw [same.table] at there
    rcases covered.owed k mem c there owns bridged registered side with owed | halted
    · exact (Sweep.owes_resume sound.table (index _) there owns bridged owed answer).imp_right
        (List.mem_append_left _)
    · exact .inr (keeps halted)
  · rw [same.sessions] at mem
    obtain ⟨c, there, owns⟩ := sound.listed k mem (Stage.tracked_of_passed passed)
    exact Sweep.leaves_resume (index _) there owns.owner (covered.checked k mem passed) answer

end Covered

/-- What holds at every moment of a run: the shutdown has covered what it has come past. -/
def Sweeping (division : Division) (w : World) : Prop :=
  w.Covered division (w.sweep.getD .raising)

theorem Fresh.sweeping (fresh : w.Fresh) : w.Sweeping division := by
  obtain ⟨config, rfl⟩ := fresh.exists_config
  exact .raising fun k mem => by simp at mem

theorem Sweeping.step {event : Event} (sweeping : w.Sweeping division) (sound : w.Sound log)
    (index : ∀ h, division.index h < division.count) (step : Step division w event w') :
    w'.Sweeping division := by
  cases step with
  | start resting started =>
    have own := Covered.own sweeping
    rw [← (same_start started).sessions] at own
    exact .raising own
  | stop resting => exact Covered.same sweeping ⟨rfl, rfl, rfl⟩ id (List.Subset.refl _)
  | accept handle clientAddress => exact Covered.accept sweeping handle clientAddress
  | advance mem answer => exact Covered.advance sweeping sound mem answer
  | shutdown resting =>
    have own := Covered.own sweeping
    exact .raising own
  | sweep goes answer =>
    rw [Sweeping, goes] at sweeping
    exact Covered.sweepOn sweeping sound index answer
  | close mem opened lets => exact Covered.same sweeping (w.same_close _ _) id (List.Subset.refl _)

theorem Sweeping.run {rule : World → Event → Prop} (sweeping : w.Sweeping division)
    (sound : w.Sound log) (index : ∀ h, division.index h < division.count)
    (run : Run division rule w log' w') : w'.Sweeping division :=
  sound.run_keeps run sweeping fun _ _ _ _ sound sweeping _ step => sweeping.step sound index step

/-! ## Sessions that come too late -/

/-- The session of a number is refused. -/
def Refused (id : Nat) (error : ConverterError) (reply : Bytes) (w : World) : Prop :=
  ∃ k ∈ w.server.sessions, k.id = id ∧ k.stage.Refuses error reply

variable {id : Nat} {error : ConverterError} {reply : Bytes}

theorem Refused.step {event : Event} (refused : w.Refused id error reply) (sound : w.Sound log)
    (step : Step division w event w') : w'.Refused id error reply :=
  sound.stage_step (P := (·.Refuses error reply)) (fun _ _ _ _ leads => leads.refuses) step refused

theorem Refused.run {rule : World → Event → Prop} (refused : w.Refused id error reply)
    (sound : w.Sound log) (run : Run division rule w log' w') : w'.Refused id error reply :=
  sound.run_keeps run refused fun _ _ _ _ sound refused _ step => refused.step sound step

/-- Nobody sees it bridge. -/
theorem Refused.not_bridging (refused : w.Refused id error reply) (sound : w.Sound log)
    {c : Cell SessionState} (there : c ∈ w.server.table.cells)
    (own : c.state.clientSocket.session = id) : c.state.phase ≠ .bridging := by
  intro phase
  obtain ⟨k, mem, rfl, refuses⟩ := refused
  have passed := (sound.owns_of_session mem there own).passed phase
  rw [refuses.not_passed] at passed
  cases passed

/-! ## What a shutdown comes to -/

/-- What a shutdown makes sure of, from a moment of a run on. To stop a bridge is to tell both of its
sockets to stop reading (`World.halted`); what they answer to that is not looked at. -/
structure MissesNone (division : Division) (w : World) : Prop where
  /-- A session that looks at the raised flag before it has answered its client refuses it. -/
  refuses : ∀ k ∈ w.server.sessions, ∀ outbound, k.stage = .connected outbound →
    w.server.draining = true → ∀ answer,
      (w.next k answer).2 = .rejecting .shuttingDown (Message.failure .resourceExceeded).wire ∧
      ∀ log w', Run division AnyRule (w.advance k answer) log w' →
        w'.Refused k.id .shuttingDown (Message.failure .resourceExceeded).wire ∧
        ∀ c ∈ w'.server.table.cells, c.state.clientSocket.session = k.id →
          c.state.phase ≠ .bridging
  /-- Once the table has been gone over, both sockets of each bridge in it have been told to stop reading,
  or its session is still to see to the flag. -/
  stops : ∀ sweep, w.sweep = some sweep → sweep.swept = true →
    ∀ log w', Run division AnyRule w log w' → (∀ bound, .started bound ∉ log) →
      ∀ c ∈ w'.server.table.cells, c.state.bridge.isSome = true →
        ∃ k ∈ w'.server.sessions, k.Owns c ∧
          c.state.sockets = [k.clientSocket, k.destinationSocket] ∧
          (k.stage.registering = true ∨ ∀ socket ∈ c.state.sockets, socket ∈ w'.halted)
  /-- Once every part of the table has been found empty, nobody bridges. -/
  drains : w.sweep = some (.done true) →
    ∀ log w', Run division AnyRule w log w' → (∀ bound, .started bound ∉ log) →
      (∀ k ∈ w'.server.sessions, k.stage.passed = false) ∧
      ∀ c ∈ w'.server.table.cells, c.state.phase ≠ .bridging

theorem Sound.refuses (sound : w.Sound log) (mem : k ∈ w.server.sessions) {outbound : Handle}
    (looks : k.stage = .connected outbound) (draining : w.server.draining = true)
    (answer : k.stage.Answer) :
    (w.next k answer).2 = .rejecting .shuttingDown (Message.failure .resourceExceeded).wire ∧
    (w.advance k answer).Refused k.id .shuttingDown (Message.failure .resourceExceeded).wire := by
  have next : (w.next k answer).2 =
      .rejecting .shuttingDown (Message.failure .resourceExceeded).wire := by
    obtain ⟨n, handle, address, permitted, stage⟩ := k
    obtain rfl : stage = .connected outbound := looks
    have goes : (w.next ⟨n, handle, address, permitted, .connected outbound⟩ answer).2 =
        Stage.failing .shuttingDown := if_pos draining
    rw [goes, Stage.failing_eq]
    rfl
  refine ⟨next, _, (sound.mem_advance mem answer).2 (.inl rfl), rfl, ?_⟩
  show (w.next k answer).2.Refuses _ _
  rw [next]
  exact ⟨rfl, List.suffix_refl _⟩

theorem Covered.stopped {sweep : Sweep} (covered : w.Covered division sweep) (sound : w.Sound log)
    (swept : sweep.swept = true) {c : Cell SessionState} (there : c ∈ w.server.table.cells)
    (bridged : c.state.bridge.isSome = true) : ∃ k ∈ w.server.sessions, k.Owns c ∧
      c.state.sockets = [k.clientSocket, k.destinationSocket] ∧
      (k.stage.registering = true ∨ ∀ socket ∈ c.state.sockets, socket ∈ w.halted) := by
  obtain ⟨k, mem, owns⟩ := sound.owned c there
  refine ⟨k, mem, owns, owns.sockets bridged, ?_⟩
  by_cases registering : k.stage.registering = true
  · exact .inl registering
  · have halted (side : Side) : w.Halted k side :=
      (covered.owed k mem c there owns bridged (Bool.eq_false_iff.2 registering) side).resolve_left
        (Sweep.not_owes_of_swept swept)
    right
    rw [owns.sockets bridged]
    intro socket listed
    rcases List.mem_pair.1 listed with rfl | rfl
    · exact halted .client
    · exact halted .destination

theorem Covered.drained (covered : w.Covered division (.done true)) (sound : w.Sound log) :
    (∀ k ∈ w.server.sessions, k.stage.passed = false) ∧
    ∀ c ∈ w.server.table.cells, c.state.phase ≠ .bridging := by
  have none (k : Session) (mem : k ∈ w.server.sessions) : k.stage.passed = false := by
    by_contra passed
    cases covered.checked k mem (by simpa using passed)
  refine ⟨none, fun c there phase => ?_⟩
  obtain ⟨k, mem, owns⟩ := sound.owned c there
  have passed := owns.passed phase
  rw [none k mem] at passed
  cases passed

/-- **A shutdown misses no bridge**, however its steps, those of the sessions and those of whoever starts
and stops the converter come between one another. -/
theorem shutdown_misses_no_bridge (index : ∀ h, division.index h < division.count)
    (fresh : w.Fresh) (run : Run division AnyRule w log w') : w'.MissesNone division := by
  have sound := fresh.sound.run run
  have sweeping := fresh.sweeping.run fresh.sound index run
  refine ⟨fun k mem outbound looks draining answer => ?_,
    fun sweep goes swept log w'' later going c => ?_, fun goes log w'' later going => ?_⟩
  · obtain ⟨next, refused⟩ := sound.refuses mem looks draining answer
    have sound' := sound.advance mem answer
    exact ⟨next, fun log w'' later => ⟨refused.run sound' later,
      fun c there own => (refused.run sound' later).not_bridging (sound'.run later) there own⟩⟩
  · rw [Sweeping, goes] at sweeping
    have covered : w'.Covered division sweep := sweeping
    exact (covered.run sound later going).stopped (sound.run later) swept
  · rw [Sweeping, goes] at sweeping
    have covered : w'.Covered division (.done true) := sweeping
    exact (covered.run sound later going).drained (sound.run later)

/-- The first session, when its destination is connected. The shutdown begins before it looks at the
flag, or once it bridges. -/
theorem shutdown_misses_no_bridge_begun :
    let division : Division := ⟨1, fun _ => 0⟩
    let k : Session :=
      { id := 0, handle := ⟨7⟩, clientAddress := .v4 ⟨192, 0, 2, 9⟩ 50000, permitted := true }
    let w : World := { server := { config := {} } }
    (∃ log w', Run division AnyRule w log w' ∧ w'.server.draining = true ∧
      { k with stage := .connected ⟨9⟩ } ∈ w'.server.sessions ∧ w'.MissesNone division) ∧
    (∃ log w', Run division AnyRule w log w' ∧ w'.sweep = some .waiting ∧
      w'.server.table.cells.any (·.state.bridge.isSome) ∧ w'.MissesNone division) ∧
    ∃ log w', Run division AnyRule w log w' ∧ w'.sweep = some (.done true) ∧
      w'.MissesNone division := by
  intro division k w
  have index (h : Handle) : division.index h < division.count := Nat.zero_lt_one
  have fresh : w.Fresh := ⟨{}, _, rfl, rfl⟩
  have valid : (Message.request (.v4 ⟨203, 0, 113, 5⟩ 443) none).Valid :=
    ⟨by simp [Message.request], nofun⟩
  let opened : List (SessionSocket × Handle) := [(k.destinationSocket, ⟨9⟩), (k.clientSocket, ⟨7⟩)]
  let cell : Cell SessionState :=
    { owner := ⟨7⟩, state := k.connectingState (.v4 ⟨203, 0, 113, 5⟩ 443) }
  let held (stage : Stage) (c : Cell SessionState) : World :=
    alone {} { k with stage } [c] opened
  have connected : Reaches division AnyRule w (held (.connected ⟨9⟩) cell) := by
    have accepted : Run division AnyRule w [.accepted ⟨7⟩ k.clientAddress]
        (w.accept ⟨7⟩ k.clientAddress) := Run.start.step trivial (.accept ..)
    have connects : Reaches division OpensNew (w.accept ⟨7⟩ k.clientAddress)
        (held (.connected ⟨9⟩) cell) :=
      reaches_connected (by decide) valid rfl k.clientAddress (by decide)
    obtain ⟨log, run⟩ := connects
    exact ⟨_, accepted.append (run.mono fun _ _ _ => trivial)⟩
  have raised := (connected.step trivial (.shutdown (.inl rfl))).step trivial (.sweep rfl ())
  have replying : Reaches division AnyRule w (held (.replying ⟨9⟩ Message.empty.wire) cell) :=
    connected.advance (.head _) () (congrArg (Prod.mk _) (Stage.succeeding_eq _)) trivial
  have duplicating : Reaches division AnyRule w (held (.duplicating ⟨9⟩) cell) :=
    replying.advance (.head _) (.ok 4) rfl trivial
  have linking : Reaches division AnyRule w (held (.linking ⟨9⟩) cell) :=
    duplicating.advance (.head _) (.ok ()) rfl trivial
  have recording : Reaches division AnyRule w
      (held (.recording ⟨9⟩) { cell with partner := some ⟨9⟩ }) :=
    linking.advance (.head _) () rfl trivial
  have bridged : Reaches division AnyRule w
      (held .bridged ⟨cell.state.bridged ⟨⟨7⟩, ⟨9⟩, {}, {}⟩ k.destinationSocket, ⟨7⟩, some ⟨9⟩⟩) :=
    recording.advance (.head _) () rfl trivial
  have copying := bridged.advance (.head _) () rfl trivial
  have listed := ((copying.step trivial (.shutdown (.inl rfl))).step trivial (.sweep rfl ())).step
    trivial (.sweep rfl ())
  have lookedUp := listed.step trivial (.sweep rfl ())
  have stopped := (lookedUp.step trivial (.sweep rfl (Except.ok ()))).step trivial
    (.sweep rfl (Except.ok ()))
  have again := stopped.step trivial (.sweep rfl ())
  have swept := (again.step trivial (.sweep rfl (Except.ok ()))).step trivial
    (.sweep rfl (Except.ok ()))
  have rejecting := raised.advance (.head _) ()
    (congrArg (Prod.mk _) (Stage.failing_eq .shuttingDown)) trivial
  have told := rejecting.advance (.head _) (.ok 8) rfl trivial
  have marking := told.advance (.head _) (.ok ()) rfl trivial
  have leaving := marking.advance (.head _) () rfl trivial
  have ended := leaving.advance (.head _) () rfl trivial
  have waiting := ended.step trivial (.sweep rfl ())
  have checking := waiting.step trivial (.sweep rfl true)
  have drained := checking.step trivial (.sweep rfl ())
  obtain ⟨raisedLog, raised⟩ := raised
  obtain ⟨sweptLog, swept⟩ := swept
  obtain ⟨drainedLog, drained⟩ := drained
  exact ⟨⟨_, _, raised, rfl, .head _, shutdown_misses_no_bridge index fresh raised⟩,
    ⟨_, _, swept, rfl, rfl, shutdown_misses_no_bridge index fresh swept⟩,
    ⟨_, _, drained, rfl, shutdown_misses_no_bridge index fresh drained⟩⟩

end World

end Server

end TransportConverter
