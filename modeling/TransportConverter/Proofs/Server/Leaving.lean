import TransportConverter.Proofs.Server.Arrival
/-!
# Sessions leave the table before they close their sockets

The system gives a descriptor out again once its socket is closed, so a handle must not be tracked for
longer than its socket is open. A session takes its entry away before it closes anything, however its
calls are answered, but for one: where the destination's socket cannot be duplicated, it closes its sockets
and its entry stays (`tidy_unless_stranded`).
-/
namespace TransportConverter

namespace Stage

variable {k : Session} {stage : Stage} {h : Handle}

theorem keeps_client (stage : Stage) : stage.keeps .client = !stage.hasEnded := by
  cases stage <;> rfl

/-- A session that has ended waits for nothing. -/
theorem not_hasEnded (answer : stage.Answer) : stage.hasEnded = false := by
  cases stage with
  | ended result => cases answer
  | _ => rfl

theorem tracked_of_hasEnded (ended : stage.hasEnded = true) : stage.tracked = false := by
  cases stage <;> first | rfl | cases ended

theorem keeps_of_outbound? (outbound : stage.outbound? = some h) :
    stage.keeps .destination = true := by
  cases stage <;> first | rfl | cases outbound

/-- Who has two handles in the table keeps both sockets. -/
theorem Tells.keeps {state : SessionState} (tells : stage.Tells k (some h) state) :
    stage.keeps .destination = true := by
  cases stage with
  | rejecting error rest => cases tells.1
  | armingReset error => cases tells.1
  | marking error => cases tells.1
  | ended result => cases tells.2.1
  | _ => rfl

end Stage

namespace Server

namespace World

variable {w w' : World} {k : Session} {log log' : List Event} {division : Division} {h : Handle}

/-! ## Open sockets -/

/-- The session has been given `h` for its destination's socket, and may have it in the table. -/
def Reserves (w : World) (k : Session) (h : Handle) : Prop :=
  k.stage.outbound? = some h ∨ ∃ c ∈ w.server.table.cells, k.Owns c ∧ c.partner = some h

theorem Reserves.keeps (reserves : w.Reserves k h) : k.stage.keeps .destination = true := by
  rcases reserves with outbound | ⟨c, -, owns, beside⟩
  · exact Stage.keeps_of_outbound? outbound
  · have tells := owns.tells
    rw [beside] at tells
    exact tells.keeps

/-- What holds of the open sockets at every moment of a run. -/
structure Housed (w : World) : Prop where
  /-- No two sockets are open under one descriptor. -/
  distinct : (w.opened.map Prod.snd).Nodup
  client : ∀ k ∈ w.server.sessions, k.stage.hasEnded = false → (k.clientSocket, k.handle) ∈ w.opened
  destination : ∀ k ∈ w.server.sessions, ∀ h, w.Reserves k h → (k.destinationSocket, h) ∈ w.opened

theorem Fresh.housed (fresh : w.Fresh) : w.Housed := by
  obtain ⟨config, rfl⟩ := fresh.exists_config
  exact ⟨List.nodup_nil, by simp, by simp⟩

namespace Housed

theorem eq_of_handle (housed : w.Housed) {socket socket' : SessionSocket}
    (mem : (socket, h) ∈ w.opened) (mem' : (socket', h) ∈ w.opened) : socket = socket' :=
  congrArg Prod.fst (List.inj_on_of_nodup_map housed.distinct mem mem' rfl)

theorem same (housed : w.Housed) (same : w.Same w') (opened : w'.opened = w.opened) : w'.Housed := by
  obtain ⟨distinct, client, destination⟩ := housed
  obtain ⟨sessions, -, table⟩ := same
  unfold Reserves at destination
  rw [← opened] at distinct client destination
  rw [← sessions] at client destination
  rw [← table] at destination
  exact ⟨distinct, client, destination⟩

theorem accept (housed : w.Housed) {handle : Handle} (clientAddress : SocketAddress)
    (new : handle ∉ w.opened.map Prod.snd) : (w.accept handle clientAddress).Housed := by
  obtain ⟨distinct, client, destination⟩ := housed
  refine ⟨List.nodup_cons.2 ⟨new, distinct⟩, fun k mem going => ?_, fun k mem h reserves => ?_⟩
  · rcases mem_accept mem with mem | ⟨number, own, -⟩
    · exact List.mem_cons_of_mem _ (client k mem going)
    · rw [Session.clientSocket, number, own]
      exact List.mem_cons_self
  · rcases mem_accept mem with mem | ⟨-, -, arriving⟩
    · exact List.mem_cons_of_mem _ (destination k mem h reserves)
    · -- it has no destination yet
      rcases reserves with outbound | ⟨c, -, owns, -⟩
      · rw [arriving] at outbound
        cases outbound
      · have tells := owns.tells
        rw [arriving] at tells
        exact tells.elim

/-- What a session has after a step it had before, or was given in it. -/
theorem reserves_advance (sound : w.Sound log) (mem : k ∈ w.server.sessions)
    (answer : k.stage.Answer)
    (reserves : (w.advance k answer).Reserves { k with stage := (w.next k answer).2 } h) :
    w.Reserves k h ∨ k.stage.handed answer = some h := by
  have given (outbound : (w.next k answer).2.outbound? = some h) :
      w.Reserves k h ∨ k.stage.handed answer = some h :=
    ((w.leads_next k answer).outbound? outbound).imp_left .inl
  have beside {c : Cell SessionState} (there : c ∈ w.server.table.cells)
      (owns : Session.Owns { k with stage := (w.next k answer).2 } c) (some : c.partner = some h) :
      w.Reserves k h := .inr ⟨c, there, sound.owns_of_session mem there owns.session, some⟩
  rcases reserves with outbound | ⟨c, there, owns, some⟩
  · exact given outbound
  · rw [table_advance] at there
    cases sound.enters mem answer with
    | stays same tells tracked =>
      rw [same] at there
      exact .inl (beside there owns some)
    | puts new sound' swaps own owns' tracked bridged partner =>
      rcases (swaps c).1 there with ⟨⟨⟩⟩ | ⟨there, -⟩
      · rcases partner h some with outbound | before
        · exact given outbound
        · exact .inl (.inr before)
      · exact .inl (beside there owns some)
    | leaves sound' swaps own out =>
      rcases (swaps c).1 there with ⟨⟨⟩⟩ | ⟨there, -⟩
      exact .inl (beside there owns some)

theorem advance (housed : w.Housed) (sound : w.Sound log) (mem : k ∈ w.server.sessions)
    (answer : k.stage.Answer) (new : OpensNew w (.advanced k answer)) :
    (w.advance k answer).Housed := by
  have keeps {opened : SessionSocket × Handle} (before : opened ∈ w.opened) :
      opened ∈ (w.advance k answer).opened := List.mem_append_right _ before
  refine ⟨?_, fun k' mem' going => ?_, fun k' mem' h reserves => ?_⟩
  · show (((k.stage.handed answer).toList.map (k.destinationSocket, ·) ++ w.opened).map
      Prod.snd).Nodup
    cases given : k.stage.handed answer with
    | none => exact housed.distinct
    | some outbound => exact List.nodup_cons.2 ⟨new outbound given, housed.distinct⟩
  · rcases (sound.mem_advance mem answer).1 mem' with rfl | ⟨mem', -⟩
    · exact keeps (housed.client k mem (Stage.not_hasEnded answer))
    · exact keeps (housed.client k' mem' going)
  · rcases (sound.mem_advance mem answer).1 mem' with rfl | ⟨mem', other⟩
    · rcases reserves_advance sound mem answer reserves with before | given
      · exact keeps (housed.destination k mem h before)
      · refine List.mem_append_left _ ?_
        rw [given]
        exact List.mem_singleton_self _
    · refine keeps (housed.destination k' mem' h (reserves.imp_right ?_))
      rintro ⟨c, there, owns, some⟩
      exact ⟨c, (sound.mem_cells_advance mem answer (owns.session ▸ other)).1 there, owns, some⟩

theorem close (housed : w.Housed) (sound : w.Sound log) (mem : k ∈ w.server.sessions) {side : Side}
    (lets : k.stage.keeps side = false) : (w.close ⟨k.id, side⟩ h).Housed := by
  refine ⟨housed.distinct.sublist (List.filter_sublist.map _), fun k' mem' going => ?_,
    fun k' mem' h' reserves => ?_⟩
  · refine List.mem_filter.2 ⟨housed.client k' mem' going, ?_⟩
    rw [decide_eq_true_iff]
    intro same
    obtain ⟨number, client⟩ : k'.id = k.id ∧ Side.client = side := by
      simpa [Session.clientSocket] using congrArg Prod.fst same
    obtain rfl := sound.eq_of_id mem' mem number
    rw [← client, Stage.keeps_client, going] at lets
    cases lets
  · refine List.mem_filter.2 ⟨housed.destination k' mem' h' reserves, ?_⟩
    rw [decide_eq_true_iff]
    intro same
    obtain ⟨number, destination⟩ : k'.id = k.id ∧ Side.destination = side := by
      simpa [Session.destinationSocket] using congrArg Prod.fst same
    obtain rfl := sound.eq_of_id mem' mem number
    rw [← destination, reserves.keeps] at lets
    cases lets

theorem step {event : Event} (housed : w.Housed) (sound : w.Sound log) (new : OpensNew w event)
    (step : Step division w event w') : w'.Housed := by
  cases step with
  | start resting started => exact housed.same (same_start started) rfl
  | stop resting => exact housed.same ⟨rfl, rfl, rfl⟩ rfl
  | accept handle clientAddress => exact housed.accept clientAddress new
  | advance mem answer => exact housed.advance sound mem answer new
  | shutdown resting => exact housed.same ⟨rfl, rfl, rfl⟩ rfl
  | sweep goes answer => exact housed.same (w.same_sweepOn division _ answer) rfl
  | close mem opened lets => exact housed.close sound mem lets

theorem run (housed : w.Housed) (sound : w.Sound log) (run : Run division OpensNew w log' w') :
    w'.Housed :=
  sound.run_keeps run housed fun _ _ _ _ sound housed new step => housed.step sound new step

end Housed

/-! ## Entries that stay -/

/-- A session has ended, and its entry is still there. -/
structure Abandons (w : World) (k : Session) : Prop where
  mem : k ∈ w.server.sessions
  ended : k.stage.hasEnded = true
  entry : ∃ c ∈ w.server.table.cells, k.Owns c

theorem Abandons.step {event : Event} (abandons : w.Abandons k) (sound : w.Sound log)
    (step : Step division w event w') : w'.Abandons k := by
  obtain ⟨mem, ended, c, there, owns⟩ := abandons
  rcases same_of_step step with ⟨handle, clientAddress, -, rfl⟩ | ⟨k', mem', answer, -, rfl⟩ | same
  · exact ⟨List.mem_append_left _ mem, ended, c, there, owns⟩
  · have other : k.id ≠ k'.id := by
      intro same
      obtain rfl := sound.eq_of_id mem mem' same
      rw [Stage.not_hasEnded answer] at ended
      cases ended
    exact ⟨(sound.mem_advance mem' answer).2 (.inr ⟨mem, other⟩), ended, c,
      (sound.mem_cells_advance mem' answer (owns.session ▸ other)).2 there, owns⟩
  · refine ⟨?_, ended, c, ?_, owns⟩
    · rwa [same.sessions]
    · rwa [same.table]

theorem Abandons.run {rule : World → Event → Prop} (abandons : w.Abandons k) (sound : w.Sound log)
    (run : Run division rule w log' w') : w'.Abandons k :=
  sound.run_keeps (P := (·.Abandons k)) run abandons fun _ _ _ _ sound abandons _ step =>
    abandons.step sound step

theorem Abandons.contains (abandons : w.Abandons k) :
    w.server.table.contains k.handle = true := by
  obtain ⟨-, -, c, there, owns⟩ := abandons
  by_contra untracked
  have apart := Registry.names_eq_false_of_mem (by simpa using untracked) there
  rw [owns.names] at apart
  cases apart

/-- A session whose destination's socket cannot be duplicated leaves its entry behind. -/
theorem Sound.abandons_advance (sound : w.Sound log) (mem : k ∈ w.server.sessions)
    {answer : k.stage.Answer} (strands : k.stage.Strands answer) :
    (w.advance k answer).Abandons { k with stage := (w.next k answer).2 } := by
  have gone := (sound.mem_advance mem answer).2 (.inl rfl)
  have listed := sound.listed k mem
  obtain ⟨n, handle, address, permitted, stage⟩ := k
  cases stage with
  | duplicating outbound =>
    cases answer with
    | ok => exact strands.elim
    | error error =>
      obtain ⟨c, there, owns⟩ := listed rfl
      exact ⟨gone, rfl, c, there, owns.owner, ⟨error, rfl⟩, owns.tells⟩
  | _ => exact strands.elim

theorem Sound.abandons (sound : w.Sound []) {rule : World → Event → Prop}
    (run : Run division rule w log w') {id : Nat} (stranded : Stranded id log) :
    ∃ k, k.id = id ∧ w'.Abandons k := by
  induction run with
  | start =>
    obtain ⟨event, mem, -⟩ := stranded
    cases mem
  | step before _ next ih =>
    obtain ⟨event, mem, strands⟩ := stranded
    have sound' := sound.run before
    rcases List.mem_append.1 mem with earlier | now
    · obtain ⟨k, number, abandons⟩ := ih ⟨event, earlier, strands⟩
      exact ⟨k, number, abandons.step sound' next⟩
    · obtain rfl := List.mem_singleton.1 now
      cases next with
      | advance mem' answer =>
        refine ⟨_, ?_, sound'.abandons_advance mem' strands.2⟩
        exact strands.1
      | _ => exact strands.elim

/-! ## What is left of a session -/

/-- What is left of sessions in the table and of their sockets. -/
structure Tidy (division : Division) (log : List Event) (w : World) : Prop where
  /-- What is tracked is open, unless a session has been stranded. -/
  tracked : ∀ c ∈ w.server.table.cells, ∀ h, c.names h = true →
    (∃ side, (⟨c.state.clientSocket.session, side⟩, h) ∈ w.opened) ∨
      Stranded c.state.clientSocket.session log
  /-- What a session lets go of is not tracked any more, but for what stranded sessions have left. -/
  released : ∀ k ∈ w.server.sessions, ∀ side h, (⟨k.id, side⟩, h) ∈ w.opened →
    k.stage.keeps side = false → ∀ c ∈ w.server.table.cells, c.names h = true →
      Stranded c.state.clientSocket.session log
  /-- A session that has ended is in the table exactly if it was stranded. -/
  ended : ∀ k ∈ w.server.sessions, k.stage.hasEnded = true →
    ((∃ c ∈ w.server.table.cells, c.state.clientSocket.session = k.id) ↔ Stranded k.id log)
  /-- A session changes the entry of no other one. -/
  others : ∀ k ∈ w.server.sessions, ∀ answer (c : Cell SessionState),
    c.state.clientSocket.session ≠ k.id →
      (c ∈ (w.advance k answer).server.table.cells ↔ c ∈ w.server.table.cells)
  /-- What a stranded session has left is never taken away. -/
  stays : ∀ k ∈ w.server.sessions, Stranded k.id log → ∀ log' w',
    Run division OpensNew w log' w' → w'.server.table.contains k.handle = true

/-- A tracked handle is that of an open socket, or the session has ended. -/
theorem Housed.mem_opened (housed : w.Housed) (mem : k ∈ w.server.sessions) {c : Cell SessionState}
    (there : c ∈ w.server.table.cells) (owns : k.Owns c) (going : k.stage.hasEnded = false)
    (named : c.names h = true) :
    ∃ side, (⟨k.id, side⟩, h) ∈ w.opened ∧ k.stage.keeps side = true := by
  simp only [Cell.names, Bool.or_eq_true, beq_iff_eq] at named
  rcases named with own | beside
  · rw [← own, owns.owner]
    exact ⟨.client, housed.client k mem going, by rw [Stage.keeps_client, going]; rfl⟩
  · have reserves : w.Reserves k h := .inr ⟨c, there, owns, beside⟩
    exact ⟨.destination, housed.destination k mem h reserves, reserves.keeps⟩

/-- A granted request whose session is stranded. -/
theorem exists_stranded {config : ServerConfig} {m : Message} {destination : SocketAddress}
    (room : 0 < config.maxSessions) (valid : m.Valid)
    (granted : config.grant m.normal = .ok destination) (address : SocketAddress)
    {handle outbound : Handle} (other : outbound ≠ handle) (error : IoError) :
    let k : Session :=
      { id := 0, handle, clientAddress := address, permitted := true
        stage := .ended (.error (.io error)) }
    ∃ log w', Run division OpensNew (World.accept { server := { config } } handle address) log w' ∧
      Stranded 0 log ∧ w'.server.sessions = [k] ∧
      w'.server.table = ⟨[{ owner := handle, state := k.connectingState destination }]⟩ ∧
      w'.opened = [(k.destinationSocket, outbound), (k.clientSocket, handle)] := by
  intro k
  let held (stage : Stage) : World :=
    alone config { k with stage } [{ owner := handle, state := k.connectingState destination }]
      [(k.destinationSocket, outbound), (k.clientSocket, handle)]
  let w : World := World.accept { server := { config } } handle address
  have connected : Reaches division OpensNew w (held (.connected outbound)) :=
    reaches_connected room valid granted address other
  have replying : Reaches division OpensNew w (held (.replying outbound Message.empty.wire)) :=
    connected.advance (.head _) () (congrArg (Prod.mk _) (Stage.succeeding_eq _))
      (opensNew_of_handed rfl)
  have duplicating : Reaches division OpensNew w (held (.duplicating outbound)) :=
    replying.advance (.head _) (.ok 4) rfl (opensNew_of_handed rfl)
  obtain ⟨log, run⟩ := duplicating
  let event : Event := .advanced { k with stage := .duplicating outbound } (.error error)
  have strands : Step division (held (.duplicating outbound)) event _ := .advance (.head _) _
  have new : OpensNew (held (.duplicating outbound)) event := opensNew_of_handed rfl
  have ended := run.step new strands
  exact ⟨_, _, ended, ⟨_, List.mem_append_right _ (.head _), rfl, trivial⟩, rfl, rfl, rfl⟩

/-- **Sessions leave the table before they close their sockets**, but for those whose destination's socket
could not be duplicated: their entries stay for good. -/
theorem tidy_unless_stranded (fresh : w.Fresh) (run : Run division OpensNew w log w') :
    w'.Tidy division log := by
  have sound : w'.Sound log := fresh.sound.run run
  have housed := fresh.housed.run fresh.sound run
  have tracked {k : Session} (mem : k ∈ w'.server.sessions) {c : Cell SessionState}
      (there : c ∈ w'.server.table.cells) (owns : k.Owns c) {h : Handle} (named : c.names h = true) :
      (∃ side, (⟨k.id, side⟩, h) ∈ w'.opened ∧ k.stage.keeps side = true) ∨ Stranded k.id log := by
    by_cases ended : k.stage.hasEnded = true
    · exact .inr (sound.left k mem c there owns (Stage.tracked_of_hasEnded ended))
    · exact .inl (housed.mem_opened mem there owns (Bool.eq_false_iff.2 ended) named)
  refine ⟨fun c there h named => ?_, fun k mem side h opened lets c there named => ?_,
    fun k mem ended => ⟨?_, fun stranded => ?_⟩, fun k mem answer c other => ?_,
    fun k mem stranded log' w'' later => ?_⟩
  · obtain ⟨k, mem, owns⟩ := sound.owned c there
    rw [owns.session]
    exact (tracked mem there owns named).imp_left fun ⟨side, opened, _⟩ => ⟨side, opened⟩
  · obtain ⟨k', mem', owns⟩ := sound.owned c there
    rw [owns.session]
    refine (tracked mem' there owns named).resolve_left ?_
    rintro ⟨side', opened', keeps⟩
    -- the two are one socket, and it cannot be both kept and let go
    obtain ⟨number, rfl⟩ : k'.id = k.id ∧ side' = side := by
      simpa using housed.eq_of_handle opened' opened
    obtain rfl := sound.eq_of_id mem' mem number
    rw [keeps] at lets
    cases lets
  · rintro ⟨c, there, own⟩
    exact sound.left k mem c there (sound.owns_of_session mem there own)
      (Stage.tracked_of_hasEnded ended)
  · obtain ⟨k', number, -, -, c, there, owns⟩ := fresh.sound.abandons run stranded
    exact ⟨c, there, owns.session.trans number⟩
  · exact sound.mem_cells_advance mem answer other
  · obtain ⟨k', number, abandons⟩ := fresh.sound.abandons run stranded
    obtain rfl := sound.eq_of_id abandons.mem mem number
    exact (abandons.run sound later).contains

/-- The first session is stranded. -/
theorem tidy_unless_stranded_first :
    let division : Division := ⟨1, fun _ => 0⟩
    let w : World := { server := { config := {} } }
    w.Fresh ∧ ∃ log w', Run division OpensNew w log w' ∧ Stranded 0 log ∧ w'.Tidy division log := by
  intro division w
  have fresh : w.Fresh := ⟨{}, _, rfl, rfl⟩
  have valid : (Message.request (.v4 ⟨203, 0, 113, 5⟩ 443) none).Valid :=
    ⟨by simp [Message.request], nofun⟩
  have accepted : Run division OpensNew w [.accepted ⟨7⟩ (.v4 ⟨192, 0, 2, 9⟩ 50000)]
      (w.accept ⟨7⟩ (.v4 ⟨192, 0, 2, 9⟩ 50000)) := Run.start.step List.not_mem_nil (.accept ..)
  have room : 0 < ServerConfig.maxSessions {} := by decide
  obtain ⟨log, w', run, ⟨event, mem, strands⟩, -⟩ := exists_stranded room valid rfl
    (.v4 ⟨192, 0, 2, 9⟩ 50000) (show (⟨9⟩ : Handle) ≠ ⟨7⟩ by decide) (.system 24)
  have whole := accepted.append run
  exact ⟨fresh, _, w', whole, ⟨event, List.mem_append_right _ mem, strands⟩,
    tidy_unless_stranded fresh whole⟩

/-- A session that was accepted under a handle that was not tracked can close its socket while the
handle is tracked. -/
theorem not_untracked_before_close :
    ¬ ∀ (division : Division) (w w₁ w₂ : World) (log log' : List Event) (handle : Handle)
      (clientAddress : SocketAddress), w.Fresh → Run division OpensNew w log w₁ →
      w₁.server.table.contains handle = false → handle ∉ w₁.opened.map Prod.snd →
      Run division OpensNew (w₁.accept handle clientAddress) log' w₂ →
      ∀ k ∈ w₂.server.sessions, k.id = w₁.server.accepted →
        ∀ side h, (⟨k.id, side⟩, h) ∈ w₂.opened → k.stage.keeps side = false →
          w₂.server.table.contains h = false := by
  intro claim
  let w : World := { server := { config := {} } }
  have fresh : w.Fresh := ⟨{}, _, rfl, rfl⟩
  have valid : (Message.request (.v4 ⟨203, 0, 113, 5⟩ 443) none).Valid :=
    ⟨by simp [Message.request], nofun⟩
  have room : 0 < ServerConfig.maxSessions {} := by decide
  obtain ⟨log, w', run, -, sessions, table, opened⟩ := exists_stranded room valid rfl
    (.v4 ⟨192, 0, 2, 9⟩ 50000) (show (⟨9⟩ : Handle) ≠ ⟨7⟩ by decide) (.system 24)
  have untracked := claim ⟨1, fun _ => 0⟩ w w w' [] log ⟨7⟩ _ fresh .start rfl List.not_mem_nil run _
    (by rw [sessions]; exact .head _) rfl .client ⟨7⟩
    (by rw [opened]; exact .tail _ (.head _)) rfl
  rw [table] at untracked
  cases untracked

end World

end Server

end TransportConverter
