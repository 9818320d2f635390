import TransportConverter.Proofs.Converter.Standing
/-!
# A session does what its stages say

Every stage leads to one that stands as it should, whatever the answer (`World.Sound.advance`), and so a
session stands as it should at every moment of a run (`Run.sound`). The pieces of a bridge are
one lemma on one direction (`Lane.Carries.resume`).
-/
namespace TransportConverter

open Session

namespace Stage

/-! ## Where a session goes -/

theorem failing_eq (error : ConverterError) : failing error =
    match error.replyCode with
    | some code => rejecting error (Message.failure code).wire
    | none => marking error := by
  unfold failing
  cases error.replyCode with
  | some code => simp only [Message.encode_of_valid (Message.valid_failure code)]
  | none => rfl

theorem succeeding_eq (outbound : Handle) :
    succeeding outbound = replying outbound Message.empty.wire := by
  have valid : Message.empty.Valid := ⟨by simp [Message.empty], nofun⟩
  rw [succeeding, Message.encode_of_valid valid]

theorem judge_eq_ok {config : ServerConfig} {permitted : Bool} {message : Bytes}
    {destination : SocketAddress} (judged : config.judge permitted message = .ok destination) :
    ∃ m used, Message.decode message = .ok (m, used) := by
  unfold ServerConfig.judge at judged
  split at judged
  · cases judged
  · exact ⟨_, _, ‹_›⟩

section resume

variable {s s' : ConverterState} {k : Session} {stage' : Stage} {destination : SocketAddress}
  {outbound : Handle} {sides : List Side}

theorem resume_connecting {answer : (connecting destination).Answer}
    (resumed : (connecting destination).resume s k answer = (s', stage')) :
    s' = s ∧ ((∃ outbound, stage' = connected outbound) ∨
      ∃ error, stage' = failing (.bridgeConnect destination error)) := by
  cases answer with
  | late =>
    cases resumed
    exact ⟨rfl, .inr ⟨_, rfl⟩⟩
  | inTime answer =>
    cases answer with
    | ok outbound =>
      cases resumed
      exact ⟨rfl, .inl ⟨outbound, rfl⟩⟩
    | error error =>
      cases resumed
      exact ⟨rfl, .inr ⟨error, rfl⟩⟩

theorem resume_connected {answer : (connected outbound).Answer}
    (resumed : (connected outbound).resume s k answer = (s', stage')) :
    s' = s ∧ (stage' = failing .shuttingDown ∨ stage' = replying outbound Message.empty.wire) := by
  simp only [resume, succeeding_eq, Prod.mk.injEq] at resumed
  obtain ⟨rfl, goes⟩ := resumed
  split at goes
  · exact ⟨rfl, .inl goes.symm⟩
  · exact ⟨rfl, .inr goes.symm⟩

theorem resume_linking {answer : (linking outbound).Answer}
    (resumed : (linking outbound).resume s k answer = (s', stage')) :
    (∃ table, s.table.link k.handle outbound = .ok table ∧ s' = { s with table } ∧
      stage' = recording outbound) ∨
    ∃ error, s' = s ∧ stage' = leaving (.error (.registry error)) := by
  simp only [resume] at resumed
  split at resumed
  · rename_i table linked
    cases resumed
    exact .inl ⟨table, linked, rfl, rfl⟩
  · cases resumed
    exact .inr ⟨_, rfl, rfl⟩

theorem resume_bridged {answer : bridged.Answer}
    (resumed : bridged.resume s k answer = (s', stage')) :
    s' = s ∧ ((∃ sides, stage' = stopping sides) ∨ stage' = copying .reading .reading) := by
  simp only [resume, Prod.mk.injEq] at resumed
  obtain ⟨rfl, goes⟩ := resumed
  split at goes
  · exact ⟨rfl, .inl ⟨_, goes.symm⟩⟩
  · exact ⟨rfl, .inr goes.symm⟩

theorem resume_stopping {answer : (stopping sides).Answer}
    (resumed : (stopping sides).resume s k answer = (s', stage')) :
    s' = s ∧ ((∃ sides, stage' = stopping sides) ∨ stage' = copying .reading .reading) := by
  cases sides with
  | nil =>
    cases resumed
    exact ⟨rfl, .inr rfl⟩
  | cons side sides =>
    cases sides with
    | nil =>
      cases resumed
      exact ⟨rfl, .inr rfl⟩
    | cons side' sides =>
      cases resumed
      exact ⟨rfl, .inl ⟨_, rfl⟩⟩

/-- A session leaves the configuration alone. -/
theorem config_resume {stage stage' : Stage} {answer : stage.Answer}
    (resumed : stage.resume s k answer = (s', stage')) : s'.config = s.config := by
  cases stage with
  | arriving => cases answer <;> cases resumed <;> rfl
  | entering =>
    simp only [resume] at resumed
    split at resumed <;> cases resumed <;> rfl
  | reading reader => cases answer <;> cases resumed <;> rfl
  | connecting destination =>
    rw [(resume_connecting resumed).1]
  | replying outbound rest =>
    simp only [resume] at resumed
    split at resumed <;> cases resumed <;> rfl
  | duplicating outbound => cases answer <;> cases resumed <;> rfl
  | linking outbound =>
    obtain ⟨table, -, rfl, -⟩ | ⟨error, rfl, -⟩ := resume_linking resumed <;> rfl
  | stopping sides => rw [(resume_stopping resumed).1]
  | copying upward downward => cases answer <;> cases resumed <;> rfl
  | rejecting error rest =>
    simp only [resume] at resumed
    split at resumed <;> cases resumed <;> rfl
  | ended result => cases answer
  | _ => cases resumed; rfl

end resume

end Stage

namespace Session

/-- A session that has told the client nothing yet may fail in any way. -/
theorem stands_failing {w : World} {taken : Bytes} (begins : w.Begins taken []) (listed : w.Listed)
    (error : ConverterError) :
    (Stage.failing error).Stands w := by
  rw [Stage.failing_eq]
  cases told : error.replyCode with
  | some code => exact ⟨listed, taken, [], code, begins, told, List.nil_append _⟩
  | none => exact ⟨listed, taken, [], begins, .inl (List.nil_prefix ..)⟩

/-! ## One direction of a bridge -/

end Session

/-- Where a direction is that was `before` and is answered. -/
def CopyProgress.position (before : Position) : CopyProgress → Position
  | waiting copy => copy.position
  | moved count => .counting count
  | sourceEnded => .ending
  | failed _ => before

namespace Session

variable {w : World} {taken said : Bytes} {position : Direction → Position}

/-- What is taken of a source is under way. -/
theorem Lane.Carries.read {lane : Lane} {opening greeting : Bytes} {count n : Nat}
    (carries : lane.Carries opening greeting .reading count) (there : n ≤ lane.source.held.length) :
    Lane.Carries { lane with source := lane.source.advance n } opening greeting
      (.writing (lane.source.held.take n) n) count := by
  obtain ⟨⟨moved, taken, sent, length⟩, -, told⟩ := carries
  refine ⟨⟨moved, ?_, sent, ?_⟩, nofun, ?_⟩
  · rw [Pipe.advance, taken]
    simp [Position.rest]
  · simp only [Position.rest, Position.size, List.length_nil] at length ⊢
    rw [List.length_take_of_le there]
    omega
  · simpa using told

/-- What a target is given has been moved. -/
theorem Lane.Carries.written {lane : Lane} {opening greeting written left : Bytes} {count n : Nat}
    {p : Position} (carries : lane.Carries opening greeting (.writing (written ++ left) n) count)
    (rest : p.rest = left) (size : p.size = n) (going : p.sourceEnded = false) :
    Lane.Carries { lane with target := lane.target.put written } opening greeting p count := by
  obtain ⟨⟨moved, taken, sent, length⟩, -, told⟩ := carries
  change lane.source.taken = opening ++ moved ++ (written ++ left) at taken
  change count + n = moved.length + (written ++ left).length at length
  refine ⟨⟨moved ++ written, ?_, ?_, ?_⟩, ?_, ?_⟩
  · rw [taken, rest]
    simp only [List.append_assoc]
  · rw [Pipe.sent_put, sent, List.append_assoc]
  · rw [List.length_append] at length ⊢
    rw [rest, size]
    omega
  · rw [going]
    exact nofun
  · have open' : p ≠ .finished := by
      rintro rfl
      cases going
    rw [Pipe.ended_put, told]
    exact iff_of_false nofun open'

/-- **A direction goes on in order**, whatever its answer. -/
theorem Lane.Carries.resume {lane lane' : Lane} {opening greeting : Bytes} {count room : Nat}
    {c : Copy} {answer : c.Answer} (carries : lane.Carries opening greeting c.position count)
    (moves : c.Moves room lane answer lane') :
    lane'.Carries opening greeting ((c.resume answer).position c.position) count := by
  cases c with
  | reading =>
    obtain ⟨source, reads, rfl⟩ := moves
    cases reads with
    | fails error => exact carries
    | eof exhausted =>
      obtain ⟨moved, -, told⟩ := carries
      exact ⟨moved, fun _ => exhausted, told.trans (iff_of_false nofun nofun)⟩
    | piece n positive fits there =>
      have taken := carries.read there
      have length : (lane.source.held.take n).length = n := List.length_take_of_le there
      revert taken length
      generalize lane.source.held.take n = piece
      intro taken length
      cases piece with
      | nil => exact absurd length (Nat.ne_of_lt positive)
      | cons byte piece =>
        rw [← length] at taken
        exact length ▸ taken
  | writing rest n =>
    obtain ⟨target, writes, rfl⟩ := moves
    rcases writes.cases with ⟨error, failed, rfl⟩ | ⟨written, left, rfl, ok, rfl⟩
    · rw [Copy.resume, failed]
      exact carries
    · rw [Copy.resume, ok]
      cases left with
      | nil => exact carries.written rfl rfl rfl
      | cons byte left => exact carries.written rfl rfl rfl
  | done => cases answer

/-! ## Both of them -/

namespace World

variable {shared : ConverterState} {session : Session} {lanes : Lanes}

/-- The client was told some more. -/
theorem Begins.tell (begins : World.Begins ⟨shared, session, lanes⟩ taken said) (written : Bytes) :
    World.Begins ⟨shared, session, lanes.withTarget .downward ((lanes .downward).target.put written)⟩
      taken (said ++ written) := by
  obtain ⟨upward, downward⟩ := begins
  refine ⟨?_, ?_⟩
  · dsimp only
    rw [Lanes.withTarget_ne _ (show Direction.upward ≠ .downward from nofun)]
    exact upward
  · dsimp only
    rw [Lanes.withTarget_self]
    refine ⟨downward.taken, ?_, downward.going⟩
    rw [Pipe.sent_put, downward.sent]

/-- The client was told a part of `rest`, or the write failed. -/
theorem Begins.write (begins : World.Begins ⟨shared, session, lanes⟩ taken said) {rest : Bytes}
    {answer : Except IoError Nat} {target : Pipe}
    (writes : (lanes .downward).target.Writes rest answer target) : ∃ written left,
      rest = written ++ left ∧
      World.Begins ⟨shared, session, lanes.withTarget .downward target⟩ taken (said ++ written) ∧
      (unwritten rest answer = .ok left ∨ ∃ error, unwritten rest answer = .error error) := by
  rcases writes.cases with ⟨error, failed, rfl⟩ | ⟨written, left, rfl, ok, rfl⟩
  · have begins' := begins.tell []
    rw [Pipe.put_nil] at begins'
    exact ⟨[], rest, rfl, begins', .inr ⟨error, failed⟩⟩
  · exact ⟨written, left, rfl, begins.tell written, .inl ok⟩

/-- Some more was taken from the client. -/
theorem Begins.take (begins : World.Begins ⟨shared, session, lanes⟩ taken said) (source : Pipe) :
    World.Begins ⟨shared, session, lanes.withSource .upward source⟩ source.taken said := by
  obtain ⟨upward, downward⟩ := begins
  refine ⟨?_, ?_⟩
  · dsimp only
    rw [Lanes.withSource_self]
    exact ⟨rfl, upward.sent, upward.going⟩
  · dsimp only
    rw [Lanes.withSource_ne _ (show Direction.downward ≠ .upward from nofun)]
    exact downward

/-- A bridge begins once success was reported. -/
theorem Begins.carries {request : Bytes} (begins : w.Begins request Message.empty.wire)
    (whole : IsMessage request) : w.Carries request (fun _ => .reading) fun _ => 0 := by
  refine ⟨whole, fun d => ?_⟩
  cases d with
  | upward => exact begins.1.carries
  | downward => exact begins.2.carries

/-- One direction goes on. -/
theorem Carries.set {request : Bytes} {counts : Direction → Nat}
    (carries : World.Carries ⟨shared, session, lanes⟩ request position counts) {d : Direction}
    {lane : Lane} {p : Position} {count : Nat}
    (goes : (lanes d).Carries (opening request d) (greeting d) (position d) (counts d) →
      lane.Carries (opening request d) (greeting d) p count) :
    World.Carries ⟨shared, session, Function.update lanes d lane⟩ request
      (Function.update position d p) (Function.update counts d count) := by
  refine ⟨carries.1, fun d' => ?_⟩
  by_cases own : d' = d
  · subst own
    simp only [Function.update_self]
    exact goes (carries.2 d')
  · simp only [Function.update_of_ne own]
    exact carries.2 d'

/-- One direction moves a piece, or learns that its source has ended. -/
theorem Bridges.move (bridges : World.Bridges ⟨shared, session, lanes⟩ position) {d : Direction}
    {lane : Lane} {p : Position}
    (goes : ∀ {opening greeting count}, (lanes d).Carries opening greeting (position d) count →
      lane.Carries opening greeting p count) :
    World.Bridges ⟨shared, session, Function.update lanes d lane⟩ (Function.update position d p) := by
  obtain ⟨request, outbound, s, bridge, carries, listed⟩ := bridges
  refine ⟨request, outbound, s, bridge, ?_, listed⟩
  have set := carries.set (d := d) goes
  rwa [Function.update_eq_self] at set

/-- What the table tells of the bridge is brought up to date. -/
theorem Bridges.onBridge (bridges : w.Bridges position) {f : Bridge → Bridge}
    {position' : Direction → Position}
    (client : ∀ b, (f b).client = b.client) (destination : ∀ b, (f b).destination = b.destination)
    (goes : ∀ (bridge : Bridge) d {opening greeting},
      (w.lanes d).Carries opening greeting (position d) (bridge.direction d).bytes →
      (w.lanes d).Carries opening greeting (position' d) ((f bridge).direction d).bytes) :
    World.Bridges { w with shared := w.shared.update w.session.handle (·.onBridge f) } position' := by
  obtain ⟨request, outbound, s, bridge, carries, lists, there, own, other⟩ := bridges
  refine ⟨request, outbound, _, f bridge, ⟨carries.1, fun d => goes bridge d (carries.2 d)⟩,
    lists.update _, ?_, (client bridge).trans own, (destination bridge).trans other⟩
  rw [SessionState.onBridge, there]
  rfl

end World

theorem stands_copied {d : Direction} {wait : Copy → Copy × Copy} {progress : CopyProgress}
    (own : ∀ c, d.pick (wait c).1 (wait c).2 = c)
    (others : ∀ c d', d' ≠ d → (d'.pick (wait c).1 (wait c).2).position = position d')
    (bridges : w.Bridges (Function.update position d (progress.position (position d)))) :
    (Stage.copied d wait progress).Stands w := by
  cases progress with
  | failed error => exact ⟨_, bridges, nofun⟩
  | waiting copy =>
    have same : Function.update position d copy.position =
        fun d' => (d'.pick (wait copy).1 (wait copy).2).position := by
      funext d'
      by_cases eq : d' = d
      · rw [eq, Function.update_self, own]
      · rw [Function.update_of_ne eq, others copy d' eq]
    show w.Bridges _
    rw [← same]
    exact bridges
  | moved count =>
    have same : Function.update position d (.counting count) = fun d' =>
        if d' = d then .counting count else (d'.pick (wait .reading).1 (wait .reading).2).position := by
      funext d'
      by_cases eq : d' = d
      · rw [eq, Function.update_self, if_pos rfl]
      · rw [Function.update_of_ne eq, if_neg eq, others .reading d' eq]
    exact ⟨own .reading, same ▸ bridges⟩
  | sourceEnded =>
    have same : Function.update position d .ending = fun d' =>
        if d' = d then .ending else (d'.pick (wait .done).1 (wait .done).2).position := by
      funext d'
      by_cases eq : d' = d
      · rw [eq, Function.update_self, if_pos rfl]
      · rw [Function.update_of_ne eq, if_neg eq, others .done d' eq]
    exact ⟨own .done, same ▸ bridges⟩

/-- The target of a direction is told that there is no more. -/
theorem Lane.Carries.close {lane : Lane} {opening greeting : Bytes} {count : Nat}
    (carries : lane.Carries opening greeting .ending count) :
    Lane.Carries { lane with target := lane.target.close } opening greeting .finished count :=
  ⟨carries.moved, fun _ => carries.exhausted rfl, iff_of_true rfl rfl⟩

/-- A piece is counted. -/
theorem Lane.Carries.counted {lane : Lane} {opening greeting : Bytes} {count n : Nat}
    (carries : lane.Carries opening greeting (.counting n) count) :
    lane.Carries opening greeting .reading (count + n) := by
  obtain ⟨moved, -, told⟩ := carries
  exact ⟨moved, nofun, told.trans (iff_of_false nofun nofun)⟩

/-- Counting in one direction leaves the other counter alone. -/
theorem bytes_counted (bridge : Bridge) (d d' : Direction) (count : Nat) :
    ((bridge.counted d count).direction d').bytes =
      if d' = d then (bridge.direction d').bytes + count else (bridge.direction d').bytes := by
  cases d <;> cases d' <;> rfl

theorem bytes_ended (bridge : Bridge) (d d' : Direction) :
    ((bridge.ended d).direction d').bytes = (bridge.direction d').bytes := by
  cases d <;> cases d' <;> rfl

/-! ## Every stage leads to one that stands -/

theorem bridges_of_eq {position' : Direction → Position} (bridges : w.Bridges position)
    (same : ∀ d, position' d = position d) : w.Bridges position' := by
  rwa [funext same]

/-- A bridge begins with both directions. -/
theorem position_start (d : Direction) :
    (d.pick Copy.reading Copy.reading).position = .reading := by
  cases d <;> rfl

/-- A bridge that goes on or is over. -/
theorem stands_bridging {upward downward : Copy}
    (bridges : w.Bridges fun d => (d.pick upward downward).position) :
    (Stage.bridging upward downward).Stands w := by
  unfold Stage.bridging
  split
  · exact ⟨_, bridges, fun _ d => by cases d <;> rfl⟩
  · exact bridges

/-- A whole message may be a request that is granted. -/
theorem stands_judged {message : Bytes} {header : Header} (begins : w.Begins message [])
    (listed : w.Listed) (opens : Header.decode message = .ok header)
    (length : header.messageLength = message.length) :
    (Stage.judged w.shared.config w.session.permitted message).Stands w := by
  unfold Stage.judged
  split
  · rename_i destination judged
    obtain ⟨m, used, read⟩ := Stage.judge_eq_ok judged
    obtain ⟨header', opens', rfl, -⟩ := Message.messageLength_of_decode read
    rw [opens] at opens'
    cases opens'
    rw [length] at read
    exact ⟨listed, message, begins, ⟨m, read⟩, judged⟩
  · exact stands_failing begins listed _

/-- Whatever becomes of the reading of a request. -/
theorem stands_request {progress : RequestProgress} (begins : w.Begins taken []) (listed : w.Listed)
    (waits : ∀ reader, progress = .waiting reader →
      reader.Fits taken (w.lanes .upward).source.sent)
    (whole : ∀ message, progress = .done (.ok message) → taken = message ∧
      ∃ header, Header.decode message = .ok header ∧ header.messageLength = message.length) :
    (Stage.request w.shared.config w.session.permitted progress).Stands w := by
  cases progress with
  | waiting reader => exact ⟨listed, taken, begins, waits reader rfl⟩
  | done result =>
    cases result with
    | error error => exact stands_failing begins listed error
    | ok message =>
      obtain ⟨rfl, header, opens, length⟩ := whole message rfl
      exact stands_judged begins listed opens length

/-- A session and the table stand as they should. -/
structure World.Sound (w : World) : Prop where
  table : w.shared.table.Sound
  stands : w.session.stage.Stands w

theorem World.Sound.advance (sound : w.Sound) {answer : w.session.stage.Answer}
    {shared : ConverterState} {stage : Stage} {lanes : Lanes}
    (moves : w.session.stage.Moves w.shared.config w.lanes answer lanes)
    (resumed : w.session.stage.resume w.shared w.session answer = (shared, stage)) :
    World.Sound { shared, lanes, session := { w.session with stage } } := by
  obtain ⟨shared₀, ⟨n, handle, address, permitted, stage₀⟩, lanes₀⟩ := w
  obtain ⟨table, stands⟩ := sound
  dsimp only at table stands moves resumed ⊢
  -- nothing that stands depends on the stage that the session is at
  replace stands : stage₀.Stands ⟨shared₀, ⟨n, handle, address, permitted, stage⟩, lanes₀⟩ :=
    stands.frame ⟨rfl, rfl, rfl, fun _ _ lists => lists, fun d => .refl _⟩
  cases stage₀ with
  | arriving =>
    obtain rfl : lanes = lanes₀ := moves
    cases answer with
    | ok u =>
      cases resumed
      exact ⟨table, stands⟩
    | error error =>
      cases resumed
      exact ⟨table, .inr ⟨nofun, [], [], stands, .inl (List.nil_prefix ..)⟩⟩
  | entering =>
    obtain rfl : lanes = lanes₀ := moves
    simp only [Stage.resume] at resumed
    split at resumed
    · rename_i table' inserted
      cases resumed
      exact ⟨table.insert inserted, ⟨_, Registry.lists_of_insert inserted⟩, stands⟩
    · cases resumed
      exact ⟨table, .inr ⟨nofun, [], [], stands, .inl (List.nil_prefix ..)⟩⟩
  | announcing =>
    obtain rfl : lanes = lanes₀ := moves
    cases resumed
    obtain ⟨⟨s, lists⟩, begins⟩ := stands
    exact ⟨table.update _ _, ⟨_, lists.update _⟩, [], begins, rfl⟩
  | reading reader =>
    obtain ⟨listed, taken, begins, fits⟩ := stands
    obtain rfl : (lanes₀ .upward).source.taken = taken := begins.1.taken
    cases answer with
    | late =>
      obtain ⟨lost, rfl⟩ := moves
      cases resumed
      refine ⟨table, ?_⟩
      dsimp only
      exact stands_failing (begins.take _) listed _
    | inTime given =>
      obtain ⟨source, gives, rfl⟩ := moves
      cases resumed
      obtain ⟨-, waits, whole⟩ := fits.resume gives
      refine ⟨table, ?_⟩
      dsimp only
      refine stands_request (begins.take source) listed ?_ whole
      dsimp only
      rwa [Lanes.withSource_self]
  | admitted destination =>
    obtain rfl : lanes = lanes₀ := moves
    cases resumed
    obtain ⟨⟨s, lists⟩, request, begins, whole, judged⟩ := stands
    exact ⟨table.update _ _, ⟨_, lists.update _⟩, request, begins, whole, judged⟩
  | connecting destination =>
    obtain rfl : lanes = lanes₀ := moves
    obtain ⟨listed, request, begins, whole, -⟩ := stands
    obtain ⟨rfl, ⟨outbound, rfl⟩ | ⟨error, rfl⟩⟩ := Stage.resume_connecting resumed
    · exact ⟨table, listed, request, begins, whole⟩
    · exact ⟨table, stands_failing begins listed (.bridgeConnect destination error)⟩
  | connected outbound =>
    obtain rfl : lanes = lanes₀ := moves
    obtain ⟨listed, request, begins, whole⟩ := stands
    obtain ⟨rfl, rfl | rfl⟩ := Stage.resume_connected resumed
    · exact ⟨table, stands_failing begins listed .shuttingDown⟩
    · exact ⟨table, listed, request, [], begins, whole, List.nil_append _⟩
  | replying outbound rest =>
    obtain ⟨listed, request, said, begins, whole, split⟩ := stands
    obtain ⟨target, writes, rfl⟩ := moves
    simp only [Stage.resume] at resumed
    obtain ⟨written, left, rfl, begins', ok | ⟨error, failed⟩⟩ := begins.write writes
    · rw [← List.append_assoc] at split
      rw [ok] at resumed
      cases left with
      | nil =>
        cases resumed
        rw [List.append_nil] at split
        exact ⟨table, listed, request, split ▸ begins', whole⟩
      | cons byte left =>
        cases resumed
        exact ⟨table, listed, request, _, begins', whole, split⟩
    · rw [← List.append_assoc] at split
      rw [failed] at resumed
      cases resumed
      exact ⟨table, listed, request, _, begins', .inl ⟨left, split⟩⟩
  | duplicating outbound =>
    obtain rfl : lanes = lanes₀ := moves
    cases answer with
    | ok u =>
      cases resumed
      exact ⟨table, stands⟩
    | error error =>
      cases resumed
      obtain ⟨-, request, begins, whole⟩ := stands
      exact ⟨table, .inl ⟨request, _, _, begins.carries whole, nofun⟩⟩
  | linking outbound =>
    obtain rfl : lanes = lanes₀ := moves
    obtain ⟨⟨s, lists⟩, request, begins, whole⟩ := stands
    obtain ⟨table', linked, rfl, rfl⟩ | ⟨error, rfl, rfl⟩ := Stage.resume_linking resumed
    · exact ⟨table.link linked, ⟨s, lists.link table linked⟩, request, begins, whole⟩
    · exact ⟨table, ⟨_, s, lists⟩, .inl ⟨request, _, _, begins.carries whole, nofun⟩⟩
  | recording outbound =>
    obtain rfl : lanes = lanes₀ := moves
    cases resumed
    obtain ⟨⟨s, lists⟩, request, begins, whole⟩ := stands
    refine ⟨table.update _ _, request, outbound, _, _, ?_, lists.update _, rfl, rfl, rfl⟩
    have carries := begins.carries whole
    exact ⟨carries.1, fun d => by cases d <;> exact carries.2 _⟩
  | bridged =>
    obtain rfl : lanes = lanes₀ := moves
    obtain ⟨rfl, ⟨sides, rfl⟩ | rfl⟩ := Stage.resume_bridged resumed
    · exact ⟨table, stands⟩
    · exact ⟨table, bridges_of_eq stands position_start⟩
  | stopping sides =>
    have grows (d : Direction) : (lanes₀ d).Grows (lanes d) := by
      cases sides with
      | nil => exact moves ▸ .refl _
      | cons side sides =>
        cases answer with
        | ok u => exact moves ▸ Lane.Grows.withSource (.stop _) d
        | error error => exact moves ▸ .refl _
    have frame : Frame ⟨shared₀, ⟨n, handle, address, permitted, stage⟩, lanes₀⟩
        ⟨shared₀, ⟨n, handle, address, permitted, stage⟩, lanes⟩ :=
      ⟨rfl, rfl, rfl, fun _ _ lists => lists, grows⟩
    have bridges := frame.bridges stands
    obtain ⟨rfl, ⟨sides', rfl⟩ | rfl⟩ := Stage.resume_stopping resumed
    · exact ⟨table, bridges⟩
    · exact ⟨table, bridges_of_eq bridges position_start⟩
  | copying upward downward =>
    cases answer with
    | inl answer =>
      obtain ⟨lane, moves, rfl⟩ := moves
      cases resumed
      refine ⟨table, ?_⟩
      dsimp only
      refine stands_copied (d := .upward) (fun _ => rfl) ?_ (stands.move fun carries => ?_)
      · intro c d' ne
        cases d' with
        | upward => exact absurd rfl ne
        | downward => rfl
      · exact carries.resume moves
    | inr answer =>
      obtain ⟨lane, moves, rfl⟩ := moves
      cases resumed
      refine ⟨table, ?_⟩
      dsimp only
      refine stands_copied (d := .downward) (fun _ => rfl) ?_ (stands.move fun carries => ?_)
      · intro c d' ne
        cases d' with
        | upward => rfl
        | downward => exact absurd rfl ne
      · exact carries.resume moves
  | counting d count upward downward =>
    obtain rfl : lanes = lanes₀ := moves
    cases resumed
    obtain ⟨own, bridges⟩ := stands
    refine ⟨table.update _ _, bridges.onBridge (fun _ => ?_) (fun _ => ?_) ?_⟩
    · cases d <;> rfl
    · cases d <;> rfl
    · intro bridge d' opening greeting here
      rw [bytes_counted]
      by_cases eq : d' = d
      · subst eq
        rw [if_pos rfl] at here ⊢
        rw [own]
        exact here.counted
      · rw [if_neg eq] at here ⊢
        exact here
  | ending d upward downward =>
    obtain rfl : lanes = lanes₀ := moves
    cases resumed
    obtain ⟨own, bridges⟩ := stands
    refine ⟨table.update _ _, own, bridges.onBridge (fun _ => ?_) (fun _ => ?_) ?_⟩
    · cases d <;> rfl
    · cases d <;> rfl
    · intro bridge d' opening greeting here
      rw [bytes_ended]
      exact here
  | halfClosing d upward downward =>
    obtain rfl : lanes = lanes₀.withTarget d (lanes₀ d).target.close := moves
    cases resumed
    obtain ⟨own, bridges⟩ := stands
    refine ⟨table, stands_bridging (bridges_of_eq (bridges.move (d := d) (p := .finished) ?_) ?_)⟩
    · intro opening greeting count carries
      rw [if_pos rfl] at carries
      exact carries.close
    · intro d'
      by_cases eq : d' = d
      · rw [eq, own, Function.update_self]
        rfl
      · rw [Function.update_of_ne eq, if_neg eq]
  | finishing result =>
    obtain rfl : lanes = lanes₀ := moves
    cases resumed
    obtain ⟨position, ⟨request, outbound, s, bridge, carries, lists, -⟩, complete⟩ := stands
    exact ⟨table.update _ _, ⟨_, _, lists.update _⟩, .inl ⟨request, position, _, carries, complete⟩⟩
  | rejecting error rest =>
    obtain ⟨listed, taken, said, code, begins, told, split⟩ := stands
    obtain ⟨target, writes, rfl⟩ := moves
    simp only [Stage.resume] at resumed
    obtain ⟨written, left, rfl, begins', ok | ⟨error', failed⟩⟩ := begins.write writes
    · rw [← List.append_assoc] at split
      rw [ok] at resumed
      cases left with
      | nil =>
        cases resumed
        exact ⟨table, listed, taken, _, begins', .inr ⟨code, [], split⟩⟩
      | cons byte left =>
        cases resumed
        exact ⟨table, listed, taken, _, code, begins', told, split⟩
    · rw [← List.append_assoc] at split
      rw [failed] at resumed
      cases resumed
      exact ⟨table, listed, taken, _, begins', .inr ⟨code, left, split⟩⟩
  | armingReset error =>
    obtain rfl : lanes = lanes₀ := moves
    cases resumed
    exact ⟨table, stands⟩
  | marking error =>
    obtain rfl : lanes = lanes₀ := moves
    cases resumed
    obtain ⟨⟨s, lists⟩, taken, said, begins, spoken⟩ := stands
    exact ⟨table.update _ _, ⟨_, _, lists.update _⟩, .inr ⟨nofun, taken, said, begins, spoken⟩⟩
  | leaving result =>
    obtain rfl : lanes = lanes₀ := moves
    cases resumed
    exact ⟨table.remove _, stands.2⟩
  | ended result => cases answer

/-! ## Runs -/

/-- The session was answered. -/
def Event.own : Event → Bool
  | advanced .. => true
  | arrived .. | finished _ | stopped _ | drawn .. | disturbed => false

/-- What happens without the session does nothing to it. -/
theorem Step.around {w' : World} {event : Event} (step : Step w event w')
    (table : w.shared.table.Sound) (others : event.own = false) :
    Frame w w' ∧ w'.session = w.session ∧ w'.shared.table.Sound := by
  cases step with
  | advance answer moves resumed => cases others
  | arrive d bytes going =>
    exact ⟨⟨rfl, rfl, rfl, fun _ _ lists => lists, Lane.Grows.withSource (.put going bytes)⟩, rfl,
      table⟩
  | finish d =>
    exact ⟨⟨rfl, rfl, rfl, fun _ _ lists => lists, Lane.Grows.withSource (.close _)⟩, rfl, table⟩
  | stop d =>
    exact ⟨⟨rfl, rfl, rfl, fun _ _ lists => lists, Lane.Grows.withSource (.stop _)⟩, rfl, table⟩
  | draw d count =>
    exact ⟨⟨rfl, rfl, rfl, fun _ _ lists => lists, Lane.Grows.withTarget (.draw _ count)⟩, rfl,
      table⟩
  | disturb draining elsewhere =>
    exact ⟨⟨rfl, rfl, rfl, fun _ _ lists => lists.elsewhere table elsewhere, fun d => .refl _⟩, rfl,
      elsewhere.sound table⟩

theorem World.Sound.step {w' : World} {event : Event} (sound : w.Sound) (step : Step w event w') :
    w'.Sound := by
  cases own : event.own with
  | true =>
    cases step with
    | advance answer moves resumed => exact sound.advance moves resumed
    | _ => cases own
  | false =>
    obtain ⟨frame, same, table⟩ := step.around sound.table own
    exact ⟨table, same ▸ sound.stands.frame frame⟩

theorem World.Fresh.begins (fresh : w.Fresh) : w.Begins [] [] := by
  have silent (d : Direction) : (w.lanes d).Opens [] [] := by
    refine ⟨fresh.untaken d, ?_, ?_⟩
    · rw [fresh.silent d]
      rfl
    · rw [fresh.silent d]
  exact ⟨silent .upward, silent .downward⟩

/-- **A session does what its stages say**, at every moment of every run. -/
theorem Run.sound {w' : World} {log : List Event} (run : Run w log w') (fresh : w.Fresh) :
    w'.Sound := by
  induction run with
  | start =>
    refine ⟨fresh.sound, ?_⟩
    rw [fresh.arriving]
    exact fresh.begins
  | step run step ih => exact ih.step step

end Session

end TransportConverter
