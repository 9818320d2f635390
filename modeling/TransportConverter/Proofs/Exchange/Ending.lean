import TransportConverter.Proofs.Exchange.Telling
/-!
# A redirect comes to an end

From every moment of a redirect there is a way to its end: the client sends the rest of its request, the
converter answers it (`World.Sound.answers`), and the client takes the answer (`World.Sound.ends`). Nothing
on the way depends on luck, except that the handle of the session is not in use for another one.
-/
namespace TransportConverter

open Engine Session

namespace Exchange

variable {x x' x'' : World} {h : Handle}

theorem Run.trans (run : Run h x x') (run' : Run h x' x'') : Run h x x'' := by
  induction run' with
  | start => exact run
  | step run' step ih => exact ih.step step

theorem Run.head (step : Step h x x') (run : Run h x' x'') : Run h x x'' :=
  (Run.start.step step).trans run

namespace World

/-! ## The converter answers -/

/-- The converter can come to an answer on its own. -/
def Answers (h : Handle) (x : World) : Prop :=
  ∃ x', Run h x x' ∧ x'.client = x.client ∧ x'.log = x.log ∧ x'.Answered

/-- The session is at a stage. -/
def atStage (x : World) (stage : Stage) : World :=
  { x with server := { x.server with session := { x.server.session with stage } } }

theorem Answered.answers (answered : x.Answered) : Answers h x := ⟨x, .start, rfl, rfl, answered⟩

theorem answered_of_success (opens : Message.empty.wire <+: x.down.sent) : x.Answered :=
  ⟨.empty, .inl rfl, opens⟩

theorem answered_of_begins {request : Bytes} (begins : x.server.Begins request Message.empty.wire) :
    x.Answered := by
  refine answered_of_success ?_
  rw [World.down, begins.2.sent]

theorem Sound.answered_of_told (sound : x.Sound h) {taken : Bytes} {error : ConverterError}
    (told : Message.Told (x.server.shared.config.judge x.server.session.permitted) taken x.down.sent
      (x.request? h) error) : x.Answered := by
  obtain ⟨⟨m, asked, -, reason⟩, code, told, said⟩ := told
  have named := reason.named (request?_valid sound.proper asked) told
  exact ⟨_, .inr ⟨code, rfl, named⟩, said ▸ List.prefix_rfl⟩

variable {stage stage' : Stage}

/-- The session takes one step of the way. -/
theorem Answers.serve (sound : (x.atStage stage).Sound h) (out : x.Out h) (answer : stage.Answer)
    {shared : ConverterState} {lanes : Lanes}
    (moves : stage.Moves x.server.shared.config x.server.lanes answer lanes)
    (resumed : stage.resume x.server.shared (x.atStage stage).server.session answer =
      (shared, stage'))
    (smooth : stage.Smooth answer)
    (newly : stage = .entering → x.server.shared.table.contains x.server.session.handle = false)
    (rest : ∀ x' : World, (x'.atStage stage').Sound h → x'.Out h →
      x'.server.shared = shared → x'.server.lanes = lanes →
      x'.server.session = x.server.session → Answers h (x'.atStage stage')) :
    Answers h (x.atStage stage) := by
  have advance : Session.Step (x.atStage stage).server (.advanced stage answer)
      { shared, lanes, session := { x.server.session with stage := stage' } } :=
    @Session.Step.advance (x.atStage stage).server answer shared stage' lanes moves resumed
  have step : Step h (x.atStage stage)
      { x with server := { shared, lanes, session := { x.server.session with stage := stage' } } } :=
    @Step.serve h (x.atStage stage) answer _ advance smooth newly
  obtain ⟨x', run, client, log, answered⟩ :=
    rest { x with server := { x.server with shared, lanes } } (sound.step step) out rfl rfl rfl
  exact ⟨x', .head step run, client, log, answered⟩

/-- All of a message is written at once. -/
theorem unwritten_all (byte : UInt8) (rest : Bytes) :
    unwritten (byte :: rest) (.ok (byte :: rest).length) = .ok [] := by
  rw [unwritten, if_neg (by simp), List.drop_length]

theorem answers_of_rejecting {error : ConverterError} {rest : Bytes}
    (sound : (x.atStage (.rejecting error rest)).Sound h) (out : x.Out h) :
    Answers h (x.atStage (.rejecting error rest)) := by
  cases rest with
  | nil =>
    -- everything has been sent already
    obtain ⟨-, taken, said, code, begins, told, whole⟩ := sound.server.stands
    rw [List.append_nil] at whole
    exact (sound.answered_of_told ⟨sound.serves, code, told, begins.2.sent.trans whole⟩).answers
  | cons byte rest =>
    have resumed : (Stage.rejecting error (byte :: rest)).resume x.server.shared
        (x.atStage (.rejecting error (byte :: rest))).server.session (.ok (byte :: rest).length) =
        (x.server.shared, .armingReset error) := by
      simp only [Stage.resume, unwritten_all]
    exact .serve sound out (.ok (byte :: rest).length) ⟨_, .takes _ (Nat.le_refl _), rfl⟩ resumed
      (Nat.succ_pos _) (by rintro ⟨⟩)
      fun x' sound _ _ _ _ => (sound.answered_of_told sound.serves).answers

theorem answers_of_failing {error : ConverterError}
    (sound : (x.atStage (.failing error)).Sound h) (out : x.Out h) :
    Answers h (x.atStage (.failing error)) := by
  revert sound
  rw [Stage.failing_eq]
  cases error.replyCode with
  | some code => exact fun sound => answers_of_rejecting sound out
  | none => exact fun sound => (sound.answered_of_told sound.serves).answers

theorem answers_of_replying {outbound : Handle} {rest : Bytes}
    (sound : (x.atStage (.replying outbound rest)).Sound h) (out : x.Out h) :
    Answers h (x.atStage (.replying outbound rest)) := by
  cases rest with
  | nil =>
    obtain ⟨-, request, said, begins, -, whole⟩ := sound.server.stands
    rw [List.append_nil] at whole
    exact (answered_of_begins (whole ▸ begins)).answers
  | cons byte rest =>
    have resumed : (Stage.replying outbound (byte :: rest)).resume x.server.shared
        (x.atStage (.replying outbound (byte :: rest))).server.session (.ok (byte :: rest).length) =
        (x.server.shared, .duplicating outbound) := by
      simp only [Stage.resume, unwritten_all]
    refine .serve sound out (.ok (byte :: rest).length) ⟨_, .takes _ (Nat.le_refl _), rfl⟩ resumed
      (Nat.succ_pos _) (by rintro ⟨⟩) fun x' sound _ _ _ _ => ?_
    obtain ⟨-, request, begins, -⟩ := sound.server.stands
    exact (answered_of_begins begins).answers

theorem answers_of_connected {outbound : Handle}
    (sound : (x.atStage (.connected outbound)).Sound h) (out : x.Out h) :
    Answers h (x.atStage (.connected outbound)) := by
  refine .serve sound out () rfl rfl trivial (by rintro ⟨⟩) fun x' sound out _ _ _ => ?_
  revert sound
  rw [Stage.succeeding_eq]
  split
  · exact fun sound => answers_of_failing sound out
  · exact fun sound => answers_of_replying sound out

/-- A connect may take too long, and that is an answer too. -/
theorem answers_of_connecting {destination : SocketAddress}
    (sound : (x.atStage (.connecting destination)).Sound h) (out : x.Out h) :
    Answers h (x.atStage (.connecting destination)) :=
  .serve sound out .late rfl rfl trivial (by rintro ⟨⟩)
    fun _ sound out _ _ _ => answers_of_failing sound out

theorem answers_of_admitted {destination : SocketAddress}
    (sound : (x.atStage (.admitted destination)).Sound h) (out : x.Out h) :
    Answers h (x.atStage (.admitted destination)) :=
  .serve sound out () rfl rfl trivial (by rintro ⟨⟩)
    fun _ sound out _ _ _ => answers_of_connecting sound out

theorem answers_of_judged {config : ServerConfig} {permitted : Bool} {message : Bytes}
    (sound : (x.atStage (.judged config permitted message)).Sound h) (out : x.Out h) :
    Answers h (x.atStage (.judged config permitted message)) := by
  revert sound
  unfold Stage.judged
  split
  · exact fun sound => answers_of_admitted sound out
  · exact fun sound => answers_of_failing sound out

theorem answers_of_takingRest {taken : Bytes} {count : Nat}
    (sound : (x.atStage (.reading (.takingRest taken count))).Sound h) (out : x.Out h) :
    Answers h (x.atStage (.reading (.takingRest taken count))) := by
  obtain ⟨-, taken', begins, rfl, opens, header, part, long, read, length⟩ := sound.server.stands
  obtain ⟨m, asked, whole⟩ := sound.sends.request_isPrefix out
  have there : count ≤ x.up.held.length := by
    obtain ⟨m', decoded, asked', -, read', length'⟩ := sound.requests.header part long
    cases asked.symm.trans asked'
    cases read.symm.trans read'
    have := whole.length_le
    have took : x.up.taken = taken' := begins.1.taken
    change m.wire.length ≤ (x.up.taken ++ x.up.held).length at this
    rw [List.length_append, took] at this
    omega
  exact .serve sound out (.inTime (.ok (x.up.held.take count))) ⟨_, .whole there, rfl⟩ rfl trivial
    (by rintro ⟨⟩) fun _ sound out _ _ _ => answers_of_judged sound out

/-- A reader with the header goes on, or has an error to report. -/
theorem answers_of_expect {config : ServerConfig} {permitted : Bool} {header taken : Bytes}
    (sound : (x.atStage (.request config permitted (RequestReader.expect header taken))).Sound h)
    (out : x.Out h) :
    Answers h (x.atStage (.request config permitted (RequestReader.expect header taken))) := by
  revert sound
  rcases RequestReader.expect_cases header taken with ⟨decoded, -, eq⟩ | ⟨error, eq⟩
  · rw [eq]
    exact fun sound => answers_of_takingRest sound out
  · rw [eq]
    exact fun sound => answers_of_failing sound out

theorem Sound.headerLength_le (sound : x.Sound h) (out : x.Out h) (none : x.up.taken = []) :
    headerLength ≤ x.up.held.length := by
  obtain ⟨m, -, whole⟩ := sound.sends.request_isPrefix out
  rw [Pipe.sent, none, List.nil_append] at whole
  exact Nat.le_trans m.headerLength_le_wire whole.length_le

theorem answers_of_reading {reader : RequestReader}
    (sound : (x.atStage (.reading reader)).Sound h) (out : x.Out h) :
    Answers h (x.atStage (.reading reader)) := by
  cases reader with
  | takingRest taken count => exact answers_of_takingRest sound out
  | takingHeader =>
    obtain ⟨-, taken, begins, none⟩ := sound.server.stands
    have there := sound.headerLength_le out (begins.1.taken.trans none)
    exact .serve sound out (.inTime (.ok (x.up.held.take headerLength))) ⟨_, .whole there, rfl⟩ rfl
      trivial (by rintro ⟨⟩) fun _ sound out _ _ _ => answers_of_expect sound out
  | peeking =>
    obtain ⟨-, taken, begins, none⟩ := sound.server.stands
    have there := sound.headerLength_le out (begins.1.taken.trans none)
    have length : (x.up.held.take headerLength).length = headerLength := List.length_take_of_le there
    have resumed : (Stage.reading .peeking).resume x.server.shared
        (x.atStage (.reading .peeking)).server.session (.inTime (.ok (x.up.held.take headerLength))) =
        (x.server.shared, .request x.server.shared.config x.server.session.permitted
          (RequestReader.expect (x.up.held.take headerLength) [])) := by
      have ne : (x.up.held.take headerLength).isEmpty = false := by
        rw [List.isEmpty_eq_false_iff, ← List.length_pos_iff, length]
        decide
      simp only [Stage.resume, RequestReader.resume, ne, length, Nat.lt_irrefl, Bool.false_eq_true,
        if_false]
      rfl
    exact .serve sound out (.inTime (.ok (x.up.held.take headerLength)))
      ⟨_, ⟨.piece headerLength (by decide) (Nat.le_refl _) there, rfl⟩, rfl⟩ resumed trivial
      (by rintro ⟨⟩) fun _ sound out _ _ _ => answers_of_expect sound out

theorem answers_of_announcing (sound : (x.atStage .announcing).Sound h) (out : x.Out h) :
    Answers h (x.atStage .announcing) :=
  .serve sound out () rfl rfl trivial (by rintro ⟨⟩)
    fun _ sound out _ _ _ => answers_of_reading sound out

theorem answers_of_entering (sound : (x.atStage .entering).Sound h) (out : x.Out h)
    (newly : x.server.shared.table.contains x.server.session.handle = false) :
    Answers h (x.atStage .entering) := by
  obtain ⟨table, inserted⟩ := Registry.insert_of_untracked newly
    (x.atStage .entering).server.session.firstState
  have resumed : Stage.entering.resume x.server.shared (x.atStage .entering).server.session () =
      ({ x.server.shared with table }, .announcing) := by
    simp only [Stage.resume]
    rw [show (x.atStage .entering).server.session.handle = x.server.session.handle from rfl, inserted]
  exact .serve sound out () rfl resumed trivial (fun _ => newly)
    fun _ sound out _ _ _ => answers_of_announcing sound out

theorem answers_of_arriving (sound : (x.atStage .arriving).Sound h) (out : x.Out h)
    (newly : x.server.shared.table.contains x.server.session.handle = false) :
    Answers h (x.atStage .arriving) :=
  .serve sound out (.ok ()) rfl rfl rfl (by rintro ⟨⟩) fun x' sound out shared _ session =>
    answers_of_entering sound out (by rw [shared, session]; exact newly)

theorem answers_of_carries {request : Bytes} {position : Direction → Position}
    {counts : Direction → Nat} (carries : x.server.Carries request position counts) : Answers h x :=
  (answered_of_success carries.success).answers

theorem answers_of_stage (sound : (x.atStage stage).Sound h) (out : x.Out h)
    (newly : stage = .arriving ∨ stage = .entering →
      x.server.shared.table.contains x.server.session.handle = false) :
    Answers h (x.atStage stage) := by
  have stands := sound.server.stands
  have serves := sound.serves
  cases stage with
  | arriving => exact answers_of_arriving sound out (newly (.inl rfl))
  | entering => exact answers_of_entering sound out (newly (.inr rfl))
  | announcing => exact answers_of_announcing sound out
  | reading reader => exact answers_of_reading sound out
  | admitted destination => exact answers_of_admitted sound out
  | connecting destination => exact answers_of_connecting sound out
  | connected outbound => exact answers_of_connected sound out
  | replying outbound rest => exact answers_of_replying sound out
  | duplicating outbound =>
    obtain ⟨-, request, begins, -⟩ := stands
    exact (answered_of_begins begins).answers
  | linking outbound =>
    obtain ⟨-, request, begins, -⟩ := stands
    exact (answered_of_begins begins).answers
  | recording outbound =>
    obtain ⟨-, request, begins, -⟩ := stands
    exact (answered_of_begins begins).answers
  | bridged =>
    obtain ⟨_, _, _, _, carries, -⟩ := stands
    exact answers_of_carries carries
  | stopping sides =>
    obtain ⟨_, _, _, _, carries, -⟩ := stands
    exact answers_of_carries carries
  | copying upward downward =>
    obtain ⟨_, _, _, _, carries, -⟩ := stands
    exact answers_of_carries carries
  | counting d count upward downward =>
    obtain ⟨-, _, _, _, _, carries, -⟩ := stands
    exact answers_of_carries carries
  | ending d upward downward =>
    obtain ⟨-, _, _, _, _, carries, -⟩ := stands
    exact answers_of_carries carries
  | halfClosing d upward downward =>
    obtain ⟨-, _, _, _, _, carries, -⟩ := stands
    exact answers_of_carries carries
  | finishing result =>
    obtain ⟨_, ⟨_, _, _, _, carries, -⟩, -⟩ := stands
    exact answers_of_carries carries
  | rejecting error rest => exact answers_of_rejecting sound out
  | armingReset error => exact (sound.answered_of_told serves).answers
  | marking error => exact (sound.answered_of_told serves).answers
  | leaving result =>
    rcases serves with ⟨-, opens⟩ | ⟨error, -, told⟩
    · exact (answered_of_success opens).answers
    · exact (sound.answered_of_told told).answers
  | ended result =>
    rcases serves with ⟨-, opens⟩ | ⟨error, -, told⟩
    · exact (answered_of_success opens).answers
    · exact (sound.answered_of_told told).answers

/-- The handle of a session that has not been listed is in use for no other. -/
def Unlisted (x : World) : Prop :=
  x.server.session.stage = .arriving ∨ x.server.session.stage = .entering →
    x.server.shared.table.contains x.server.session.handle = false

/-- **The converter answers a request that is out.** -/
theorem Sound.answers (sound : x.Sound h) (out : x.Out h) (newly : x.Unlisted) : Answers h x :=
  @answers_of_stage x h _ sound out newly

/-! ## The client goes on -/

/-- The redirect can come to an end. -/
def Ends (h : Handle) (x : World) : Prop :=
  ∃ x', Run h x x' ∧ ∃ event ∈ x'.log, ∃ verdict, event.verdict? h = some verdict

theorem Ends.of_run (ends : Ends h x') (run : Run h x x') : Ends h x := by
  obtain ⟨x'', run', told⟩ := ends
  exact ⟨x'', run.trans run', told⟩

theorem ends_of_verdict {verdict : Except RedirectError Unit} (tells : told h x.log = some verdict) :
    Ends h x := by
  obtain ⟨event, mem, saw⟩ := List.exists_of_findSome?_eq_some tells
  exact ⟨x, .start, event, mem, verdict, saw⟩

/-- Whoever looks at a whole answer is answered promptly until he is told. -/
theorem Sound.ends_of_prompted (sound : x.Sound h) (answered : x.Answered) {n : Nat}
    {x' : World} (prompted : Prompted h x n x') (looks : n = 0 → x'.client.flying h ≠ []) : Ends h x := by
  cases untold : told h x'.log with
  | some verdict => exact (ends_of_verdict untold).of_run prompted.run
  | none =>
    rcases sound.told_promptly answered prompted untold with
      ⟨start, quiet, -⟩ | ⟨few, -, -, x'', prompted⟩
    · exact absurd quiet (looks start)
    · exact sound.ends_of_prompted answered prompted nofun
termination_by 3 - n

/-- **The client takes an answer that is there.** -/
theorem Sound.ends_of_answered (sound : x.Sound h) (untold : told h x.log = none)
    (answered : x.Answered) : Ends h x := by
  rcases sound.told_promptly answered .start untold with ⟨-, quiet, lets⟩ | ⟨-, c, flies, -⟩
  · -- a caller waits for the answer
    obtain ⟨e, op, started⟩ := lets .await rfl
    obtain ⟨x', n, step, -, flies, -, log⟩ := exists_call quiet started
    have silent (event : Engine.Event) (more : x'.log = x.log ++ [event]) : event.Off h := by
      rw [log] at more
      cases List.append_cancel_left more
      exact trivial
    exact sound.ends_of_prompted answered (.other .start step silent) fun _ => by simp [flies]
  · exact sound.ends_of_prompted answered .start fun _ => by simp [flies]

/-! ## The client sends -/

/-- A socket takes all that is left of the request. -/
theorem out_of_answer {n : Nat} {op : Operation} (flies : x.client.flying h = [⟨n, op⟩])
    (answer : op.Answer) {up down : Pipe} (heard : op.Heard x.up x.down x.Closed answer up down)
    {m : Message} (request : x.request? h = some m)
    (all : accepted h x.log ++ op.taken answer = m.wire) :
    ∃ x', Step h x x' ∧ x'.Out h ∧ x'.server.session = x.server.session ∧
      x'.server.shared = x.server.shared := by
  have own : Caller.handle ⟨n, op⟩ = h := own_of_flying flies
  have confined := confined_resume x.client.engine op answer
  cases resumed : x.client.engine.resume op answer with
  | mk e p =>
  rw [resumed] at confined
  obtain ⟨x', step, engine, -, server, log⟩ := exists_answer flies answer heard resumed
  refine ⟨x', step, ⟨m, ?_, ?_⟩, by rw [server]; rfl, by rw [server]; rfl⟩
  · have asks : asked h x'.log = asked h x.log := by
      rw [log, asked_snoc]
      exact Option.or_none
    rw [World.request?, asks, engine, confined.config]
    exact request
  · rw [log, accepted_snoc, Engine.Event.taken, if_pos own]
    exact all

/-- **The client can send the rest of its request.** -/
theorem Sound.exists_out (sound : x.Sound h) (untold : told h x.log = none)
    (asks : asked h x.log ≠ none) : ∃ x', Run h x x' ∧ x'.Out h ∧
      x'.server.session = x.server.session ∧ x'.server.shared = x.server.shared := by
  obtain ⟨m, pending, request, stands⟩ := sound.seeks untold asks
  rcases stands with ⟨quiet, split, unread, s, found, awaits, free, rfl⟩ |
    ⟨⟨n, op⟩, flies, awaits, due, s, -, -, -, rfl⟩
  · by_cases none : s.pending = []
    · rw [none, List.append_nil] at split
      exact ⟨x, .start, ⟨m, request, split⟩, rfl, rfl⟩
    · -- a caller takes the claim to send what is left
      have started : x.client.engine.start h .await = _ := start_of_idle found awaits free rfl
      rw [Operation.first_of_pending none] at started
      obtain ⟨x₁, n, step, engine, flies, server, log⟩ := exists_call quiet started
      have request₁ : x₁.request? h = some m := by
        have asks : asked h x₁.log = asked h x.log := by
          rw [log, asked_snoc, Engine.Event.destination?, if_pos rfl]
          exact Option.or_none
        rw [World.request?, asks, engine]
        exact request
      have accepts : accepted h x₁.log = accepted h x.log := by
        rw [log, accepted_snoc]
        exact List.append_nil _
      obtain ⟨x₂, step₂, out, session, shared⟩ := out_of_answer flies (.ok s.pending.length)
        ⟨Nat.le_refl _, fun _ => rfl, rfl, rfl⟩ request₁
        (by rw [accepts, Operation.taken, List.take_length]; exact split)
      refine ⟨x₂, (Run.start.step step).step step₂, out, ?_, ?_⟩
      · rw [session, server]
      · rw [shared, server]
  · by_cases reads : op.reads = true
    · obtain ⟨-, all⟩ := (Operation.due_iff_of_reads reads _).1 due
      exact ⟨x, .start, ⟨m, request, all⟩, rfl, rfl⟩
    · cases op with
      | sendingRequest h' request' =>
        obtain ⟨rfl, none, -⟩ := due
        obtain ⟨x', step, out, same⟩ := out_of_answer flies (.ok m.wire.length)
          ⟨Nat.le_refl _, rfl, rfl⟩ request
          (by rw [none, List.nil_append]; exact List.take_length)
        exact ⟨x', Run.start.step step, out, same⟩
      | flushing h' mode pending' =>
        obtain ⟨rfl, -, split⟩ := due
        obtain ⟨x', step, out, same⟩ := out_of_answer flies (.ok s.pending.length)
          ⟨Nat.le_refl _, fun _ => rfl, rfl, rfl⟩ request
          (by rw [Operation.taken, List.take_length]; exact split)
        exact ⟨x', Run.start.step step, out, same⟩
      | armingReset h' error => exact absurd due id
      | _ => exact absurd rfl reads

/-- **A redirect that was asked for can come to an end**, at every moment. -/
theorem Sound.ends (sound : x.Sound h) (asks : asked h x.log ≠ none) (newly : x.Unlisted) :
    Ends h x := by
  cases untold : told h x.log with
  | some verdict => exact ends_of_verdict untold
  | none =>
    obtain ⟨x₁, run₁, out₁, session, shared⟩ := sound.exists_out untold asks
    have sound₁ := run₁.keeps sound
    have newly₁ : x₁.Unlisted := by
      rw [Unlisted, session, shared]
      exact newly
    obtain ⟨x₂, run₂, -, -, answered⟩ := sound₁.answers out₁ newly₁
    refine Ends.of_run ?_ (run₁.trans run₂)
    cases untold₂ : told h x₂.log with
    | some verdict => exact ends_of_verdict untold₂
    | none => exact (run₂.keeps sound₁).ends_of_answered untold₂ answered

end World

end Exchange

end TransportConverter
