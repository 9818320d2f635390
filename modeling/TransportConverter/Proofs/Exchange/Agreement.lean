import TransportConverter.Proofs.Exchange.Ending
/-!
# Client and converter agree

Whatever comes of a redirect, both sides know the same of it (`Exchange.agree`). The converter reads what
the client has asked for and judges nothing else, and connects to no other destination. The client is told
that the redirect is done if the converter has established it, and otherwise the code of the reason why it
has not; and neither side has taken a byte too much of what the other has sent. Once the whole reply is
there, every look at it comes to that within three answers of the connection (`World.Nears`).
-/
namespace TransportConverter

open Engine Session

/-- What can come of a request at a converter: there is no room for it, it is not granted, its destination
cannot be connected to, the converter is shutting down by then, or it is established. -/
inductive ServerConfig.Decides (config : ServerConfig) (permitted : Bool) (request : Message)
    (destination : SocketAddress) : Except ConverterError Unit → Prop
  | full (room : permitted = false) :
      Decides config permitted request destination (.error (.rejected .resourceExceeded))
  | refused {code : ErrorCode} (room : permitted = true) (refused : config.grant request = .error code) :
      Decides config permitted request destination (.error (.rejected code))
  | unconnected (room : permitted = true) (granted : config.grant request = .ok destination)
      (error : IoError) :
      Decides config permitted request destination (.error (.bridgeConnect destination error))
  | draining (room : permitted = true) (granted : config.grant request = .ok destination) :
      Decides config permitted request destination (.error .shuttingDown)
  | established (room : permitted = true) (granted : config.grant request = .ok destination) :
      Decides config permitted request destination (.ok ())

namespace Exchange

/-- A caller was told this of the redirect, and it is what came of it at the converter. Nothing is left of
a redirect that is done; one that failed is remembered as such. What came from the converter was read up to
the end of its answer. -/
inductive World.Concludes (h : Handle) (x : World) : Except RedirectError Unit → Prop
  | resolved (outcome : x.server.outcome? = some (.ok ())) (phase : x.client.engine.phase h = none)
      (took : x.down.taken = Message.empty.wire) : Concludes h x (.ok ())
  | rejected {error : ConverterError} {code : ErrorCode}
      (outcome : x.server.outcome? = some (.error error)) (told : error.replyCode = some code)
      (phase : x.client.engine.phase h = some .failed)
      (took : x.down.taken = (Message.failure code).wire) : Concludes h x (.error (.rejected code))

/-- Where a redirect has come to after `n` prompt answers to callers that look at a whole reply
(`on_readable`, `await_reply`). -/
inductive World.Nears (x : World) (h : Handle) (n : Nat) (x' : World) : Prop
  /-- It was told what came of it, and whoever still has to set the reset up returns with that. -/
  | told {verdict : Except RedirectError Unit} (tells : told h x'.log = some verdict)
      (concludes : x'.Concludes h verdict)
      (returns : ∀ c ∈ x'.client.flying h, ∃ error, verdict = .error error ∧
        ∀ answer, (x'.client.engine.resume c.op answer).2 = .done (.read (.error error)))
  /-- Nobody has looked yet. Whoever does is let in. -/
  | unseen (start : n = 0) (quiet : x'.client.flying h = [])
      (lets : ∀ call : Call, call.destination? = none →
        ∃ engine op, x'.client.engine.start h call = (engine, .waiting op))
  /-- Somebody looks, and can be answered promptly once more. -/
  | looking (few : n < 3) {c : Caller} (flies : x'.client.flying h = [c]) {x'' : World}
      (next : Prompted h x (n + 1) x'') : Nears x h n x'

/-- What both sides know of a redirect at any moment. -/
structure World.Agrees (h : Handle) (x : World) : Prop where
  /-- Connects go to the destination that the client asked for. -/
  connects : ∀ destination within,
    .connect destination within ∈ x.server.session.stage.calls x.server.shared.config →
    ∃ asks, asked h x.log = some asks ∧ destination = asks.normal
  /-- What was read is what the client asked for, with the cookie that it has; and unless the redirect was
  established, nothing behind that was taken. -/
  reads : x.server.session.stage.hasRead = true → ∃ destination used,
    asked h x.log = some destination ∧
    Message.decode x.up.taken =
      .ok (Message.request destination.normal x.client.engine.config.cookie, used) ∧
    (x.server.outcome? ≠ some (.ok ()) → x.up.taken.length = used)
  /-- What was decided was decided about that. -/
  decides : ∀ outcome, x.server.outcome? = some outcome → ∃ destination,
    asked h x.log = some destination ∧
    x.server.shared.config.Decides x.server.session.permitted
      (Message.request destination.normal x.client.engine.config.cookie) destination.normal outcome
  /-- It is not decided twice. -/
  lasts : ∀ outcome, x.server.outcome? = some outcome → ∀ x', Step h x x' →
    x'.server.outcome? = some outcome
  /-- Callers are told nothing else. -/
  tells : ∀ event ∈ x.log, ∀ verdict, event.verdict? h = some verdict → x.Concludes h verdict
  /-- It does not have to stay undecided. -/
  ends : asked h x.log ≠ none → x.Unlisted → ∃ x', Run h x x' ∧ ∃ event ∈ x'.log, ∃ verdict,
    event.verdict? h = some verdict ∧ x'.Concludes h verdict
  /-- Once the whole reply is there, whoever looks is told of it: by the third prompt answer at the latest,
  whether he polls or waits. -/
  promptly : x.Answered → ∀ n x', Prompted h x n x' → x.Nears h n x'

end Exchange

/-! ## What the converter reads and decides -/

theorem Message.normal_request (destination : SocketAddress) (cookie : Option Bytes) :
    (request destination cookie).normal = request destination.normal cookie := rfl

namespace ServerConfig

variable {config : ServerConfig} {permitted : Bool} {destination granted : SocketAddress}
  {cookie : Option Bytes}

/-- A request is granted for the destination that it names, in its normal form. -/
theorem judge_request_ok (valid : (Message.request destination cookie).Valid)
    (judged : config.judge permitted (Message.request destination cookie).wire = .ok granted) :
    permitted = true ∧ granted = destination.normal ∧
      config.grant (Message.request destination.normal cookie) = .ok destination.normal := by
  rw [config.judge_wire permitted valid, Message.normal_request] at judged
  split at judged
  · rename_i room
    cases grants : config.grant (Message.request destination.normal cookie) with
    | error code =>
      rw [grants] at judged
      cases judged
    | ok granted' =>
      rw [grants] at judged
      cases judged
      cases grant_ok grants
      exact ⟨room, rfl, rfl⟩
  · cases judged

theorem decides_of_refusedFor (valid : (Message.request destination cookie).Valid)
    {error : ConverterError}
    (refused : (Message.request destination cookie).RefusedFor (config.judge permitted) error) :
    config.Decides permitted (Message.request destination.normal cookie) destination.normal
      (.error error) := by
  cases refused with
  | judged judged =>
    rw [config.judge_wire permitted valid, Message.normal_request] at judged
    split at judged
    · rename_i room
      cases grants : config.grant (Message.request destination.normal cookie) with
      | error code =>
        rw [grants] at judged
        cases judged
        exact .refused room grants
      | ok granted' =>
        rw [grants] at judged
        cases judged
    · rename_i full
      cases judged
      exact .full (Bool.not_eq_true _ ▸ full)
  | unconnected granted error =>
    obtain ⟨room, rfl, grants⟩ := judge_request_ok valid granted
    exact .unconnected room grants error
  | draining granted =>
    obtain ⟨room, rfl, grants⟩ := judge_request_ok valid granted
    exact .draining room grants

end ServerConfig

/-- Unless success was reported, nothing behind the request has been taken. -/
theorem Session.World.Serves.untouched {w : Session.World} {m? : Option Message}
    (serves : w.Serves m?) (sound : w.Sound) (read : w.session.stage.hasRead = true)
    (unsaid : ¬ Message.empty.wire <+: (w.lanes .downward).target.sent) :
    ∃ m, m? = some m ∧ (w.lanes .upward).source.taken = m.wire := by
  rcases Stage.Serves.took serves read with whole | ⟨-, bridges | ⟨result, finishing⟩ | opens⟩
  · exact whole
  · obtain ⟨position, -, _, _, _, _, carries, -⟩ := sound.bridges bridges
    exact absurd carries.success unsaid
  · have stands := sound.stands
    rw [finishing] at stands
    obtain ⟨_, ⟨_, _, _, _, carries, -⟩, -⟩ := stands
    exact absurd carries.success unsaid
  · exact absurd opens unsaid

/-! ## What has been decided stays so -/

/-- The session is at a stage where it has failed. -/
def Stage.FailedFor (error : ConverterError) : Stage → Prop
  | rejecting error' _ | armingReset error' | marking error' => error' = error
  | leaving result | ended result => result = .error error
  | _ => False

namespace Session.World

variable {w w' : World} {error : ConverterError}

theorem outcome?_eq_error_iff : w.outcome? = some (.error error) ↔
    ¬ Message.empty.wire <+: (w.lanes .downward).target.sent ∧ w.session.stage.FailedFor error := by
  obtain ⟨shared, ⟨n, handle, address, permitted, stage⟩, lanes⟩ := w
  by_cases opens : Message.empty.wire <+: (lanes .downward).target.sent
  · simp [outcome?, opens]
  · cases stage with
    | leaving result => cases result <;> simp [outcome?, opens, Stage.FailedFor]
    | ended result => cases result <;> simp [outcome?, opens, Stage.FailedFor]
    | _ => simp [outcome?, opens, Stage.FailedFor]

theorem outcome?_eq_ok_iff : w.outcome? = some (.ok ()) ↔
    Message.empty.wire <+: (w.lanes .downward).target.sent := by
  refine ⟨fun outcome => ?_, outcome?_of_success⟩
  by_contra unsaid
  rw [outcome?, if_neg unsaid] at outcome
  split at outcome <;> cases outcome

end Session.World

/-- A session that has failed goes on to its end, and does not report success on the way. -/
theorem Stage.FailedFor.resume {s s' : ConverterState} {k : Session} {stage stage' : Stage}
    {config : ServerConfig} {lanes lanes' : Lanes} {answer : stage.Answer} {error : ConverterError}
    (failed : stage.FailedFor error) (moves : stage.Moves config lanes answer lanes')
    (resumed : stage.resume s k answer = (s', stage')) :
    stage'.FailedFor error ∧ (lanes' = lanes ∨ (∃ rest, stage' = .rejecting error rest) ∨
      stage' = .armingReset error) := by
  cases stage with
  | rejecting error' rest =>
    obtain rfl : error' = error := failed
    simp only [Stage.resume] at resumed
    split at resumed <;> cases resumed
    · exact ⟨rfl, .inr (.inr rfl)⟩
    · exact ⟨rfl, .inr (.inr rfl)⟩
    · exact ⟨rfl, .inr (.inl ⟨_, rfl⟩)⟩
  | armingReset error' =>
    cases resumed
    exact ⟨failed, .inl moves⟩
  | marking error' =>
    obtain rfl : error' = error := failed
    cases resumed
    exact ⟨rfl, .inl moves⟩
  | leaving result =>
    cases resumed
    exact ⟨failed, .inl moves⟩
  | ended result => cases answer
  | _ => exact absurd failed id

/-! ## What the client is told -/

/-- A failure tells its code. -/
theorem Message.code_eq_of_isPrefix {code code' : ErrorCode} (named : code.registered = code)
    (named' : code'.registered = code') (part : (failure code).wire <+: (failure code').wire) :
    code = code' := by
  have same : (failure code).wire = (failure code').wire := part.eq_of_length rfl
  have read := decode_wire (valid_failure code)
  rw [same, decode_wire (valid_failure code')] at read
  have codes : code'.registered = code.registered := by simpa [failure, normal] using read
  rw [← named, ← named', codes]

namespace Exchange

namespace World

variable {x x' : World} {h : Handle}

/-- A message that is asked for is a request for the destination that the client was first to be
connected to. -/
theorem exists_asked {m : Message} (request : x.request? h = some m) : ∃ destination,
    asked h x.log = some destination ∧
      m = Message.request destination x.client.engine.config.cookie := by
  obtain ⟨destination, asked, rfl⟩ := Option.map_eq_some_iff.1 request
  exact ⟨destination, asked, rfl⟩

theorem Sound.connects (sound : x.Sound h) {destination : SocketAddress} {within : Duration}
    (mem : .connect destination within ∈ x.server.session.stage.calls x.server.shared.config) :
    ∃ asks, asked h x.log = some asks ∧ destination = asks.normal := by
  have serves := sound.serves
  rw [Session.World.Serves, (Stage.connect_mem_calls_iff.1 mem).1] at serves
  obtain ⟨m, request, -, granted⟩ := serves
  have valid := request?_valid sound.proper request
  obtain ⟨asks, asked, rfl⟩ := exists_asked request
  exact ⟨asks, asked, (ServerConfig.judge_request_ok valid granted).2.1⟩

theorem Sound.reads (sound : x.Sound h) (read : x.server.session.stage.hasRead = true) :
    ∃ destination used, asked h x.log = some destination ∧
      Message.decode x.up.taken =
        .ok (Message.request destination.normal x.client.engine.config.cookie, used) ∧
      (x.server.outcome? ≠ some (.ok ()) → x.up.taken.length = used) := by
  obtain ⟨m, request, opens⟩ := sound.serves.request read
  have valid := request?_valid sound.proper request
  obtain ⟨destination, asked, rfl⟩ := exists_asked request
  refine ⟨destination, _, asked, Message.decode_of_isPrefix (Message.decode_wire valid) opens, ?_⟩
  intro unestablished
  have unsaid : ¬ Message.empty.wire <+: x.down.sent :=
    fun opens => unestablished (Session.World.outcome?_of_success opens)
  obtain ⟨m, request', whole⟩ := sound.serves.untouched sound.server read unsaid
  cases request.symm.trans request'
  exact congrArg List.length whole

theorem Sound.decides (sound : x.Sound h) {outcome : Except ConverterError Unit}
    (decided : x.server.outcome? = some outcome) : ∃ destination,
      asked h x.log = some destination ∧
      x.server.shared.config.Decides x.server.session.permitted
        (Message.request destination.normal x.client.engine.config.cookie) destination.normal
        outcome := by
  obtain ⟨reply, replies, -⟩ := sound.brings
  cases replies with
  | success part undecided served whole =>
    have opens : Message.empty.wire <+: x.down.sent := by
      by_contra unsaid
      rw [undecided unsaid] at decided
      cases decided
    rw [Session.World.outcome?_of_success opens] at decided
    cases decided
    obtain ⟨m, granted, request, -, judged⟩ := served opens
    have valid := request?_valid sound.proper request
    obtain ⟨destination, asked, rfl⟩ := exists_asked request
    obtain ⟨room, rfl, grants⟩ := ServerConfig.judge_request_ok valid judged
    exact ⟨destination, asked, .established room grants⟩
  | failure told named part outcome' refused whole =>
    rw [outcome'] at decided
    cases decided
    obtain ⟨m, request, -, reason⟩ := refused
    have valid := request?_valid sound.proper request
    obtain ⟨destination, asked, rfl⟩ := exists_asked request
    exact ⟨destination, asked, ServerConfig.decides_of_refusedFor valid reason⟩

/-- **What callers are told is what came of it.** -/
theorem Sound.concludes (sound : x.Sound h) {verdict : Except RedirectError Unit}
    (tells : told h x.log = some verdict) : x.Concludes h verdict := by
  have stance := sound.stance
  rw [tells] at stance
  have taken := x.down.taken_isPrefix
  cases stance with
  | resolved untracked quiet took =>
    rw [took] at taken
    refine .resolved (Session.World.outcome?_of_success taken) ?_ took
    rw [Engine.phase, Registry.lookup_of_untracked untracked]
    rfl
  | failed alone standing phase arms took named =>
    rw [took] at taken
    have phase' : x.client.engine.phase h = some .failed := by
      rw [Engine.phase, alone.lookup, Option.map_some, phase]
    obtain ⟨reply, replies, -⟩ := sound.brings
    -- the failure that was taken is all there is of what the converter sends
    cases replies with
    | success part undecided served whole => exact absurd part (Message.failure_ne_empty taken)
    | failure told named' part outcome refused whole =>
      cases Message.code_eq_of_isPrefix named named' (taken.trans part)
      exact .rejected outcome told phase' took

/-- A step that is none of the session does not change what was decided. -/
theorem outcome?_congr (stage : x'.server.session.stage = x.server.session.stage)
    (sent : x'.down.sent = x.down.sent) : x'.server.outcome? = x.server.outcome? := by
  change (x'.server.lanes .downward).target.sent = (x.server.lanes .downward).target.sent at sent
  rw [Session.World.outcome?, Session.World.outcome?, stage, sent]

theorem outcome?_of_advance {answer : x.server.session.stage.Answer} {server : Session.World}
    (step : Session.Step x.server (.advanced x.server.session.stage answer) server)
    (sound : World.Sound { x with server } h) {outcome : Except ConverterError Unit}
    (decided : x.server.outcome? = some outcome) : server.outcome? = some outcome := by
  cases step with
  | @advance answer shared stage lanes moves resumed =>
    cases outcome with
    | ok u =>
      rw [Session.World.outcome?_eq_ok_iff] at decided ⊢
      exact decided.trans (moves.moved .downward).target.sent
    | error error =>
      obtain ⟨unsaid, failed⟩ := Session.World.outcome?_eq_error_iff.1 decided
      -- all that can be sent from now on is a failure, and no success begins like one
      obtain ⟨failed', same | ⟨rest, rfl⟩ | rfl⟩ := failed.resume moves resumed
      · subst same
        exact Session.World.outcome?_eq_error_iff.2 ⟨unsaid, failed'⟩
      · obtain ⟨-, taken, said, code, begins, -, split⟩ := sound.server.stands
        refine Session.World.outcome?_eq_error_iff.2 ⟨?_, failed'⟩
        rw [begins.2.sent]
        exact Session.not_isPrefix_failure ⟨rest, split⟩
      · obtain ⟨-, code, -, said⟩ := sound.serves
        refine Session.World.outcome?_eq_error_iff.2 ⟨?_, failed'⟩
        have part : (lanes .downward).target.sent <+: (Message.failure code).wire := by
          rw [said]
        exact Session.not_isPrefix_failure part

/-- **What the converter has decided it does not take back.** -/
theorem Sound.lasts (sound : x.Sound h) {outcome : Except ConverterError Unit}
    (decided : x.server.outcome? = some outcome) (step : Step h x x') :
    x'.server.outcome? = some outcome := by
  have sound' := sound.step step
  cases step with
  | off step off => exact decided
  | answer step own heard =>
    obtain ⟨n, rfl⟩ := heard.draws
    refine (outcome?_congr ?_ ?_).trans decided
    · rfl
    · rw [down_withPipes, Pipe.sent_advance]
  | serve step smooth newly => exact outcome?_of_advance step sound' decided
  | aside step aside =>
    refine (outcome?_congr ?_ (congrArg Pipe.sent (down_of_aside step aside))).trans decided
    cases step with
    | advance answer moves resumed => exact absurd aside id
    | _ => rfl
  | follow bytes out going =>
    refine (outcome?_congr ?_ ?_).trans decided
    · rfl
    · rw [down_withPipes]
  | finish out =>
    refine (outcome?_congr ?_ ?_).trans decided
    · rfl
    · rw [down_withPipes]

/-- Whoever is still there when the redirect has been told of sets the reset up. -/
theorem Sound.returns (sound : x.Sound h) {verdict : Except RedirectError Unit}
    (tells : told h x.log = some verdict) {c : Caller} (mem : c ∈ x.client.flying h) :
    ∃ error, verdict = .error error ∧
      ∀ answer, (x.client.engine.resume c.op answer).2 = .done (.read (.error error)) := by
  have stance := sound.stance
  rw [tells] at stance
  cases stance with
  | resolved untracked quiet took =>
    rw [quiet] at mem
    cases mem
  | failed alone standing phase arms took named =>
    refine ⟨_, rfl, ?_⟩
    rw [arms c mem]
    exact fun _ => rfl

/-- **Looking at the reply leads to what came of it.** -/
theorem Sound.nears (sound : x.Sound h) (answered : x.Answered) {n : Nat}
    (prompted : Prompted h x n x') : x.Nears h n x' := by
  have sound' := prompted.run.keeps sound
  cases tells : told h x'.log with
  | some verdict => exact .told tells (sound'.concludes tells) fun _ => sound'.returns tells
  | none =>
    rcases sound.told_promptly answered prompted tells with ⟨start, quiet, lets⟩ |
      ⟨few, c, flies, x'', next⟩
    · exact .unseen start quiet lets
    · exact .looking few flies next

theorem Sound.agrees (sound : x.Sound h) : x.Agrees h where
  connects _ _ mem := sound.connects mem
  reads read := sound.reads read
  decides _ decided := sound.decides decided
  lasts _ decided _ step := sound.lasts decided step
  tells event mem verdict saw := sound.concludes (sound.steady event mem verdict saw)
  ends asks newly := by
    obtain ⟨x', run, event, mem, verdict, saw⟩ := sound.ends asks newly
    have sound' := run.keeps sound
    exact ⟨x', run, event, mem, verdict, saw, sound'.concludes (sound'.steady event mem verdict saw)⟩
  promptly answered _ _ prompted := sound.nears answered prompted

end World

variable {x x' : World} {h : Handle}

/-- **Client and converter agree on every redirect**, however the two byte streams are cut into pieces,
whatever is sent behind the request and the reply, and whatever else happens at either side. -/
theorem agree (fresh : x.Fresh h) (run : Run h (x.begin h) x') : x'.Agrees h :=
  (run.sound fresh).agrees

/-- A redirect to an address that is spelled as one of the other family, with two bytes of the application
behind the request. Where nobody listens at the destination, a caller that waits is told so; where somebody
does, a caller that polls is told of the success by its third prompt answer. -/
theorem agree_unconnected_and_established :
    let h : Handle := ⟨5⟩
    let destination : SocketAddress := .v6 (Ipv4.toMapped ⟨203, 0, 113, 5⟩) 443 7 2
    let config : ClientConfig := { converter := .v4 ⟨192, 0, 2, 1⟩ 1234, cookie := some [7, 8] }
    let x : World :=
      { client := { engine := { config }, trackings := fun _ => 0, inFlight := [] }
        server :=
          { shared := { config := { cookies := [[7, 8]] } }
            session :=
              { id := 0, handle := ⟨7⟩, clientAddress := .v4 ⟨192, 0, 2, 9⟩ 50000
                permitted := true }
            lanes := fun _ => {} } }
    x.Fresh h ∧
      (∃ x', Run h (x.begin h) x' ∧ asked h x'.log = some destination ∧ x'.up.held = [104, 105] ∧
        told h x'.log = some (.error (.rejected .connectionReset)) ∧ x'.Agrees h) ∧
      ∃ x₁ x₂, Run h (x.begin h) x₁ ∧ asked h x₁.log = some destination ∧ x₁.Answered ∧
        told h x₁.log = none ∧ Prompted h x₁ 3 x₂ ∧ told h x₂.log = some (.ok ()) ∧
        x₁.Agrees h ∧ x₂.Agrees h := by
  intro h destination config x
  let request : Bytes :=
    [1, 3, 0, 26, 10, 0, 18, 0, 0, 0, 0, 0, 0, 0, 0, 0, 0, 255, 255, 203, 0, 113, 5, 1, 187,
      22, 0, 2, 7, 8]
  have valid : (Message.request destination (some [7, 8])).Valid :=
    ⟨by simp [Message.request], by rintro _ ⟨⟩; decide⟩
  have asks : (Message.request destination (some [7, 8])).wire = request := by decide
  have written : Engine.request destination (some [7, 8]) = .ok request := by
    rw [request_eq_encode, Message.encode_of_valid valid, asks]
  have judged : Stage.judged x.server.shared.config true request =
      .admitted (.v4 ⟨203, 0, 113, 5⟩ 443) := by
    rw [Stage.judged, ← asks, ServerConfig.judge_wire _ _ valid]
    rfl
  have fails (error : IoError) : Stage.failing (.bridgeConnect destination.normal error) =
      .rejecting (.bridgeConnect destination.normal error)
        (Message.failure (connectErrorCode error)).wire := by
    rw [Stage.failing_eq]
    rfl
  have rejected (e : Engine) : e.received h ([1, 4, 0, 4] ++ [30, 0, 1, 96]) =
      e.fail h (.rejected .connectionReset) := by
    have failure : [1, 4, 0, 4] ++ [30, 0, 1, 96] = (Message.failure .connectionReset).wire := by
      decide
    rw [failure, received_wire (.inr ⟨_, rfl, rfl⟩)]
    rfl
  have fresh : x.Fresh h :=
    { cookie := by rintro _ ⟨⟩; decide
      untracked := rfl
      quiet := rfl
      server := ⟨List.nodup_nil, rfl, fun _ => rfl, fun _ => rfl⟩
      unsent := rfl }
  have calling : Run h (x.begin h) _ := Run.start.call h (.connect destination)
    (start_of_created (e := (x.begin h).client.engine) rfl rfl written)
  have asked := calling.answer rfl rfl (.ok 30) rfl ⟨by decide, rfl, rfl⟩
  have followed := asked.step (.follow [104, 105] ⟨_, rfl, (rfl : _ = request).trans asks.symm⟩ rfl)
  have entering := followed.serve (.ok ()) rfl rfl rfl (by rintro ⟨⟩)
  have announcing := entering.serve () rfl rfl trivial fun _ => rfl
  have peeking := announcing.serve () rfl rfl trivial (by rintro ⟨⟩)
  have taking := peeking.serve (.inTime (.ok [1, 3, 0, 26]))
    ⟨_, ⟨.piece 4 (by decide) (by decide) (by decide), rfl⟩, rfl⟩ rfl trivial (by rintro ⟨⟩)
  have granted := taking.serve (.inTime (.ok request)) ⟨_, .whole (by decide), rfl⟩
    (congrArg (Prod.mk _) judged) trivial (by rintro ⟨⟩)
  have connecting := granted.serve () rfl rfl trivial (by rintro ⟨⟩)
  refine ⟨fresh, ?unconnected, ?established⟩
  case unconnected =>
    have rejecting := connecting.serve (.inTime (.error (.bare .connectionRefused))) rfl
      (congrArg (Prod.mk _) (fails _)) trivial (by rintro ⟨⟩)
    have sent := rejecting.serve (.ok 8) ⟨_, .takes 8 (by decide), rfl⟩ rfl (by decide : 0 < 8)
      (by rintro ⟨⟩)
    have awaiting := sent.call h .await rfl
    have reading := awaiting.answer rfl rfl (.ok [1, 4, 0, 4]) rfl ⟨⟨by decide, rfl, rfl⟩, rfl⟩
    have told := reading.answer rfl rfl (.ok [30, 0, 1, 96]) (rejected _)
      ⟨⟨by decide, rfl, rfl⟩, rfl⟩
    exact ⟨_, told, rfl, rfl, rfl, agree fresh told⟩
  case established =>
    have connected := connecting.serve (.inTime (.ok ⟨9⟩)) rfl rfl trivial (by rintro ⟨⟩)
    have replying := connected.serve () rfl (congrArg (Prod.mk _) (Stage.succeeding_eq _)) trivial
      (by rintro ⟨⟩)
    have sent := replying.serve (.ok 4) ⟨_, .takes 4 (by decide), rfl⟩ rfl (by decide : 0 < 4)
      (by rintro ⟨⟩)
    have answered {x₁ : World} (_ : Run h (x.begin h) x₁) : Prompted h x₁ 0 x₁ := .start
    have looking := (answered sent).call h .readable rfl
    have header := looking.answers rfl rfl (.ok Message.empty.wire) rfl
      ⟨⟨by decide, by decide, by rintro ⟨⟩⟩, rfl, rfl⟩ rfl
    have message := header.answers rfl rfl (.ok Message.empty.wire) rfl
      ⟨⟨by decide, by decide, by rintro ⟨⟩⟩, rfl, rfl⟩ rfl
    have told := message.answers rfl rfl (.ok Message.empty.wire) (received_wire (.inl rfl) _ _)
      ⟨⟨by decide, rfl, rfl⟩, rfl⟩ trivial
    exact ⟨_, _, sent, rfl, ⟨.empty, .inl rfl, by decide⟩, rfl, told, rfl, agree fresh sent,
      agree fresh (sent.trans told.run)⟩

end Exchange

end TransportConverter
