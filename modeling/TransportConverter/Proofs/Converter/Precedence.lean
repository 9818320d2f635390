import TransportConverter.Proofs.Converter.Learning
import TransportConverter.Proofs.Converter.Patience
/-!
# One answer per session

At every moment the client has been told what the checks make of the findings so far, and nothing
else (`Session.World.Tells`): nothing while they are pending, the code of the first that failed, or
success and then the bytes of the destination. The destination is connected to when the checks of
its request have passed, and once (`Session.World.Answers`).

The invariant says of every stage what has been found out when it is reached (`Stage.Knows`), and
every step keeps it (`Session.knows_step`).
-/
namespace TransportConverter

open Session

namespace Stage

/-- What is being connected to, or is next. -/
def attempt? : Stage → Option SocketAddress
  | admitted destination | connecting destination => some destination
  | _ => none

/-- A session connects to nothing else. -/
theorem attempt?_of_connect {config : ServerConfig} {stage : Stage} {destination : SocketAddress}
    {within : Duration} (calls : .connect destination within ∈ stage.calls config) :
    stage.attempt? = some destination := by
  rw [(connect_mem_calls_iff.1 calls).1, attempt?]

end Stage

namespace Session

namespace World

variable (w : World) (f : Findings)

/-- What the client has been sent. -/
def said : Bytes := (w.lanes .downward).target.sent

/-- Success was reported, and behind it there is nothing but bytes of the destination. -/
def Greeted : Prop := ∃ bridged, w.said = Message.empty.wire ++ bridged ∧
  bridged <+: (w.lanes .downward).source.sent

/-- What the checks make of the findings. -/
def verdict : Verdict := f.verdict w.shared.config w.session.permitted

/-- The client has been told what the checks say, or is being told. -/
structure Tells (answering : Bool) : Prop where
  /-- Nothing is sent before it is known what. -/
  silent : w.verdict f = .pending → w.said = []
  refused : ∀ code, w.verdict f = .failed code → w.said <+: (Message.failure code).wire
  greeted : w.verdict f = .passed → w.said <+: Message.empty.wire ∨ w.Greeted
  /-- The reply is sent to its end unless the connection fails. -/
  whole : answering = false → f.cut = false → ∀ reply, (w.verdict f).reply? = some reply →
    reply.wire <+: w.said
  /-- Only a client that is gone is told nothing. -/
  decided : answering = false → w.verdict f = .pending → f.arrival? = some .lost

/-- The destinations that were connected to, and the one that is next. -/
def attempts : List SocketAddress :=
  f.attempts.map Prod.fst ++ w.session.stage.attempt?.toList

/-- What can be said of a session and what it has found out, at any moment. -/
structure Answers (log : List Event) : Prop where
  /-- The request is what the client has sent. -/
  received : w.Received f
  /-- A destination is connected to exactly when it is admitted. -/
  attempted : ∀ destination, destination ∈ w.attempts f ↔
    f.Admits w.shared.config w.session.permitted destination
  once : (w.attempts f).length ≤ 1
  /-- All checks have passed when the destination was connected to and no shutdown was seen. -/
  passed : w.verdict f = .passed ↔
    (∃ destination outbound, f.attempts = [(destination, .inTime (.ok outbound))]) ∧
      f.draining? = some false
  tells : w.Tells f w.session.stage.answering
  /-- The answer is never more than sixteen stages away, and there is always a next one. -/
  soon : w.session.stage.answering = true → log.countP Event.own < 16 ∧
    ∃ answer w', Step w (.advanced w.session.stage answer) w'

end World

variable {w w' : World} {log : List Event} {f : Findings} {answering : Bool}

namespace World

/-! ## What the client is told -/

theorem tells_of_pending (pending : w.verdict f = .pending) (silent : w.said = [])
    (gone : answering = false → f.arrival? = some .lost) : w.Tells f answering where
  silent _ := silent
  refused _ failed := absurd (pending.symm.trans failed) nofun
  greeted passed := absurd (pending.symm.trans passed) nofun
  whole _ _ reply replies := by
    rw [pending] at replies
    cases replies
  decided settled _ := gone settled

theorem tells_of_failed {code : ErrorCode} (failed : w.verdict f = .failed code)
    (part : w.said <+: (Message.failure code).wire)
    (whole : answering = false → f.cut = false → w.said = (Message.failure code).wire) :
    w.Tells f answering where
  silent pending := absurd (failed.symm.trans pending) nofun
  refused code' failed' := by
    cases failed.symm.trans failed'
    exact part
  greeted passed := absurd (failed.symm.trans passed) nofun
  whole settled uncut reply replies := by
    rw [failed] at replies
    cases replies
    rw [whole settled uncut]
  decided _ pending := absurd (failed.symm.trans pending) nofun

theorem tells_of_passed (passed : w.verdict f = .passed)
    (greeted : w.said <+: Message.empty.wire ∨ w.Greeted)
    (whole : answering = false → f.cut = false → Message.empty.wire <+: w.said) :
    w.Tells f answering where
  silent pending := absurd (passed.symm.trans pending) nofun
  refused _ failed := absurd (passed.symm.trans failed) nofun
  greeted _ := greeted
  whole settled uncut reply replies := by
    rw [passed] at replies
    cases replies
    exact whole settled uncut
  decided _ pending := absurd (passed.symm.trans pending) nofun

/-- What was told is told for good. -/
theorem Tells.grows (tells : w.Tells f answering) (config : w'.shared.config = w.shared.config)
    (permitted : w'.session.permitted = w.session.permitted)
    (grows : (w.lanes .downward).Grows (w'.lanes .downward)) : w'.Tells f answering := by
  have verdict : w'.verdict f = w.verdict f := by
    rw [World.verdict, World.verdict, config, permitted]
  have said : w'.said = w.said := grows.target
  have bridged (greeted : w.Greeted) : w'.Greeted := by
    obtain ⟨bridged, eq, part⟩ := greeted
    exact ⟨bridged, said.trans eq, part.trans grows.source⟩
  obtain ⟨silent, refused, greeted, whole, decided⟩ := tells
  refine ⟨?_, ?_, ?_, ?_, ?_⟩
  · rwa [verdict, said]
  · rwa [verdict, said]
  · rw [verdict, said]
    exact fun passed => (greeted passed).imp_right bridged
  · rwa [verdict, said]
  · rwa [verdict]

/-- The checks come to this, and all attempts have been answered. -/
def Concludes (w : World) (f : Findings) (v : Verdict) : Prop :=
  f.Concludes w.shared.config w.session.permitted v

theorem Concludes.congr {v : Verdict} (concludes : w.Concludes f v)
    (config : w'.shared.config = w.shared.config)
    (permitted : w'.session.permitted = w.session.permitted) : w'.Concludes f v := by
  rw [Concludes, config, permitted]
  exact concludes

/-- The client has been told what there is to be told. -/
def Settled (w : World) (f : Findings) : Prop := (∃ v, w.Concludes f v) ∧ w.Tells f false

theorem Settled.grows (settled : w.Settled f) (config : w'.shared.config = w.shared.config)
    (permitted : w'.session.permitted = w.session.permitted)
    (grows : (w.lanes .downward).Grows (w'.lanes .downward)) : w'.Settled f := by
  obtain ⟨⟨v, concludes⟩, tells⟩ := settled
  exact ⟨⟨v, concludes.congr config permitted⟩, tells.grows config permitted grows⟩

theorem settled_of_greeted (concludes : w.Concludes f .passed) (greeted : w.Greeted) :
    w.Settled f := by
  refine ⟨⟨_, concludes⟩, tells_of_passed concludes.verdict (.inr greeted) fun _ _ => ?_⟩
  obtain ⟨bridged, said, -⟩ := greeted
  rw [said]
  exact List.prefix_append ..

theorem Concludes.cut {v : Verdict} (concludes : w.Concludes f v) :
    w.Concludes { f with cut := true } v := ⟨concludes.verdict, concludes.attempts⟩

/-- The code of the first failing check was reported. -/
theorem settled_of_refused {code : ErrorCode} (concludes : w.Concludes f (.failed code))
    (said : w.said = (Message.failure code).wire) : w.Settled f :=
  ⟨⟨_, concludes⟩, tells_of_failed concludes.verdict (said ▸ List.prefix_rfl) fun _ _ => said⟩

/-- The connection of the client failed under the reply. -/
theorem settled_of_cut {v : Verdict} {reply : Message} (concludes : w.Concludes f v)
    (replies : v.reply? = some reply) (part : w.said <+: reply.wire) :
    w.Settled { f with cut := true } := by
  refine ⟨⟨v, concludes.cut⟩, ?_⟩
  cases v with
  | pending => cases replies
  | passed =>
    cases replies
    exact tells_of_passed concludes.cut.verdict (.inl part) nofun
  | failed code =>
    cases replies
    exact tells_of_failed concludes.cut.verdict part nofun

theorem Begins.greeted {taken : Bytes} (begins : w.Begins taken Message.empty.wire) :
    w.Greeted := by
  refine ⟨[], ?_, List.nil_prefix ..⟩
  rw [List.append_nil]
  exact begins.2.sent

/-- What is sent over a bridge is behind success. -/
theorem Carries.greeted {request : Bytes} {position : Direction → Position}
    {counts : Direction → Nat} (carries : w.Carries request position counts) : w.Greeted := by
  obtain ⟨moved, taken, sent, -⟩ := (carries.2 .downward).moved
  refine ⟨moved, sent, ?_⟩
  rw [Pipe.sent, taken]
  simp only [opening, List.nil_append, List.append_assoc]
  exact List.prefix_append ..

end World

end Session

/-- What a session has found out when it is at a stage. -/
def Stage.Knows (w : World) (f : Findings) : Stage → Prop
  | arriving | entering => False
  | announcing | reading _ => f = {}
  | admitted destination | connecting destination => ∃ message,
      f = { arrival? := some (.whole message) } ∧
        w.shared.config.judge w.session.permitted message = .ok destination
  | connected outbound => ∃ message destination,
      f = { arrival? := some (.whole message)
            attempts := [(destination, .inTime (.ok outbound))] } ∧
        w.shared.config.judge w.session.permitted message = .ok destination
  | replying .. | duplicating _ | linking _ | recording _ | bridged | stopping _ | copying ..
  | counting .. | ending .. | halfClosing .. | finishing _ =>
      w.Concludes f .passed ∧ f.cut = false
  | rejecting error _ => ∃ code, error.replyCode = some code ∧ w.Concludes f (.failed code) ∧
      f.cut = false
  | armingReset _ | marking _ | leaving _ | ended _ => w.Settled f

namespace Session

variable {w w' : World} {log : List Event} {f : Findings} {error : ConverterError}

/-- **What happens around a session teaches it nothing.** -/
theorem knows_frame {stage : Stage} (knows : stage.Knows w f) (frame : Frame w w') :
    stage.Knows w' f := by
  cases stage with
  | arriving => exact knows
  | entering => exact knows
  | announcing => exact knows
  | reading reader => exact knows
  | admitted destination =>
    obtain ⟨message, same, granted⟩ := knows
    exact ⟨message, same, by rw [frame.config, frame.permitted, granted]⟩
  | connecting destination =>
    obtain ⟨message, same, granted⟩ := knows
    exact ⟨message, same, by rw [frame.config, frame.permitted, granted]⟩
  | connected outbound =>
    obtain ⟨message, destination, same, granted⟩ := knows
    exact ⟨message, destination, same, by rw [frame.config, frame.permitted, granted]⟩
  | rejecting error rest =>
    obtain ⟨code, told, concludes, uncut⟩ := knows
    exact ⟨code, told, concludes.congr frame.config frame.permitted, uncut⟩
  | armingReset error => exact knows.grows frame.config frame.permitted (frame.grows _)
  | marking error => exact knows.grows frame.config frame.permitted (frame.grows _)
  | leaving result => exact knows.grows frame.config frame.permitted (frame.grows _)
  | ended result => exact knows.grows frame.config frame.permitted (frame.grows _)
  | _ => exact ⟨knows.1.congr frame.config frame.permitted, knows.2⟩

/-! ## From stage to stage -/

/-- A failure that has a code is reported. -/
theorem knows_failing {code : ErrorCode} (told : error.replyCode = some code)
    (concludes : w.Concludes f (.failed code)) (uncut : f.cut = false) :
    (Stage.failing error).Knows w f := by
  rw [Stage.failing_eq, told]
  exact ⟨code, told, concludes, uncut⟩

theorem knows_failing_silently (none : error.replyCode = none) (settled : w.Settled f) :
    (Stage.failing error).Knows w f := by
  rw [Stage.failing_eq, none]
  exact settled

/-- A client that is gone is told nothing. -/
theorem settled_of_lost (silent : w.said = []) : w.Settled { arrival? := some .lost } := by
  have concludes : w.Concludes { arrival? := some .lost } .pending :=
    Findings.concludes_of_admission (Findings.admission_of_unknown (.inr rfl)) nofun rfl
  exact ⟨⟨_, concludes⟩, World.tells_of_pending concludes.verdict silent fun _ => rfl⟩

/-- A whole request is granted, or refused with the code of the check that it failed. -/
theorem knows_judged {message : Bytes} {header : Header}
    (opens : Header.decode message = .ok header)
    (found : f = { arrival? := some (.whole message) }) :
    (Stage.judged w.shared.config w.session.permitted message).Knows w f := by
  subst found
  unfold Stage.judged
  have admission := Findings.admission_eq w.shared.config w.session.permitted
    (f := { arrival? := some (.whole message) }) rfl opens
  split
  · exact ⟨message, rfl, ‹_›⟩
  · rename_i error refused
    rw [refused] at admission
    obtain ⟨code, told, failed⟩ := admission
    exact knows_failing told (Findings.concludes_of_admission failed nofun rfl) rfl

/-- Whatever becomes of the request. -/
theorem knows_request {progress : RequestProgress} {found : Option Arrival} {sent : Bytes}
    (shown : progress.Shows found) (received : ∀ a, found = some a → a.Of sent)
    (silent : w.said = []) : (Stage.request w.shared.config w.session.permitted progress).Knows w
      { arrival? := found } := by
  cases found with
  | none =>
    obtain ⟨reader, rfl⟩ := shown
    rfl
  | some a =>
    have of := received a rfl
    cases a with
    | late => exact shown.elim
    | whole message =>
      obtain ⟨-, header, opens, -⟩ := of
      obtain rfl : progress = .done (.ok message) := shown
      exact knows_judged opens rfl
    | foreign header =>
      obtain ⟨version, rfl⟩ := shown
      have concludes : w.Concludes { arrival? := some (.foreign header) }
          (.failed .unsupportedVersion) :=
        Findings.concludes_of_admission (Findings.admission_of_foreign rfl of.2.2) nofun rfl
      show (Stage.failing (.decode (.unsupportedVersion version))).Knows w _
      exact knows_failing rfl concludes rfl
    | lost =>
      obtain ⟨error, rfl, none⟩ := shown
      exact knows_failing_silently none (settled_of_lost silent)

/-- A part of a reply goes out, or sending is cut. -/
theorem sending_cases {shared : ConverterState} {session : Session} {lanes : Lanes}
    {taken said rest : Bytes} {answer : Except IoError Nat} {target : Pipe}
    (begins : World.Begins ⟨shared, session, lanes⟩ taken said)
    (writes : (lanes .downward).target.Writes rest answer target) : ∃ written left,
      rest = written ++ left ∧
      World.said ⟨shared, session, lanes.withTarget .downward target⟩ = said ++ written ∧
      (unwritten rest answer = .ok left ∧ f.sending answer = f ∨
        ∃ error, unwritten rest answer = .error error ∧
          f.sending answer = { f with cut := true }) := by
  have sent := f.sending_eq rest answer
  obtain ⟨written, left, split, begins', ok | ⟨error, failed⟩⟩ := begins.write writes
  · rw [ok] at sent
    exact ⟨written, left, split, begins'.2.sent, .inl ⟨ok, sent⟩⟩
  · rw [failed] at sent
    exact ⟨written, left, split, begins'.2.sent, .inr ⟨error, failed, sent⟩⟩

theorem knows_copied (served : w.Concludes f .passed ∧ f.cut = false) (d : Direction)
    (wait : Copy → Copy × Copy) (progress : CopyProgress) :
    (Stage.copied d wait progress).Knows w f := by
  cases progress <;> exact served

theorem knows_bridging (served : w.Concludes f .passed ∧ f.cut = false) (upward downward : Copy) :
    (Stage.bridging upward downward).Knows w f := by
  unfold Stage.bridging
  split <;> exact served

/-- **A session knows at its next stage what it should**, whatever the answer. -/
theorem knows_advance (sound : w.Sound) (knows : w.session.stage.Knows w f)
    {answer : w.session.stage.Answer} {shared : ConverterState} {stage : Stage} {lanes : Lanes}
    (moves : w.session.stage.Moves w.shared.config w.lanes answer lanes)
    (resumed : w.session.stage.resume w.shared w.session answer = (shared, stage)) :
    stage.Knows { shared, lanes, session := { w.session with stage } }
      (w.session.stage.finds w.shared f answer) := by
  obtain ⟨shared₀, ⟨n, handle, address, permitted, stage₀⟩, lanes₀⟩ := w
  have stands := sound.stands
  dsimp only at stands knows moves resumed ⊢
  have still : Frame ⟨shared₀, ⟨n, handle, address, permitted, stage₀⟩, lanes₀⟩
      ⟨shared₀, ⟨n, handle, address, permitted, stage⟩, lanes₀⟩ :=
    ⟨rfl, rfl, rfl, fun _ _ lists => lists, fun d => .refl _⟩
  replace stands := stands.frame still
  replace knows := knows_frame knows still
  cases stage₀ with
  | arriving => exact knows.elim
  | entering => exact knows.elim
  | announcing =>
    cases resumed
    exact knows
  | reading reader =>
    obtain ⟨listed, taken, begins, fits⟩ := stands
    obtain rfl : (lanes₀ .upward).source.taken = taken := begins.1.taken
    obtain rfl : f = {} := knows
    cases answer with
    | late =>
      cases resumed
      exact knows_failing rfl
        (Findings.concludes_of_admission (Findings.admission_of_late rfl) nofun rfl) rfl
    | inTime given =>
      obtain ⟨source, gives, rfl⟩ := moves
      cases resumed
      exact knows_request (RequestReader.shows_resume gives) (fun a found => fits.finds gives found)
        (begins.take source).2.sent
  | admitted destination =>
    cases resumed
    exact knows
  | connecting destination =>
    obtain ⟨message, rfl, granted⟩ := knows
    cases answer with
    | late =>
      cases resumed
      exact knows_failing rfl (Findings.concludes_of_granted granted rfl rfl) rfl
    | inTime outcome =>
      cases outcome with
      | error error =>
        cases resumed
        exact knows_failing rfl (Findings.concludes_of_granted granted rfl rfl) rfl
      | ok outbound =>
        cases resumed
        exact ⟨message, destination, rfl, granted⟩
  | connected outbound =>
    obtain ⟨message, destination, rfl, granted⟩ := knows
    simp only [Stage.resume, Stage.succeeding_eq, Prod.mk.injEq] at resumed
    obtain ⟨rfl, goes⟩ := resumed
    dsimp only [Stage.finds]
    cases draining : shared₀.draining with
    | true =>
      rw [draining, if_pos rfl] at goes
      subst goes
      exact knows_failing rfl (Findings.concludes_of_granted granted rfl rfl) rfl
    | false =>
      rw [draining, if_neg Bool.false_ne_true] at goes
      subst goes
      exact ⟨Findings.concludes_of_granted granted rfl rfl, rfl⟩
  | replying outbound rest =>
    obtain ⟨concludes, uncut⟩ := knows
    obtain ⟨-, request, said, begins, -, split⟩ := stands
    obtain ⟨target, writes, rfl⟩ := moves
    simp only [Stage.resume] at resumed
    obtain ⟨written, left, rfl, told, ⟨ok, same⟩ | ⟨error, failed, cut⟩⟩ :=
      sending_cases (f := f) begins writes
    · rw [ok] at resumed
      rw [Stage.finds, same]
      cases left <;> cases resumed <;> exact ⟨concludes, uncut⟩
    · rw [failed] at resumed
      rw [Stage.finds, cut]
      cases resumed
      refine knows_failing_silently rfl (World.settled_of_cut concludes rfl ⟨left, ?_⟩)
      rw [told, List.append_assoc, split]
  | duplicating outbound =>
    obtain rfl : lanes = lanes₀ := moves
    cases answer with
    | ok u =>
      cases resumed
      exact knows
    | error error =>
      cases resumed
      obtain ⟨-, request, begins, -⟩ := stands
      exact World.settled_of_greeted knows.1 begins.greeted
  | linking outbound =>
    obtain rfl : lanes = lanes₀ := moves
    obtain ⟨table, -, rfl, rfl⟩ | ⟨error, rfl, rfl⟩ := Stage.resume_linking resumed
    · exact knows
    · obtain ⟨-, request, begins, -⟩ := stands
      exact World.settled_of_greeted knows.1 begins.greeted
  | recording outbound =>
    cases resumed
    exact knows
  | bridged =>
    obtain ⟨rfl, ⟨sides, rfl⟩ | rfl⟩ := Stage.resume_bridged resumed <;> exact knows
  | stopping sides =>
    obtain ⟨rfl, ⟨sides', rfl⟩ | rfl⟩ := Stage.resume_stopping resumed <;> exact knows
  | copying upward downward =>
    cases answer with
    | inl answer =>
      cases resumed
      refine knows_copied ?_ ..
      exact knows
    | inr answer =>
      cases resumed
      refine knows_copied ?_ ..
      exact knows
  | counting d count upward downward =>
    cases resumed
    exact knows
  | ending d upward downward =>
    cases resumed
    exact knows
  | halfClosing d upward downward =>
    cases resumed
    refine knows_bridging ?_ ..
    exact knows
  | finishing result =>
    obtain rfl : lanes = lanes₀ := moves
    cases resumed
    obtain ⟨_, ⟨_, _, _, _, carries, -⟩, -⟩ := stands
    exact World.settled_of_greeted knows.1 carries.greeted
  | rejecting error rest =>
    obtain ⟨code, told, concludes, uncut⟩ := knows
    obtain ⟨-, taken, said, code', begins, named, split⟩ := stands
    obtain rfl : code' = code := Option.some.inj (named.symm.trans told)
    obtain ⟨target, writes, rfl⟩ := moves
    simp only [Stage.resume] at resumed
    obtain ⟨written, left, rfl, spoken, ⟨ok, same⟩ | ⟨error', failed, cut⟩⟩ :=
      sending_cases (f := f) begins writes
    · rw [ok] at resumed
      rw [Stage.finds, same]
      cases left with
      | nil =>
        cases resumed
        rw [List.append_nil] at split
        exact World.settled_of_refused concludes (spoken.trans split)
      | cons byte left =>
        cases resumed
        exact ⟨code', told, concludes, uncut⟩
    · rw [failed] at resumed
      rw [Stage.finds, cut]
      cases resumed
      refine World.settled_of_cut concludes rfl ⟨left, ?_⟩
      rw [spoken, List.append_assoc, split]
  | armingReset error =>
    obtain rfl : lanes = lanes₀ := moves
    cases resumed
    exact knows
  | marking error =>
    obtain rfl : lanes = lanes₀ := moves
    cases resumed
    exact knows.grows rfl rfl (.refl _)
  | leaving result =>
    obtain rfl : lanes = lanes₀ := moves
    cases resumed
    exact knows.grows rfl rfl (.refl _)
  | ended result => cases answer

/-! ## At any moment -/

theorem knows_step {event : Event} (sound : w.Sound) (knows : w.session.stage.Knows w f)
    (step : Step w event w') : w'.session.stage.Knows w' (f.after w event) := by
  cases own : event.own with
  | true =>
    cases step with
    | advance answer moves resumed => exact knows_advance sound knows moves resumed
    | _ => cases own
  | false =>
    obtain ⟨frame, same, -⟩ := step.around sound.table own
    rw [same, Findings.after_of_others own]
    exact knows_frame knows frame

theorem concludes_of_nothing : w.Concludes {} .pending :=
  Findings.concludes_of_admission (Findings.admission_of_unknown (.inl rfl)) nofun rfl

/-- The destinations that were connected to, and the one that is next, are those admitted. -/
theorem attempts_of_knows {stage : Stage} (knows : stage.Knows w f) :
    f.attempts.map Prod.fst ++ stage.attempt?.toList =
      (f.destination? w.shared.config w.session.permitted).toList := by
  have answered {v : Verdict} (concludes : w.Concludes f v) : f.attempts.map Prod.fst ++ [] =
      (f.destination? w.shared.config w.session.permitted).toList := by
    rw [List.append_nil]
    exact concludes.attempts
  have next {destination : SocketAddress} (knows : (Stage.admitted destination).Knows w f) :
      f.attempts.map Prod.fst ++ [destination] =
        (f.destination? w.shared.config w.session.permitted).toList := by
    obtain ⟨message, rfl, granted⟩ := knows
    rw [(Findings.of_granted granted rfl).2]
    rfl
  cases stage with
  | arriving => exact knows.elim
  | entering => exact knows.elim
  | announcing =>
    obtain rfl : f = {} := knows
    exact answered concludes_of_nothing
  | reading reader =>
    obtain rfl : f = {} := knows
    exact answered concludes_of_nothing
  | admitted destination => exact next knows
  | connecting destination => exact next knows
  | connected outbound =>
    obtain ⟨message, destination, rfl, granted⟩ := knows
    exact answered (Findings.concludes_of_granted granted rfl rfl)
  | rejecting error rest =>
    obtain ⟨code, -, concludes, -⟩ := knows
    exact answered concludes
  | armingReset error => exact answered knows.1.choose_spec
  | marking error => exact answered knows.1.choose_spec
  | leaving result => exact answered knows.1.choose_spec
  | ended result => exact answered knows.1.choose_spec
  | _ => exact answered knows.1

/-- What the client has been told at a stage is what was found out on the way to it. -/
theorem tells_of_knows (sound : w.Sound) (knows : w.session.stage.Knows w f) :
    w.Tells f w.session.stage.answering := by
  have quiet (pending : w.verdict f = .pending) {taken : Bytes} (begins : w.Begins taken []) :
      w.Tells f true := World.tells_of_pending pending begins.2.sent nofun
  have success {taken : Bytes} (knows : w.Concludes f .passed ∧ f.cut = false)
      (begins : w.Begins taken Message.empty.wire) : w.Tells f false :=
    (World.settled_of_greeted knows.1 begins.greeted).2
  have bridged {position : Direction → Position} (knows : w.Concludes f .passed ∧ f.cut = false)
      (bridges : w.Bridges position) : w.Tells f false := by
    obtain ⟨_, _, _, _, carries, -⟩ := bridges
    exact (World.settled_of_greeted knows.1 carries.greeted).2
  have stands := sound.stands
  revert knows stands
  cases w.session.stage with
  | arriving => exact fun knows => knows.elim
  | entering => exact fun knows => knows.elim
  | announcing =>
    rintro rfl ⟨-, begins⟩
    exact quiet concludes_of_nothing.verdict begins
  | reading reader =>
    rintro rfl ⟨-, taken, begins, -⟩
    exact quiet concludes_of_nothing.verdict begins
  | admitted destination =>
    rintro ⟨message, rfl, granted⟩ ⟨-, request, begins, -⟩
    exact quiet (Findings.of_granted granted rfl).1 begins
  | connecting destination =>
    rintro ⟨message, rfl, granted⟩ ⟨-, request, begins, -⟩
    exact quiet (Findings.of_granted granted rfl).1 begins
  | connected outbound =>
    rintro ⟨message, destination, rfl, granted⟩ ⟨-, request, begins, -⟩
    exact quiet (Findings.of_granted granted rfl).1 begins
  | replying outbound rest =>
    rintro ⟨concludes, -⟩ ⟨-, request, said, begins, -, split⟩
    refine World.tells_of_passed concludes.verdict (.inl ⟨rest, ?_⟩) nofun
    rw [World.said, begins.2.sent, split]
  | rejecting error rest =>
    rintro ⟨code, told, concludes, -⟩ ⟨-, taken, said, code', begins, told', split⟩
    obtain rfl : code' = code := Option.some.inj (told'.symm.trans told)
    refine World.tells_of_failed concludes.verdict ⟨rest, ?_⟩ nofun
    rw [World.said, begins.2.sent, split]
  | duplicating outbound => exact fun knows ⟨_, _, begins, _⟩ => success knows begins
  | linking outbound => exact fun knows ⟨_, _, begins, _⟩ => success knows begins
  | recording outbound => exact fun knows ⟨_, _, begins, _⟩ => success knows begins
  | bridged => exact bridged
  | stopping sides => exact bridged
  | copying upward downward => exact bridged
  | counting d count upward downward => exact fun knows stands => bridged knows stands.2
  | ending d upward downward => exact fun knows stands => bridged knows stands.2
  | halfClosing d upward downward => exact fun knows stands => bridged knows stands.2
  | finishing result => exact fun knows ⟨_, bridges, _⟩ => bridged knows bridges
  | armingReset error => exact fun knows _ => knows.2
  | marking error => exact fun knows _ => knows.2
  | leaving result => exact fun knows _ => knows.2
  | ended result => exact fun knows _ => knows.2

/-- What holds along a run that begins where the session's handle was tracked. -/
theorem Learns.invariant {w₀ : World} (learns : Learns w₀ log f w) (sound : w₀.Sound)
    (tracked : w₀.session.stage = .announcing) :
    w.Sound ∧ w.session.stage.Knows w f ∧ w.Received f ∧
      (log.countP Event.own + w.session.stage.patience ≤ 16 ∨ w.session.stage.patience = 0) := by
  induction learns with
  | start =>
    rw [tracked]
    exact ⟨sound, rfl, nofun, .inl (Nat.le_refl 16)⟩
  | @step log f w w' event learns step ih =>
    obtain ⟨sound, knows, received, near⟩ := ih
    refine ⟨sound.step step, knows_step sound knows step, received.step sound step, ?_⟩
    have nearer := patience_step sound.table step
    rw [List.countP_append, List.countP_singleton]
    cases own : event.own with
    | true =>
      rw [own, if_pos rfl] at nearer
      rw [if_pos rfl]
      omega
    | false =>
      rw [own, if_neg Bool.false_ne_true] at nearer
      rw [if_neg Bool.false_ne_true]
      omega

/-- **One answer, by the first check that fails.** From the moment a session's handle is tracked,
whatever its client sends and in whatever pieces, however long it takes and whenever it stops,
whatever becomes of connecting to the destination and whenever a shutdown begins: something is found
out in every run, and at every moment of it the client has been told what the checks make of that in
their order, or is being told. -/
theorem one_answer_by_precedence {w w₀ w' : World} {log₀ log : List Event} (fresh : w.Fresh)
    (accepted : Run w log₀ w₀) (tracked : w₀.session.stage = .announcing) (run : Run w₀ log w') :
    (∃ f, Learns w₀ log f w') ∧ ∀ f, Learns w₀ log f w' → w'.Answers f log := by
  refine ⟨run.learns, fun f learns => ?_⟩
  obtain ⟨sound, knows, received, near⟩ := learns.invariant (accepted.sound fresh) tracked
  have attempts : w'.attempts f = _ := attempts_of_knows knows
  refine ⟨received, fun destination => ?_, ?_, Findings.verdict_eq_passed_iff attempts,
    tells_of_knows sound knows, fun answering => ⟨?_, exists_advance answering⟩⟩
  · rw [attempts, Option.mem_toList, Findings.destination?_eq_some_iff]
  · rw [attempts]
    exact Option.length_toList_le
  · have := (Stage.answering_iff_patience _).1 answering
    omega

/-- A client above the limit that shows an unknown cookie and asks for a blocked destination is told
of the limit. -/
theorem one_answer_by_precedence_above_limit :
    let request : Bytes :=
      [1, 3, 0, 25, 10, 0, 18, 0, 0, 0, 0, 0, 0, 0, 0, 0, 0, 255, 255, 203, 0, 113, 5, 1, 187,
        22, 0, 1, 9]
    let w : World :=
      { shared :=
          { config := { cookies := [[1]], blockedDestinations := [.v4 ⟨203, 0, 113, 5⟩] } }
        session :=
          { id := 0, handle := ⟨7⟩, clientAddress := .v4 ⟨192, 0, 2, 9⟩ 50000, permitted := false }
        lanes := fun d => d.pick { source := { held := request } } {} }
    w.Fresh ∧ ∃ log₀ w₀ log w', Run w log₀ w₀ ∧ w₀.session.stage = .announcing ∧ Run w₀ log w' ∧
      w'.said = (Message.failure .resourceExceeded).wire ∧
      (∃ f, Learns w₀ log f w') ∧ ∀ f, Learns w₀ log f w' → w'.Answers f log := by
  intro request w
  have judged : Stage.judged w.shared.config false request =
      .rejecting (.rejected .resourceExceeded) (Message.failure .resourceExceeded).wire := by
    have valid : (Message.request (.v4 ⟨203, 0, 113, 5⟩ 443) (some [9])).Valid :=
      ⟨by simp [Message.request], by rintro cookie ⟨⟩; decide⟩
    have read := Message.decode_of_spells (Message.spells_wire valid [])
    have written : (Message.request (.v4 ⟨203, 0, 113, 5⟩ 443) (some [9])).wire = request := by
      decide
    rw [List.append_nil, written] at read
    rw [Stage.judged, ServerConfig.judge, read]
    exact Stage.failing_eq _
  have fresh : w.Fresh :=
    ⟨List.nodup_nil, rfl, fun d => by cases d <;> rfl, fun d => by cases d <;> rfl⟩
  have arriving : Run w [] w := .start
  have entering := arriving.advance (.ok ()) rfl rfl
  have accepted := entering.advance () rfl rfl
  have onward {w₀ : World} {log₀ : List Event} (_ : Run w log₀ w₀) : Run w₀ [] w₀ := .start
  have peeking := (onward accepted).advance () rfl rfl
  have taking := peeking.advance (.inTime (.ok [1, 3, 0, 25]))
    ⟨_, ⟨.piece 4 (by decide) (by decide) (by decide), rfl⟩, rfl⟩ rfl
  have took : Pipe.Takes { held := request } 29 (.ok request) { taken := request } :=
    .whole (by decide)
  have rejecting := taking.advance (.inTime (.ok request)) ⟨_, took, rfl⟩
    (congrArg (Prod.mk _) judged)
  have told := rejecting.advance (.ok 8) ⟨_, .takes 8 (by decide), rfl⟩ rfl
  exact ⟨fresh, _, _, _, _, accepted, rfl, told, rfl,
    one_answer_by_precedence fresh accepted rfl told⟩

end Session

end TransportConverter
