import TransportConverter.Proofs.Exchange.Joint
/-!
# Whoever looks at a whole answer is told

Once the converter has sent all of its answer, a look at it (`read_reply`, `read_reply_blocking`) cannot fail
to be told, as long as the connection keeps nothing back (`World.Sound.told_promptly`). Each answer of the
connection brings a look closer to its end (`Operation.left`), and none can leave it with nothing. What others
do meanwhile neither takes the claim from it nor any byte.
-/
namespace TransportConverter

open Engine Session

/-- A failure and a success do not begin alike. -/
theorem Message.failure_ne_empty {code : ErrorCode} {bytes : Bytes}
    (failed : (failure code).wire <+: bytes) : ¬ empty.Carried bytes := by
  have longer : ¬ (failure code).wire.length ≤ empty.wire.length := by
    show ¬ 8 ≤ 4
    decide
  rintro (part | success)
  · exact longer (failed.trans part).length_le
  · rcases List.prefix_or_prefix_of_prefix failed success with part | part
    · exact longer part.length_le
    · exact Session.not_isPrefix_failure List.prefix_rfl part

/-! ## What the connection can answer -/

/-- Bytes that are at hand can be shown. -/
theorem Pipe.shows_take {p : Pipe} {room : Nat} (some : 0 < room) (there : p.held ≠ [])
    (closed : Prop) : p.Shows closed room (.ok (p.held.take room)) := by
  refine ⟨List.take_prefix .., List.length_take_le .., fun none => ?_⟩
  rcases List.take_eq_nil_iff.1 none with none | none
  · exact absurd some (none ▸ Nat.lt_irrefl _)
  · exact absurd none there

namespace Message

variable {reply : Message} {down : Pipe} {closed : Prop}

theorem held_of_unread (unread : down.taken = []) : down.sent = down.held := by
  rw [Pipe.sent, unread, List.nil_append]

/-- Of a whole message that nobody has read the header is at hand. -/
theorem headerLength_le_held (whole : reply.wire <+: down.sent) (unread : down.taken = []) :
    headerLength ≤ down.held.length := by
  rw [← held_of_unread unread]
  exact Nat.le_trans reply.headerLength_le_wire whole.length_le

/-- A call of a look at a whole message can be answered with all that there is. -/
theorem Brought.exists_prompt (brought : reply.Brought down closed)
    (whole : reply.wire <+: down.sent) {op : Operation} (reads : op.reads = true)
    (awaits : op.Awaits down) (up : Pipe) : ∃ answer down',
      op.Heard up down closed answer up down' ∧ op.Prompt down answer := by
  have some (unread : down.taken = []) : down.held ≠ [] := by
    rw [← List.length_pos_iff]
    exact Nat.lt_of_lt_of_le (by decide) (headerLength_le_held whole unread)
  cases op with
  | sendingRequest h request => cases reads
  | flushing h mode pending => cases reads
  | armingReset h error => cases reads
  | peekingHeader h =>
    exact ⟨_, down, ⟨Pipe.shows_take (by decide) (some awaits) closed, rfl, rfl⟩, rfl⟩
  | peekingMessage h length =>
    obtain ⟨unread, opens, decoded, part, long, read, rfl⟩ := awaits
    have room : 0 < decoded.messageLength :=
      Nat.lt_of_lt_of_le (by decide) decoded.headerLength_le_messageLength
    exact ⟨_, down, ⟨Pipe.shows_take room (some unread) closed, rfl, rfl⟩, rfl⟩
  | takingMessage h length =>
    obtain ⟨unread, opens, decoded, part, long, read, rfl⟩ := awaits
    have there : decoded.messageLength ≤ down.held.length := by
      rw [brought.length_eq part long read, ← held_of_unread unread]
      exact whole.length_le
    exact ⟨.ok (down.held.take decoded.messageLength), _, ⟨⟨there, rfl, rfl⟩, rfl⟩, trivial⟩
  | takingHeader h =>
    have there := headerLength_le_held whole awaits
    exact ⟨.ok (down.held.take headerLength), _, ⟨⟨there, rfl, rfl⟩, rfl⟩, trivial⟩
  | takingRest h header length =>
    obtain ⟨rfl, long, decoded, opens, rfl⟩ := awaits
    have length := brought.length_eq down.taken_isPrefix (Nat.le_of_eq long.symm) opens
    have there : decoded.messageLength - headerLength ≤ down.held.length := by
      have := whole.length_le
      rw [Pipe.sent, List.length_append] at this
      omega
    exact ⟨.ok (down.held.take (decoded.messageLength - headerLength)), _,
      ⟨⟨there, rfl, rfl⟩, rfl⟩, trivial⟩

end Message

namespace Exchange

variable {x x' x'' : World} {h : Handle} {n : Nat}

namespace World

/-! ## Where a redirect stands -/

theorem own_of_flying {c : Caller} (flies : x.client.flying h = [c]) : c.handle = h := by
  have mem : c ∈ x.client.flying h := by simp [flies]
  simpa using (List.mem_filter.1 mem).2

/-- A redirect that was asked for and of which nothing was told is idle, or one caller has the claim. -/
theorem Sound.seeks (sound : x.Sound h) (untold : told h x.log = none)
    (asks : asked h x.log ≠ none) : ∃ m pending, x.request? h = some m ∧
      ((x.client.flying h = [] ∧ accepted h x.log ++ pending = m.wire ∧ x.down.taken = [] ∧
          ∃ s, x.client.engine.table.lookup h = some s ∧ s.phase = .awaitingRedirect ∧
            s.claimed = false ∧ s.pending = pending) ∨
        ∃ c, x.client.flying h = [c] ∧ c.op.Awaits x.down ∧
          (c.op.call x.client.engine.config).Due m.wire (accepted h x.log) pending ∧
          ∃ s, x.client.engine.table.lookup h = some s ∧ s.phase = .awaitingRedirect ∧
            s.claimed = true ∧ s.pending = pending) := by
  have stance := sound.stance
  rw [untold] at stance
  obtain ⟨destination, request, pending, asked, written, stands⟩ := stance.seeks asks
  rw [request_of_proper sound.proper] at written
  cases written
  refine ⟨_, pending, by rw [World.request?, asked]; rfl, ?_⟩
  rcases stands with ⟨quiet, split, unread, alone⟩ | ⟨c, flies, awaits, due, alone⟩
  · exact .inl ⟨quiet, split, unread, _, alone.lookup, rfl, rfl, rfl⟩
  · exact .inr ⟨c, flies, awaits, due, _, alone.lookup, rfl, rfl, rfl⟩

/-- The converter has sent all of an answer. -/
def Answered (x : World) : Prop :=
  ∃ reply : Message, reply.Reports ∧ reply.wire <+: x.down.sent

/-- What the connection brings has come as a whole. -/
theorem Answered.brought (answered : x.Answered) :
    ∃ reply : Message, reply.Brought x.down x.Closed ∧ reply.wire <+: x.down.sent := by
  obtain ⟨reply, reports, whole⟩ := answered
  exact ⟨reply, ⟨reports, .inr whole, fun _ => whole⟩, whole⟩

/-- Nothing is answered before the request is out. -/
theorem Sound.out_of_answered (sound : x.Sound h) (answered : x.Answered) : x.Out h := by
  obtain ⟨m, asked, opens⟩ : ∃ m, x.request? h = some m ∧ m.wire <+: x.up.taken := by
    obtain ⟨reply, replies, -⟩ := sound.brings
    cases replies with
    | success part undecided served whole =>
      have opens : Message.empty.wire <+: x.down.sent := by
        obtain ⟨reply, rfl | ⟨code, rfl, -⟩, whole⟩ := answered
        · exact whole
        · exact absurd part (Message.failure_ne_empty whole)
      obtain ⟨m, -, asked, opens, -⟩ := served opens
      exact ⟨m, asked, opens⟩
    | failure told named part outcome refused whole =>
      obtain ⟨m, asked, took, -⟩ := refused
      exact ⟨m, asked, by rw [World.up, took]⟩
  rcases sound.sends.sent with sent | ⟨out, -⟩
  · have whole := opens.trans x.up.taken_isPrefix
    rw [sent] at whole
    exact ⟨m, asked, (sound.sends.part m asked).eq_of_length_le whole.length_le⟩
  · exact out

/-- As long as nothing is told of a whole answer, the entry is idle, or one caller reads. -/
theorem Sound.looks (sound : x.Sound h) (answered : x.Answered) (untold : told h x.log = none) :
    (x.client.flying h = [] ∧ ∃ s, x.client.engine.table.lookup h = some s ∧
        s.phase = .awaitingRedirect ∧ s.claimed = false ∧ s.pending = []) ∨
      ∃ c, x.client.flying h = [c] ∧ c.op.reads = true ∧ c.op.Awaits x.down ∧
        ∃ s, x.client.engine.table.lookup h = some s ∧ s.phase = .awaitingRedirect ∧
          s.claimed = true := by
  obtain ⟨m, request, all⟩ := sound.out_of_answered answered
  have asks : asked h x.log ≠ none := by
    intro none
    rw [World.request?, none] at request
    cases request
  obtain ⟨m', pending, request', stands⟩ := sound.seeks untold asks
  cases request.symm.trans request'
  have rest (split : accepted h x.log ++ pending = m.wire) : pending = [] := by
    have := congrArg List.length split
    rw [List.length_append, all] at this
    exact List.length_eq_zero_iff.1 (by omega)
  rcases stands with ⟨quiet, split, -, s, found, awaits, free, rfl⟩ |
    ⟨⟨n, op⟩, flies, awaits, due, s, found, phase, claimed, rfl⟩
  · exact .inl ⟨quiet, s, found, awaits, free, rest split⟩
  · refine .inr ⟨⟨n, op⟩, flies, ?_, awaits, s, found, phase, claimed⟩
    -- nothing of the request is left to be sent
    cases op with
    | sendingRequest h' request' =>
      obtain ⟨-, none, -⟩ := due
      rw [none] at all
      cases all
    | flushing h' mode pending' =>
      obtain ⟨-, left, split⟩ := due
      exact absurd (rest split) left
    | armingReset h' error => exact absurd due id
    | _ => rfl

/-! ## What a step leaves as it is -/

/-- What is sent to the client is not changed by what happens around the session. -/
theorem down_of_aside {event : Session.Event} {server : Session.World}
    (step : Session.Step x.server event server) (aside : event.Aside x.server.session.stage) :
    World.down { x with server } = x.down := by
  cases step with
  | advance answer moves resumed => exact absurd aside id
  | arrive d bytes going => exact x.server.lanes.target_withSource d _ _
  | finish d => exact x.server.lanes.target_withSource d _ _
  | stop d => exact x.server.lanes.target_withSource d _ _
  | draw d count =>
    cases d with
    | upward =>
      have ne : Direction.downward ≠ .upward := nofun
      have same := x.server.lanes.withTarget_ne ne ((x.server.lanes .upward).target.advance count)
      exact congrArg Lane.target same
    | downward => exact absurd aside id
  | disturb draining elsewhere => rfl

end World

open World

/-- What has been sent to the client stays so. -/
theorem Step.sent (step : Step h x x') : x.down.sent <+: x'.down.sent := by
  cases step with
  | off step off => exact List.prefix_rfl
  | answer step own heard =>
    obtain ⟨n, rfl⟩ := heard.draws
    rw [down_withPipes, Pipe.sent_advance]
  | serve step smooth newly =>
    cases step with
    | advance answer moves resumed => exact (moves.moved .downward).target.sent
  | aside step aside => rw [down_of_aside step aside]
  | follow bytes out going => rw [down_withPipes]
  | finish out => rw [down_withPipes]

theorem Step.answered (step : Step h x x') (answered : x.Answered) : x'.Answered := by
  obtain ⟨reply, reports, whole⟩ := answered
  exact ⟨reply, reports, whole.trans step.sent⟩

theorem Step.log (step : Step h x x') : x'.log = x.log ∨ ∃ event, x'.log = x.log ++ [event] := by
  cases step with
  | off step off => exact .inr ⟨_, rfl⟩
  | answer step own heard => exact .inr ⟨_, rfl⟩
  | _ => exact .inl rfl

/-- What has been told stays told. -/
theorem Step.untold (step : Step h x x') (untold : told h x'.log = none) :
    told h x.log = none := by
  rcases step.log with same | ⟨event, more⟩
  · rwa [same] at untold
  · rw [more, told_snoc, Option.or_eq_none_iff] at untold
    exact untold.1

/-- Only an answer of the connection makes a caller go on, and only where nobody is another one is let
in. -/
theorem Step.flying (step : Step h x x') (sound : x.Sound h) (answered : x.Answered)
    (untold : told h x.log = none) (silent : ∀ event, x'.log = x.log ++ [event] → event.Off h) :
    x'.client.flying h = x.client.flying h ∨ x.client.flying h = [] := by
  cases step with
  | @off event client step off =>
    cases step with
    | track k => exact .inl (x.client.spares_track (Ne.symm off)).flying
    | close k => exact .inl rfl
    | @call k call e p started =>
      have confined := (started_start x.client.engine k call).confined
      rw [started] at confined
      have flying := flying_call (p := p) confined.handle x.client e (x.client.trackings k) h
      by_cases own : k = h
      · rcases sound.looks answered untold with ⟨quiet, -⟩ | ⟨c, -, -, -, s, found, awaits, claimed⟩
        · exact .inr quiet
        · -- who has the claim keeps it
          subst own
          rw [start_of_claimed found awaits claimed] at started
          cases started
          rw [if_pos rfl] at flying
          exact .inl flying
      · rw [if_neg own] at flying
        exact .inl flying
    | @answer before after c place answer e p resumed =>
      have confined := confined_resume x.client.engine c.op answer
      rw [resumed] at confined
      have flying := flying_answer (p := p) place confined.handle e h
      rw [if_neg off] at flying
      exact .inl flying
  | answer step own heard => exact absurd own (silent _ rfl)
  | _ => exact .inl rfl

/-- The connection answers the only caller on `h`, and that goes on from there. -/
theorem Step.answers (step : Step h x x') {c : Caller} {answer : c.op.Answer} {p : Progress}
    (own : c.handle = h) (log : x'.log = x.log ++ [.answered c answer p]) :
    ∃ others after, x.client.flying h = others ++ c :: after ∧
      x'.client.flying h = others ++ p.callers c.tracking ++ after ∧
      (x.client.engine.resume c.op answer).2 = p ∧
      ∃ up down, c.op.Heard x.up x.down x.Closed answer up down := by
  cases step with
  | off step off =>
    cases List.append_cancel_left log
    exact absurd own off
  | @answer c' answer' p' client up down step own' heard =>
    cases List.append_cancel_left log
    cases step with
    | @answer before after c place answer e p resumed =>
      have confined := confined_resume x.client.engine c.op answer
      rw [resumed] at confined
      have flying := flying_answer (p := p) place confined.handle e h
      rw [if_pos own] at flying
      obtain ⟨others, after', flying, flying'⟩ := flying
      exact ⟨others, after', flying, flying', by rw [resumed], up, down, heard⟩
  | _ => exact absurd log (by simp)

/-! ## Answers, one after the other -/

namespace World

/-- **A prompt answer brings a look closer to its end**, or it is told. -/
theorem Answered.closer (answered : x.Answered) {c : Caller} {answer : c.op.Answer}
    (reads : c.op.reads = true) (awaits : c.op.Awaits x.down) {up down : Pipe}
    (heard : c.op.Heard x.up x.down x.Closed answer up down) (prompt : c.op.Prompt x.down answer) :
    (∃ verdict, (x.client.engine.resume c.op answer).2.verdict? = some verdict) ∨
      ∃ op, (x.client.engine.resume c.op answer).2 = .waiting op ∧ op.left < c.op.left := by
  obtain ⟨reply, brought, whole⟩ := answered.brought
  have finds := finds_resume heard reads awaits brought x.client.engine
  generalize x.client.engine.resume c.op answer = result at finds
  cases finds with
  | further op same reads awaits closer => exact .inr ⟨op, rfl, closer⟩
  | nothing unread late => exact absurd ⟨whole, prompt⟩ late
  | answered took =>
    rcases Stance.settle_reply x.client.engine c.op.handle brought.reports with
      ⟨-, eq⟩ | ⟨code, -, -, eq⟩
    · exact .inl ⟨.ok (), by rw [eq]; rfl⟩
    · exact .inl ⟨.error (.rejected code), by rw [eq]; rfl⟩

/-- The connection answers the only caller on `h`. -/
theorem exists_answer {m : Nat} {op : Operation} (flies : x.client.flying h = [⟨m, op⟩])
    (answer : op.Answer) {up down : Pipe} (heard : op.Heard x.up x.down x.Closed answer up down)
    {e : Engine} {p : Progress} (resumed : x.client.engine.resume op answer = (e, p)) :
    ∃ x', Step h x x' ∧ x'.client.engine = e ∧ x'.client.flying h = p.callers m ∧
      x'.server = x.withPipes up down ∧ x'.log = x.log ++ [.answered ⟨m, op⟩ answer p] := by
  have mem : (⟨m, op⟩ : Caller) ∈ x.client.flying h := by simp [flies]
  obtain ⟨there, own⟩ := List.mem_filter.1 mem
  replace own : Caller.handle ⟨m, op⟩ = h := by simpa using own
  obtain ⟨before, after, place⟩ := List.append_of_mem there
  have confined := confined_resume x.client.engine op answer
  rw [resumed] at confined
  have flying := flying_answer (p := p) place confined.handle e h
  rw [if_pos own] at flying
  obtain ⟨others, after', all, flying⟩ := flying
  rw [flies] at all
  have none : others = [] ∧ after' = [] := by
    have := congrArg List.length all
    rw [List.length_append, List.length_cons, List.length_cons, List.length_nil] at this
    exact ⟨List.length_eq_zero_iff.1 (by omega), List.length_eq_zero_iff.1 (by omega)⟩
  obtain ⟨rfl, rfl⟩ := none
  rw [List.nil_append, List.append_nil] at flying
  exact ⟨_, .answer (.answer place answer resumed) own heard, rfl, flying, rfl, rfl⟩

/-- A caller takes the claim. -/
theorem exists_call (quiet : x.client.flying h = []) {call : Call} {e : Engine} {op : Operation}
    (started : x.client.engine.start h call = (e, .waiting op)) :
    ∃ x' m, Step h x x' ∧ x'.client.engine = e ∧ x'.client.flying h = [⟨m, op⟩] ∧
      x'.server = x.server ∧ x'.log = x.log ++ [.called h m call (.waiting op)] := by
  have confined := (started_start x.client.engine h call).confined
  rw [started] at confined
  refine ⟨_, _, .off (.call h call started) trivial, rfl, ?_, rfl, rfl⟩
  rw [flying_call confined.handle, if_pos rfl, quiet]
  rfl

end World

namespace Prompted

theorem run (prompted : Prompted h x n x') : Run h x x' := by
  induction prompted with
  | start => exact .start
  | other _ step silent ih => exact ih.step step
  | answer _ step own log prompt ih => exact ih.step step

theorem answered (prompted : Prompted h x n x') (answered : x.Answered) : x'.Answered := by
  induction prompted with
  | start => exact answered
  | other _ step silent ih => exact step.answered ih
  | answer _ step own log prompt ih => exact step.answered ih

/-- **Until somebody is told, either nobody has looked yet, or the answers so far have brought the one who
looks so much closer to the end.** -/
theorem stays (prompted : Prompted h x n x') (sound : x.Sound h) (answered : x.Answered)
    (untold : told h x'.log = none) : x'.client.flying h = [] ∧ n = 0 ∨
      ∃ c, x'.client.flying h = [c] ∧ n + c.op.left ≤ 3 := by
  induction prompted with
  | start =>
    rcases sound.looks answered untold with ⟨quiet, -⟩ | ⟨c, flies, -⟩
    · exact .inl ⟨quiet, rfl⟩
    · exact .inr ⟨c, flies, (Nat.zero_add _).trans_le c.op.left_le⟩
  | @other n x' x'' before step silent ih =>
    have sound' := before.run.keeps sound
    have answered' := before.answered answered
    have untold' := step.untold untold
    rcases ih untold' with ⟨quiet, rfl⟩ | ⟨c, flies, few⟩
    · rcases (sound'.step step).looks (step.answered answered') untold with
        ⟨quiet', -⟩ | ⟨c, flies, -⟩
      · exact .inl ⟨quiet', rfl⟩
      · exact .inr ⟨c, flies, (Nat.zero_add _).trans_le c.op.left_le⟩
    · rcases step.flying sound' answered' untold' silent with same | quiet
      · exact .inr ⟨c, same.trans flies, few⟩
      · rw [flies] at quiet
        cases quiet
  | @answer n x' x'' before step c answer p own log prompt ih =>
    have sound' := before.run.keeps sound
    have answered' := before.answered answered
    have untold' := step.untold untold
    obtain ⟨others, after, flying, flying', rfl, up, down, heard⟩ := step.answers own log
    rcases ih untold' with ⟨quiet, -⟩ | ⟨c', flies, few⟩
    · rw [quiet] at flying
      simp at flying
    · obtain ⟨rfl, rfl, rfl⟩ : others = [] ∧ c' = c ∧ after = [] := by
        rw [flies] at flying
        cases others with
        | nil => simpa [eq_comm] using flying
        | cons _ others => simp at flying
      rcases sound'.looks answered' untold' with ⟨quiet, -⟩ | ⟨c, flies', reads, awaits, -⟩
      · rw [flies] at quiet
        cases quiet
      · obtain rfl : c = c' := by simpa [flies] using flies'.symm
        rcases answered'.closer reads awaits heard prompt with ⟨verdict, tells⟩ | ⟨op, goes, closer⟩
        · -- the caller has been told
          rw [log, told_snoc, untold', Option.none_or, Engine.Event.verdict?, if_pos own, tells] at untold
          cases untold
        · rw [goes] at flying'
          exact .inr ⟨_, flying', by dsimp only; omega⟩

end Prompted

/-- **Whoever looks at a whole answer is told**, by the third prompt answer of the connection at the latest.
Until then whoever looks first is let in, and then the connection can answer him. -/
theorem World.Sound.told_promptly (sound : x.Sound h) (answered : x.Answered)
    (prompted : Prompted h x n x') (untold : told h x'.log = none) :
    (n = 0 ∧ x'.client.flying h = [] ∧ ∀ call : Call, call.destination? = none →
      ∃ e op, x'.client.engine.start h call = (e, .waiting op)) ∨
    n < 3 ∧ ∃ c, x'.client.flying h = [c] ∧ ∃ x'', Prompted h x (n + 1) x'' := by
  have sound' := prompted.run.keeps sound
  have answered' := prompted.answered answered
  have stays := prompted.stays sound answered untold
  rcases sound'.looks answered' untold with
    ⟨quiet, s, found, awaits, free, none⟩ | ⟨⟨m, op⟩, flies, reads, awaits, -⟩
  · rcases stays with ⟨-, rfl⟩ | ⟨c, flies, -⟩
    · exact .inl ⟨rfl, quiet, fun call looks => ⟨_, _, start_of_idle found awaits free looks⟩⟩
    · rw [quiet] at flies
      cases flies
  · have own : Caller.handle ⟨m, op⟩ = h := own_of_flying flies
    obtain ⟨reply, brought, whole⟩ := answered'.brought
    obtain ⟨answer, down, heard, prompt⟩ := brought.exists_prompt whole reads awaits x'.up
    obtain ⟨x'', step, -, -, -, log⟩ := exists_answer flies answer heard rfl
    have goes : Prompted h x (n + 1) x'' := prompted.answer step own log prompt
    rcases stays with ⟨quiet, -⟩ | ⟨c, flies', few⟩
    · rw [quiet] at flies
      cases flies
    · obtain rfl : c = ⟨m, op⟩ := by simpa [flies] using flies'.symm
      have some : 0 < op.left := Operation.left_pos reads
      replace few : n + op.left ≤ 3 := few
      exact .inr ⟨by omega, _, flies, x'', goes⟩

end Exchange

end TransportConverter
