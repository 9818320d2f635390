import TransportConverter.Proofs.Converter.Transparency
import TransportConverter.Proofs.Exchange.Answering
import TransportConverter.Proofs.Exchange.Asking
/-!
# Both sides together

What a run of both sides keeps (`Exchange.World.Sound`): the connection to the converter holds what the
client's sockets have taken of its request, and application bytes behind it once the request is out; the
session has made of that request what it should; and the client has made of what came back what it should.
Each step is one of a side and is no matter to the other, but for what it puts into a pipe or takes out.
-/
namespace TransportConverter

open Engine Session

namespace Engine

/-- What the callers on `h` are told first of its redirect. -/
def told (h : Handle) (log : List Event) : Option (Except RedirectError Unit) :=
  log.findSome? (Event.verdict? h)

theorem told_snoc (h : Handle) (log : List Event) (event : Event) :
    told h (log ++ [event]) = (told h log).or (event.verdict? h) := by
  simp [told]

/-- Nothing has changed for `h`. -/
structure World.Spares (w : World) (h : Handle) (w' : World) : Prop where
  config : w'.engine.config = w.engine.config
  untracked : w.engine.table.contains h = false → w'.engine.table.contains h = false
  alone : ∀ s, w.engine.table.Alone h s → w'.engine.table.Alone h s
  flying : w'.flying h = w.flying h

namespace World

variable {w : World} {h k : Handle}

theorem spares_track (w : World) (ne : h ≠ k) : w.Spares h (w.track k) := by
  cases inserted : w.engine.table.insert k { cookie := w.engine.config.cookie } with
  | error error =>
    rw [track_of_refused inserted]
    exact ⟨rfl, fun untracked => untracked, fun _ alone => alone, rfl⟩
  | ok table =>
    rw [track_of_insert inserted]
    have cell := Registry.cell?_of_insert inserted ne
    refine ⟨rfl, fun untracked => ?_, fun s alone => ?_, rfl⟩
    · rw [Registry.contains, cell]
      exact untracked
    · rw [Registry.Alone, cell]
      exact alone

theorem spares_close (w : World) (ne : h ≠ k) : w.Spares h (w.close k) :=
  ⟨rfl, fun untracked => Registry.untracked_remove untracked k, fun _ alone => alone.remove_ne ne, rfl⟩

/-- What comes of another handle. -/
theorem spares_of_confined {e : Engine} {p : Progress} {flying : List Caller}
    (confined : Confined k w.engine (e, p)) (ne : h ≠ k)
    (flies : World.flying { w with engine := e, inFlight := flying } h = w.flying h) :
    w.Spares h { w with engine := e, inFlight := flying } :=
  ⟨confined.config, confined.touched.untracked, fun _ => confined.touched.alone ne, flies⟩

end World

theorem Stance.spared {w w' : World} {h : Handle} {log : List Event} {event : Event} {down : Pipe}
    {told : Option (Except RedirectError Unit)} (stance : Stance h w log down told)
    (spares : w.Spares h w') (taken : event.taken h = []) (asks : event.destination? h = none) :
    Stance h w' (log ++ [event]) down told := by
  refine stance.frame spares.config spares.untracked spares.alone spares.flying ?_ ?_ rfl
    List.prefix_rfl
  · rw [asked_snoc, asks, Option.or_none]
  · rw [accepted_snoc, taken, List.append_nil]

end Engine

namespace Stage

variable {judge : Judge} {taken said : Bytes} {m? : Option Message} {stage : Stage}

/-- What a session that has read the message has taken: only the message, unless the client has been
told of the success. -/
theorem Serves.took (serves : stage.Serves judge taken said m?) (read : stage.hasRead = true) :
    (∃ m, m? = some m ∧ taken = m.wire) ∨ Message.Served judge taken m? ∧
      (stage.bridges = true ∨ (∃ result, stage = finishing result) ∨ Message.empty.wire <+: said) := by
  have admitted {destination : SocketAddress} :
      Message.Admitted judge taken m? destination → ∃ m, m? = some m ∧ taken = m.wire :=
    fun ⟨m, asked, whole, _⟩ => ⟨m, asked, whole⟩
  have refused {error : ConverterError} :
      Message.Refused judge taken m? error → ∃ m, m? = some m ∧ taken = m.wire :=
    fun ⟨m, asked, whole, _⟩ => ⟨m, asked, whole⟩
  cases stage with
  | arriving => cases read
  | entering => cases read
  | announcing => cases read
  | reading reader => cases read
  | admitted destination => exact .inl (admitted serves)
  | connecting destination => exact .inl (admitted serves)
  | connected outbound => exact .inl (admitted serves.choose_spec)
  | replying outbound rest => exact .inl (admitted serves.choose_spec)
  | duplicating outbound => exact .inl (admitted serves.choose_spec)
  | linking outbound => exact .inl (admitted serves.choose_spec)
  | recording outbound => exact .inl (admitted serves.choose_spec)
  | finishing result => exact .inr ⟨serves, .inr (.inl ⟨result, rfl⟩)⟩
  | rejecting error rest => exact .inl (refused serves)
  | armingReset error => exact .inl (refused serves.1)
  | marking error => exact .inl (refused serves.1)
  | leaving result =>
    rcases serves with ⟨served, opens⟩ | ⟨error, -, told, -⟩
    · exact .inr ⟨served, .inr (.inr opens)⟩
    · exact .inl (refused told)
  | ended result =>
    rcases serves with ⟨served, opens⟩ | ⟨error, -, told, -⟩
    · exact .inr ⟨served, .inr (.inr opens)⟩
    · exact .inl (refused told)
  | _ => exact .inr ⟨serves, .inl rfl⟩

/-- A session has read the request of its client, all of it. -/
theorem Serves.request (serves : stage.Serves judge taken said m?) (read : stage.hasRead = true) :
    ∃ m, m? = some m ∧ m.wire <+: taken := by
  obtain ⟨m, asked, whole⟩ | ⟨⟨m, _, asked, opens, _⟩, -⟩ := serves.took read
  · exact ⟨m, asked, whole ▸ List.prefix_rfl⟩
  · exact ⟨m, asked, opens⟩

/-- Nothing is asked of a session that has not read anything. -/
theorem serves_of_unread (unread : stage.hasRead = false) (judge : Judge) (taken said : Bytes)
    (m? : Option Message) : stage.Serves judge taken said m? := by
  cases stage with
  | arriving => exact trivial
  | entering => exact trivial
  | announcing => exact trivial
  | reading reader => exact trivial
  | _ => cases unread

/-- A session that its client has not asked for anything has not read anything. -/
theorem Serves.of_none (serves : stage.Serves judge taken said none) (m? : Option Message) :
    stage.Serves judge taken said m? := by
  refine serves_of_unread ?_ judge taken said m?
  by_contra read
  obtain ⟨m, asked, -⟩ := serves.request (Bool.not_eq_false _ ▸ read)
  cases asked

/-! ## Before the request has been read -/

theorem hasRead_failing (error : ConverterError) : (failing error).hasRead = true := by
  rw [failing_eq]
  cases error.replyCode <;> rfl

theorem hasRead_bridging (upward downward : Copy) : (bridging upward downward).hasRead = true := by
  unfold bridging
  split <;> rfl

theorem hasRead_copied (d : Direction) (wait : Copy → Copy × Copy) (progress : CopyProgress) :
    (copied d wait progress).hasRead = true := by
  cases progress <;> rfl

variable {config : ServerConfig} {lanes lanes' : Lanes} {s s' : ConverterState} {k : Session}
  {stage' : Stage} {answer : stage.Answer}

/-- What has been read stays read. -/
theorem hasRead_resume (resumed : stage.resume s k answer = (s', stage'))
    (read : stage.hasRead = true) : stage'.hasRead = true := by
  cases stage with
  | arriving => cases read
  | entering => cases read
  | announcing => cases read
  | reading reader => cases read
  | connecting destination =>
    obtain ⟨-, ⟨outbound, rfl⟩ | ⟨error, rfl⟩⟩ := resume_connecting resumed
    · rfl
    · exact hasRead_failing _
  | connected outbound =>
    obtain ⟨-, rfl | rfl⟩ := resume_connected resumed
    · exact hasRead_failing _
    · rfl
  | replying outbound rest =>
    simp only [resume] at resumed
    split at resumed <;> cases resumed
    · rfl
    · rfl
    · exact hasRead_failing _
  | duplicating outbound => cases answer <;> cases resumed <;> rfl
  | linking outbound =>
    obtain ⟨table, -, -, rfl⟩ | ⟨error, -, rfl⟩ := resume_linking resumed <;> rfl
  | bridged =>
    obtain ⟨-, ⟨sides, rfl⟩ | rfl⟩ := resume_bridged resumed <;> rfl
  | stopping sides =>
    obtain ⟨-, ⟨sides', rfl⟩ | rfl⟩ := resume_stopping resumed <;> rfl
  | copying upward downward => cases answer <;> cases resumed <;> exact hasRead_copied ..
  | halfClosing d upward downward =>
    cases resumed
    exact hasRead_bridging ..
  | rejecting error rest =>
    simp only [resume] at resumed
    split at resumed <;> cases resumed <;> rfl
  | ended result => cases answer
  | _ => cases resumed; rfl

/-- Nobody is told to stop reading before the request has been read. -/
theorem Moves.stopped (moves : stage.Moves config lanes answer lanes')
    (unread : stage.hasRead = false) :
    (lanes' .upward).source.stopped = (lanes .upward).source.stopped := by
  cases stage with
  | arriving => exact moves ▸ rfl
  | entering => exact moves ▸ rfl
  | announcing => exact moves ▸ rfl
  | reading reader =>
    cases answer with
    | late =>
      obtain ⟨lost, rfl⟩ := moves
      rw [Lanes.withSource_self]
      rfl
    | inTime given =>
      obtain ⟨source, gives, rfl⟩ := moves
      rw [Lanes.withSource_self]
      cases reader with
      | peeking => exact gives.2 ▸ rfl
      | takingHeader => cases gives <;> rfl
      | takingRest taken count => cases gives <;> rfl
  | _ => cases unread

end Stage

namespace Exchange

namespace World

variable (x : World) (h : Handle)

/-- What the client's sockets have taken is in the connection, and more behind it once the request is
out. -/
structure Sends : Prop where
  part : ∀ m, x.request? h = some m → accepted h x.log <+: m.wire
  unasked : x.request? h = none → accepted h x.log = []
  sent : x.up.sent = accepted h x.log ∨ x.Out h ∧ accepted h x.log <+: x.up.sent
  whole : x.up.ended = true → x.Out h

/-- What a run keeps. -/
structure Sound : Prop where
  proper : ∀ cookie, x.client.engine.config.cookie = some cookie →
    1 ≤ cookie.length ∧ cookie.length ≤ 256
  server : x.server.Sound
  serves : x.server.Serves (x.request? h)
  going : x.server.session.stage.hasRead = false → x.up.stopped = false
  sends : x.Sends h
  stance : Stance h x.client x.log x.down (told h x.log)
  /-- Every caller is told the same. -/
  steady : ∀ event ∈ x.log, ∀ verdict, event.verdict? h = some verdict →
    told h x.log = some verdict

end World

variable {x x' : World} {h : Handle} {m : Message}

/-! ## What the two sides know of each other -/

namespace World

theorem request?_valid (proper : ∀ cookie, x.client.engine.config.cookie = some cookie →
    1 ≤ cookie.length ∧ cookie.length ≤ 256) (asked : x.request? h = some m) : m.Valid := by
  obtain ⟨destination, -, rfl⟩ := Option.map_eq_some_iff.1 asked
  exact ⟨by simp [Message.request], proper⟩

/-- All of the request is in the connection once it is out. -/
theorem Sends.request_isPrefix (sends : x.Sends h) (out : x.Out h) :
    ∃ m, x.request? h = some m ∧ m.wire <+: x.up.sent := by
  obtain ⟨m, asked, all⟩ := out
  refine ⟨m, asked, ?_⟩
  rcases sends.sent with sent | ⟨-, opens⟩
  · rw [sent, all]
  · rwa [all] at opens

theorem Sound.requests (sound : x.Sound h) : x.up.Requests (x.request? h) where
  valid m asked := request?_valid sound.proper asked
  carried m asked := by
    rcases sound.sends.sent with sent | ⟨⟨m', asked', out⟩, opens⟩
    · rw [sent]
      exact .inl (sound.sends.part m asked)
    · cases asked.symm.trans asked'
      rw [out] at opens
      exact .inr opens
  silent none := by
    rcases sound.sends.sent with sent | ⟨⟨m', asked', -⟩, -⟩
    · rw [sent, sound.sends.unasked none]
    · rw [none] at asked'
      cases asked'
  whole ended := sound.sends.request_isPrefix (sound.sends.whole ended)

/-- There is one message that the client is brought. -/
theorem Sound.brings (sound : x.Sound h) : ∃ reply, x.server.Replies (x.request? h) reply ∧
    reply.Brought x.down x.Closed := by
  obtain ⟨reply, replies⟩ :=
    sound.serves.replies sound.server fun m asked => request?_valid sound.proper asked
  refine ⟨reply, replies, ?_⟩
  cases replies with
  | success part undecided served whole =>
    exact ⟨.inl rfl, part, whole⟩
  | failure told named part outcome refused whole =>
    exact ⟨.inr ⟨_, rfl, named⟩, .inl part, whole⟩

/-- More may be asked for, as long as nothing is. -/
theorem request?_or {client : Engine.World} {log : List Engine.Event} {again : Option SocketAddress}
    (config : client.engine.config = x.client.engine.config)
    (asks : asked h log = (asked h x.log).or again) :
    World.request? { x with client, log } h = x.request? h ∨ x.request? h = none := by
  cases first : asked h x.log with
  | none => exact .inr (by rw [World.request?, first]; rfl)
  | some destination =>
    rw [first, Option.some_or] at asks
    exact .inl (by simp only [World.request?, first, asks, config])

/-- The client alone has moved, and has sent nothing. -/
theorem Sound.off (sound : x.Sound h) {client : Engine.World} {event : Engine.Event}
    {again : Option SocketAddress} (config : client.engine.config = x.client.engine.config)
    (asks : asked h (x.log ++ [event]) = (asked h x.log).or again)
    (taken : event.taken h = []) (untold : event.verdict? h = none)
    (stance : Stance h client (x.log ++ [event]) x.down (told h x.log)) :
    World.Sound { x with client, log := x.log ++ [event] } h := by
  have accepts : accepted h (x.log ++ [event]) = accepted h x.log := by
    rw [accepted_snoc, taken, List.append_nil]
  have same : told h (x.log ++ [event]) = told h x.log := by
    rw [told_snoc, untold, Option.or_none]
  have requests := request?_or (x := x) config asks
  have out (out : x.Out h) : World.Out { x with client, log := x.log ++ [event] } h := by
    obtain ⟨m, asked, out⟩ := out
    rcases requests with same | none
    · exact ⟨m, same.trans asked, accepts.trans out⟩
    · rw [none] at asked
      cases asked
  refine ⟨?_, sound.server, ?_, sound.going, ⟨?_, ?_, ?_, ?_⟩, ?_, ?_⟩
  · rw [config]
    exact sound.proper
  · rcases requests with same | none
    · rw [same]
      exact sound.serves
    · have serves := sound.serves
      rw [none] at serves
      exact serves.of_none _
  · intro m asked
    rw [accepts]
    rcases requests with same | none
    · exact sound.sends.part m (same.symm.trans asked)
    · rw [sound.sends.unasked none]
      exact List.nil_prefix ..
  · intro none
    rw [accepts]
    rcases requests with same | none'
    · exact sound.sends.unasked (same.symm.trans none)
    · exact sound.sends.unasked none'
  · rw [accepts]
    exact sound.sends.sent.imp_right fun sent => ⟨out sent.1, sent.2⟩
  · exact fun ended => out (sound.sends.whole ended)
  · rw [same]
    exact stance
  · intro event' mem verdict saw
    rw [same]
    rcases List.mem_append.1 mem with mem | mem
    · exact sound.steady event' mem verdict saw
    · rw [List.mem_singleton.1 mem, untold] at saw
      cases saw

theorem Sound.spared (sound : x.Sound h) {client : Engine.World} {event : Engine.Event}
    (spares : x.client.Spares h client) (taken : event.taken h = [])
    (asks : event.destination? h = none) (untold : event.verdict? h = none) :
    World.Sound { x with client, log := x.log ++ [event] } h := by
  have same : asked h (x.log ++ [event]) = (asked h x.log).or none := by rw [asked_snoc, asks]
  exact sound.off spares.config same taken untold (sound.stance.spared spares taken asks)

theorem Sound.step_off (sound : x.Sound h) {event : Engine.Event} {client : Engine.World}
    (step : Engine.Step x.client event client) (off : event.Off h) :
    World.Sound { x with client, log := x.log ++ [event] } h := by
  cases step with
  | track k => exact sound.spared (x.client.spares_track (Ne.symm off)) rfl rfl rfl
  | close k => exact sound.spared (x.client.spares_close (Ne.symm off)) rfl rfl rfl
  | @call k call e p started =>
    have confined := (started_start x.client.engine k call).confined
    rw [started] at confined
    have flying := flying_call (p := p) confined.handle x.client e (x.client.trackings k) h
    by_cases own : k = h
    · subst own
      have asks : asked k (x.log ++ [.called k (x.client.trackings k) call p]) =
          (asked k x.log).or call.destination? := by
        rw [asked_snoc, Event.destination?, if_pos rfl]
      exact sound.off confined.config asks rfl rfl (sound.stance.call sound.proper started)
    · rw [if_neg own, List.nil_append] at flying
      refine sound.spared (World.spares_of_confined confined (Ne.symm own) flying) rfl ?_ rfl
      rw [Event.destination?, if_neg own]
  | @answer before after c place answer e p resumed =>
    have confined := confined_resume x.client.engine c.op answer
    rw [resumed] at confined
    have flying := flying_answer (p := p) place confined.handle e h
    rw [if_neg off] at flying
    refine sound.spared (World.spares_of_confined confined (Ne.symm off) flying) ?_ rfl ?_
    · rw [Event.taken, if_neg off]
    · rw [Event.verdict?, if_neg off]

/-! ## What passes through the pipes -/

theorem upward_withPipes (up down : Pipe) :
    (x.withPipes up down).lanes .upward = { x.server.lanes .upward with source := up } := by
  rw [withPipes]
  dsimp only
  rw [Lanes.withTarget_ne _ (show Direction.upward ≠ .downward from nofun), Lanes.withSource_self]

theorem downward_withPipes (up down : Pipe) :
    (x.withPipes up down).lanes .downward = { x.server.lanes .downward with target := down } := by
  rw [withPipes]
  dsimp only
  rw [Lanes.withTarget_self, Lanes.withSource_ne _ (show Direction.downward ≠ .upward from nofun)]

theorem up_withPipes (client : Engine.World) (log : List Engine.Event) (up down : Pipe) :
    World.up { client, log, server := x.withPipes up down } = up := by
  rw [World.up, upward_withPipes]

theorem down_withPipes (client : Engine.World) (log : List Engine.Event) (up down : Pipe) :
    World.down { client, log, server := x.withPipes up down } = down := by
  rw [World.down, downward_withPipes]

/-- The session does not notice what its client takes, and has to do with what it is sent. -/
theorem sound_withPipes (sound : x.server.Sound) {up : Pipe}
    (grows : (x.server.lanes .upward).Grows { x.server.lanes .upward with source := up }) (n : Nat) :
    (x.withPipes up (x.down.advance n)).Sound := by
  refine ⟨sound.table, sound.stands.frame ⟨rfl, rfl, rfl, fun _ _ lists => lists, fun d => ?_⟩⟩
  cases d with
  | upward =>
    rw [upward_withPipes]
    exact grows
  | downward =>
    rw [downward_withPipes]
    exact .draw _ n

theorem serves_withPipes {m? : Option Message} (serves : x.server.Serves m?) {up : Pipe}
    (taken : up.taken = x.up.taken) (n : Nat) :
    (x.withPipes up (x.down.advance n)).Serves m? := by
  rw [Session.World.Serves, upward_withPipes, downward_withPipes]
  simp only [taken, Pipe.sent_advance]
  exact serves

/-- What a socket takes is what comes next of the message that the converter is to be sent. -/
theorem Sound.takes (sound : x.Sound h) {c : Caller} (mem : c ∈ x.client.flying h)
    (answer : c.op.Answer) : c.op.taken answer = [] ∨
      ∃ m, x.request? h = some m ∧ accepted h x.log ++ c.op.taken answer <+: m.wire := by
  rcases sound.stance.takes mem answer with none | ⟨destination, request, asked, written, part⟩
  · exact .inl none
  · rw [request_of_proper sound.proper] at written
    cases written
    exact .inr ⟨_, by rw [World.request?, asked]; rfl, part⟩

/-- The client's socket has taken `bytes` of the request and `n` bytes of the answer. -/
theorem Sound.moved (sound : x.Sound h) {client : Engine.World} {log : List Engine.Event}
    {bytes : Bytes} {n : Nat} (config : client.engine.config = x.client.engine.config)
    (asks : asked h log = asked h x.log) (accepts : accepted h log = accepted h x.log ++ bytes)
    (next : bytes = [] ∨ ∃ m, x.request? h = some m ∧ accepted h x.log ++ bytes <+: m.wire)
    (stance : Stance h client log (x.down.advance n) (told h log))
    (steady : ∀ event ∈ log, ∀ verdict, event.verdict? h = some verdict →
      told h log = some verdict) :
    World.Sound { client, log, server := x.withPipes (x.up.put bytes) (x.down.advance n) } h := by
  have requests : World.request?
      { client, log, server := x.withPipes (x.up.put bytes) (x.down.advance n) } h =
      x.request? h := by
    simp only [World.request?, asks, config]
  -- of a request that is out nothing is left to be taken
  have none (out : x.Out h) : bytes = [] := by
    rcases next with none | ⟨m, asked, part⟩
    · exact none
    · obtain ⟨m', asked', all⟩ := out
      cases asked.symm.trans asked'
      have := part.length_le
      rw [← all, List.length_append] at this
      exact List.length_eq_zero_iff.1 (by omega)
  have out (out : x.Out h) : World.Out
      { client, log, server := x.withPipes (x.up.put bytes) (x.down.advance n) } h := by
    obtain ⟨m, asked, all⟩ := id out
    refine ⟨m, requests.trans asked, ?_⟩
    dsimp only
    rw [accepts, none out, List.append_nil, all]
  have grows : (x.server.lanes .upward).Grows
      { x.server.lanes .upward with source := x.up.put bytes } := by
    cases ended : x.up.ended with
    | true =>
      rw [none (sound.sends.whole ended), Pipe.put_nil]
      exact .refl _
    | false => exact .put ended bytes
  refine ⟨?_, sound_withPipes sound.server grows n, ?_, ?_, ⟨?_, ?_, ?_, ?_⟩, ?_, steady⟩
  · rw [config]
    exact sound.proper
  · rw [requests]
    exact serves_withPipes sound.serves rfl n
  · rw [up_withPipes]
    exact sound.going
  · intro m asked
    rw [requests] at asked
    dsimp only
    rw [accepts]
    rcases next with rfl | ⟨m', asked', part⟩
    · rw [List.append_nil]
      exact sound.sends.part m asked
    · cases asked.symm.trans asked'
      exact part
  · intro unasked
    rw [requests] at unasked
    dsimp only
    rw [accepts, sound.sends.unasked unasked]
    rcases next with rfl | ⟨m', asked', part⟩
    · rfl
    · rw [unasked] at asked'
      cases asked'
  · rw [up_withPipes, Pipe.sent_put]
    dsimp only
    rw [accepts]
    rcases sound.sends.sent with sent | ⟨out', opens⟩
    · exact .inl (by rw [sent])
    · rw [none out', List.append_nil, List.append_nil]
      exact .inr ⟨out out', opens⟩
  · rw [up_withPipes]
    exact fun ended => out (sound.sends.whole ended)
  · rw [down_withPipes]
    exact stance

theorem Sound.step_answer (sound : x.Sound h) {c : Caller} {answer : c.op.Answer} {p : Progress}
    {client : Engine.World} {up down : Pipe}
    (step : Engine.Step x.client (.answered c answer p) client) (own : c.handle = h)
    (heard : c.op.Heard x.up x.down x.Closed answer up down) :
    World.Sound
      { client, log := x.log ++ [.answered c answer p], server := x.withPipes up down } h := by
  obtain ⟨reply, -, brought⟩ := sound.brings
  obtain ⟨n, rfl⟩ := heard.draws
  obtain rfl := heard.sends
  cases step with
  | @answer before after c place answer e p resumed =>
    have confined := confined_resume x.client.engine c.op answer
    rw [resumed] at confined
    have mem : c ∈ x.client.flying h := by
      rw [Engine.World.flying, List.mem_filter, place]
      exact ⟨by simp, by simpa using own⟩
    obtain ⟨stance, agrees⟩ := sound.stance.answer place own heard brought resumed
    have verdict : (Engine.Event.answered c answer p).verdict? h = p.verdict? := if_pos own
    have tells : told h (x.log ++ [.answered c answer p]) = (told h x.log).or p.verdict? := by
      rw [told_snoc, verdict]
    refine sound.moved confined.config ?_ ?_ (sound.takes mem answer) ?_ ?_
    · rw [asked_snoc]
      exact Option.or_none
    · rw [accepted_snoc, Engine.Event.taken, if_pos own]
    · rw [tells]
      exact stance
    · intro event mem' r saw
      rw [tells]
      rcases List.mem_append.1 mem' with mem' | mem'
      · rw [sound.steady event mem' r saw, Option.some_or]
      · rw [List.mem_singleton.1 mem', verdict] at saw
        rcases agrees with none | same
        · rw [none, Option.none_or, saw]
        · rw [← same, saw, Option.some_or]

/-- The application sends behind the request, or ends its stream there. -/
theorem Sound.followed (sound : x.Sound h) (out : x.Out h) {up : Pipe}
    (grows : (x.server.lanes .upward).Grows { x.server.lanes .upward with source := up })
    (taken : up.taken = x.up.taken) (stopped : up.stopped = x.up.stopped) :
    World.Sound { x with server := x.withPipes up x.down } h := by
  have same : x.down = x.down.advance 0 := x.down.advance_zero.symm
  have sent : accepted h x.log <+: x.up.sent := by
    rcases sound.sends.sent with sent | ⟨-, opens⟩
    · rw [sent]
    · exact opens
  rw [same]
  refine ⟨sound.proper, sound_withPipes sound.server grows 0, serves_withPipes sound.serves taken 0,
    ?_, ⟨sound.sends.part, sound.sends.unasked, .inr ⟨out, ?_⟩, fun _ => out⟩, ?_, sound.steady⟩
  · rw [up_withPipes]
    exact fun unread => stopped.trans (sound.going unread)
  · rw [up_withPipes]
    exact sent.trans grows.source
  · rw [down_withPipes, x.down.advance_zero]
    exact sound.stance

/-! ## What the converter does -/

/-- The session alone has moved. -/
theorem Sound.worked (sound : x.Sound h) {server : Session.World} (stands : server.Sound)
    (serves : server.Serves (x.request? h))
    (going : server.session.stage.hasRead = false → (server.lanes .upward).source.stopped = false)
    (drains : x.up.Drains (server.lanes .upward).source)
    (fills : x.down.Fills (server.lanes .downward).target) :
    World.Sound { x with server } h := by
  refine ⟨sound.proper, stands, serves, going,
    ⟨sound.sends.part, sound.sends.unasked, ?_, fun ended => ?_⟩, ?_, sound.steady⟩
  · show (server.lanes .upward).source.sent = _ ∨ _ ∧ _ <+: (server.lanes .upward).source.sent
    rw [drains.sent]
    exact sound.sends.sent
  · exact sound.sends.whole (drains.ended.symm.trans ended)
  · exact sound.stance.frame rfl (fun untracked => untracked) (fun _ alone => alone) rfl rfl rfl
      fills.taken fills.sent

theorem Sound.step_serve (sound : x.Sound h) {answer : x.server.session.stage.Answer}
    {server : Session.World}
    (step : Session.Step x.server (.advanced x.server.session.stage answer) server)
    (smooth : x.server.session.stage.Smooth answer)
    (newly : x.server.session.stage = .entering →
      x.server.shared.table.contains x.server.session.handle = false) :
    World.Sound { x with server } h := by
  have stands := sound.server.step step
  cases step with
  | advance answer moves resumed =>
    refine sound.worked stands ?_ ?_ (moves.moved .upward).source (moves.moved .downward).target
    · exact sound.serves.advance sound.server sound.requests sound.going moves resumed smooth newly
    · intro unread'
      have unread : x.server.session.stage.hasRead = false := by
        by_contra read
        have := Stage.hasRead_resume resumed (Bool.not_eq_false _ ▸ read)
        rw [unread'] at this
        cases this
      exact (moves.stopped unread).trans (sound.going unread)

/-- Nothing has been taken of the request, and nothing has been told to the client. -/
theorem Sound.beside (sound : x.Sound h) {lanes : Lanes}
    (stands : Session.World.Sound { x.server with lanes })
    (drains : x.up.Drains (lanes .upward).source) (taken : (lanes .upward).source.taken = x.up.taken)
    (given : (lanes .downward).target = x.down)
    (going : x.server.session.stage.hasRead = false → (lanes .upward).source.stopped = x.up.stopped) :
    World.Sound { x with server := { x.server with lanes } } h := by
  refine sound.worked stands ?_ (fun unread => (going unread).trans (sound.going unread)) drains ?_
  · show Stage.Serves _ (lanes .upward).source.taken (lanes .downward).target.sent _ _
    rw [taken, given]
    exact sound.serves
  · show x.down.Fills (lanes .downward).target
    rw [given]
    exact .refl _

theorem Sound.step_aside (sound : x.Sound h) {event : Session.Event} {server : Session.World}
    (step : Session.Step x.server event server) (aside : event.Aside x.server.session.stage) :
    World.Sound { x with server } h := by
  have stands := sound.server.step step
  have ne : Direction.upward ≠ .downward := nofun
  have destination {source : Pipe} (stands : Session.World.Sound
      { x.server with lanes := x.server.lanes.withSource .downward source }) :
      World.Sound
        { x with
          server := { x.server with lanes := x.server.lanes.withSource .downward source } } h := by
    have upward := x.server.lanes.withSource_ne ne source
    refine sound.beside stands ?_ ?_ ?_ fun _ => ?_
    · rw [upward]
      exact .refl _
    · rw [upward]
      rfl
    · rw [Lanes.withSource_self]
      rfl
    · rw [upward]
      rfl
  cases step with
  | advance answer moves resumed => exact absurd aside id
  | arrive d bytes going =>
    cases d with
    | upward => exact absurd aside id
    | downward => exact destination stands
  | finish d =>
    cases d with
    | upward => exact absurd aside id
    | downward => exact destination stands
  | stop d =>
    cases d with
    | upward =>
      have read : x.server.session.stage.hasRead = true := aside
      refine sound.beside stands ?_ ?_ ?_ fun unread => ?_
      · rw [Lanes.withSource_self]
        exact .stop _
      · rw [Lanes.withSource_self]
        rfl
      · rw [Lanes.withSource_ne _ ne.symm]
        rfl
      · rw [read] at unread
        cases unread
    | downward => exact destination stands
  | draw d count =>
    cases d with
    | upward =>
      refine sound.beside stands ?_ ?_ ?_ fun _ => ?_
      · rw [Lanes.withTarget_self]
        exact .refl _
      · rw [Lanes.withTarget_self]
        rfl
      · rw [Lanes.withTarget_ne _ ne.symm]
        rfl
      · rw [Lanes.withTarget_self]
        rfl
    | downward => exact absurd aside id
  | disturb draining elsewhere =>
    exact sound.worked stands sound.serves sound.going (.refl _) (.refl _)

/-! ## Runs -/

/-- **A step of either side keeps both sides in order.** -/
theorem Sound.step (sound : x.Sound h) (step : Step h x x') : x'.Sound h := by
  cases step with
  | off step off => exact sound.step_off step off
  | answer step own heard => exact sound.step_answer step own heard
  | serve step smooth newly => exact sound.step_serve step smooth newly
  | aside step aside => exact sound.step_aside step aside
  | follow bytes out going => exact sound.followed out (.put going bytes) rfl rfl
  | finish out => exact sound.followed out (.close _) rfl rfl

/-- Both sides are in order when a redirect begins. -/
theorem Fresh.sound (fresh : x.Fresh h) : (x.begin h).Sound h := by
  obtain ⟨table, inserted⟩ := Registry.insert_of_untracked fresh.untracked
    { cookie := x.client.engine.config.cookie : RedirectState }
  have track := track_of_insert inserted
  have unread : x.server.session.stage.hasRead = false := by
    rw [fresh.server.arriving]
    rfl
  have unsent : x.up.sent = [] := by
    rw [fresh.unsent]
    rfl
  have unasked : (x.begin h).request? h = none := rfl
  have sends : (x.begin h).Sends h := by
    refine ⟨fun m asked => ?_, fun _ => rfl, .inl unsent, fun ended => ?_⟩
    · rw [unasked] at asked
      cases asked
    · change x.up.ended = true at ended
      rw [fresh.unsent] at ended
      cases ended
  refine ⟨?_, Session.Run.start.sound fresh.server, Stage.serves_of_unread unread .., fun _ => ?_,
    sends, ?_, fun event mem => nomatch mem⟩
  · show ∀ cookie, (x.client.track h).engine.config.cookie = some cookie → _
    rw [track]
    exact fresh.cookie
  · show x.up.stopped = false
    rw [fresh.unsent]
  · show Stance h (x.client.track h) [] x.down none
    rw [track]
    refine .of_idle fresh.quiet (Registry.alone_of_insert inserted) (.created rfl rfl) nofun ?_
    show (x.server.lanes .downward).target.taken = []
    rw [fresh.server.silent .downward]

end World

theorem Run.keeps (run : Run h x x') (sound : x.Sound h) : x'.Sound h := by
  induction run with
  | start => exact sound
  | step run step ih => exact ih.step step

/-- **Both sides are in order at every moment of a redirect.** -/
theorem Run.sound (run : Run h (x.begin h) x') (fresh : x.Fresh h) : x'.Sound h :=
  run.keeps fresh.sound

end Exchange

end TransportConverter
