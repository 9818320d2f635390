import TransportConverter.Proofs.Converter.Advance
import TransportConverter.Proofs.Converter.Moving
import TransportConverter.Proofs.Exchange.Run
import TransportConverter.Proofs.Registry.Frame
/-!
# How a converter answers a request

A session of a client that sends one message, and application bytes behind it, over a connection that
does not fail. It reads that message and no more of it (`RequestReader.Fits.smooth`), and whatever it
does then goes back to what admission makes of it: it grants the request and reports success, or has a
reason to refuse it that has a code, and reports that (`Stage.Serves`). So the client is sent one message
that tells what came of its request, whole before the converter is done (`Session.World.Replies`).
-/
namespace TransportConverter

open Session

/-- What a pipe holds of a client that sends `m?`, if it has decided what to send: a part of the message,
or all of it with something behind it. -/
structure Pipe.Requests (p : Pipe) (m? : Option Message) : Prop where
  valid : ∀ m, m? = some m → m.Valid
  carried : ∀ m, m? = some m → m.Carried p.sent
  silent : m? = none → p.sent = []
  whole : p.ended = true → ∃ m, m? = some m ∧ m.wire <+: p.sent

namespace Pipe.Requests

variable {p : Pipe} {m? : Option Message} {bytes : Bytes}

/-- A header belongs to the message. -/
theorem header (requests : p.Requests m?) (part : bytes <+: p.sent)
    (long : headerLength ≤ bytes.length) : ∃ m decoded, m? = some m ∧ m.Carried bytes ∧
      Header.decode bytes = .ok decoded ∧ decoded.messageLength = m.wire.length := by
  cases m? with
  | none =>
    rw [requests.silent rfl, List.prefix_nil] at part
    subst part
    cases long
  | some m =>
    have carried := (requests.carried m rfl).isPrefix part
    obtain ⟨decoded, opens, length⟩ := carried.header (requests.valid m rfl) long
    exact ⟨m, decoded, rfl, carried, opens, length⟩

/-- There is always more to come, or something there. -/
theorem not_exhausted (requests : p.Requests m?) (going : p.stopped = false) (none : p.taken = []) :
    ¬ p.Exhausted := by
  rintro (stopped | ⟨empty, ended⟩)
  · rw [going] at stopped
    cases stopped
  · obtain ⟨m, -, whole⟩ := requests.whole ended
    rw [sent, none, empty, List.append_nil, List.prefix_nil] at whole
    cases whole

end Pipe.Requests

/-- **A reader takes the message, in whatever pieces it comes**, and is never given an error. -/
theorem RequestReader.Fits.smooth {reader : RequestReader} {source source' : Pipe}
    {m? : Option Message} (fits : reader.Fits source.taken source.sent)
    (requests : source.Requests m?) (going : source.stopped = false) {bytes : Bytes}
    (gives : reader.call.Gives source (.ok bytes) source') :
    (∃ reader', reader.resume (.ok bytes) = .waiting reader') ∨
    ∃ m, m? = some m ∧ reader.resume (.ok bytes) = .done (.ok m.wire) ∧ source'.taken = m.wire := by
  obtain ⟨sent, -, whole⟩ := fits.resume gives
  cases reader with
  | peeking =>
    obtain ⟨peeks, rfl⟩ := gives
    have none : source'.taken = [] := fits
    cases peeks with
    | eof exhausted => exact absurd exhausted (requests.not_exhausted going none)
    | piece count some fits' there =>
      have ne : (source'.held.take count).isEmpty = false := by
        rw [List.isEmpty_eq_false_iff, ← List.length_pos_iff, List.length_take]
        omega
      simp only [RequestReader.resume, ne, Bool.false_eq_true, if_false]
      split
      · exact .inl ⟨_, rfl⟩
      · rename_i long
        have part : source'.held.take count <+: source'.sent := by
          rw [Pipe.sent, none, List.nil_append]
          exact List.take_prefix ..
        obtain ⟨m, decoded, -, -, opens, -⟩ := requests.header part (Nat.le_of_not_lt long)
        rw [RequestReader.expect, opens]
        exact .inl ⟨_, rfl⟩
  | takingHeader =>
    have none : source.taken = [] := fits
    cases gives with
    | whole there =>
      have part : source.held.take headerLength <+: source.sent := by
        rw [Pipe.sent, none, List.nil_append]
        exact List.take_prefix ..
      obtain ⟨m, decoded, -, -, opens, -⟩ :=
        requests.header part (Nat.le_of_eq (List.length_take_of_le there).symm)
      rw [RequestReader.resume, RequestReader.expect, opens]
      exact .inl ⟨_, rfl⟩
  | takingRest taken count =>
    obtain ⟨took, header, opens, length⟩ := whole _ rfl
    -- the bytes taken begin with the header of the message, and so they are as long as the message
    have part : taken ++ bytes <+: source.sent := by
      rw [← took, ← sent]
      exact source'.taken_isPrefix
    have long : headerLength ≤ (taken ++ bytes).length := by
      rw [← length]
      exact header.headerLength_le_messageLength
    obtain ⟨m, header', asked, carried, opens', length'⟩ := requests.header part long
    cases opens.symm.trans opens'
    have eq := carried.eq_wire (length.symm.trans length')
    exact .inr ⟨m, asked, by rw [RequestReader.resume, eq], by rw [took, eq]⟩

/-! ## What admission makes of a request -/

theorem ServerConfig.grant_error {config : ServerConfig} {m : Message} {code : ErrorCode}
    (refused : config.grant m = .error code) : code.registered = code := by
  unfold ServerConfig.grant at refused
  split at refused
  · cases refused
    rfl
  · split at refused
    · rename_i objection
      cases refused
      unfold ServerConfig.cookieObjection at objection
      split at objection <;> split at objection <;> cases objection <;> rfl
    · split at refused <;> cases refused
      rfl

theorem ServerConfig.grant_ok {config : ServerConfig} {m : Message} {destination : SocketAddress}
    (granted : config.grant m = .ok destination) : m.connect = some destination := by
  unfold ServerConfig.grant at granted
  split at granted
  · cases granted
  · rename_i there
    split at granted
    · cases granted
    · split at granted <;> cases granted
      exact there

/-- A message that was written is judged by what it says. -/
theorem ServerConfig.judge_wire (config : ServerConfig) (permitted : Bool) {m : Message}
    (valid : m.Valid) : config.judge permitted m.wire =
      if permitted then (config.grant m.normal).mapError .rejected
      else .error (.rejected .resourceExceeded) := by
  rw [ServerConfig.judge, Message.decode_wire valid]

theorem connectErrorCode_registered (error : IoError) :
    (connectErrorCode error).registered = connectErrorCode error := by
  unfold connectErrorCode
  split
  · rfl
  · rfl
  · split <;> rfl

/-- How a converter judges the bytes of a request. -/
abbrev Judge := Bytes → Except ConverterError SocketAddress

/-- Why a request is refused: admission has something against it, or it was granted and the destination
cannot be connected to, or is connected to when the converter is shutting down. -/
inductive Message.RefusedFor (judge : Judge) (m : Message) : ConverterError → Prop
  | judged {error : ConverterError} (judged : judge m.wire = .error error) : RefusedFor judge m error
  | unconnected {destination : SocketAddress} (granted : judge m.wire = .ok destination)
      (error : IoError) : RefusedFor judge m (.bridgeConnect destination error)
  | draining {destination : SocketAddress} (granted : judge m.wire = .ok destination) :
      RefusedFor judge m .shuttingDown

/-- The client can be told why, by a code that has a name. -/
theorem Message.RefusedFor.code {config : ServerConfig} {permitted : Bool} {m : Message}
    {error : ConverterError} (refused : m.RefusedFor (config.judge permitted) error)
    (valid : m.Valid) : ∃ code, error.replyCode = some code ∧ code.registered = code := by
  cases refused with
  | judged judged =>
    rw [config.judge_wire permitted valid] at judged
    split at judged
    · cases granted : config.grant m.normal with
      | ok destination =>
        rw [granted] at judged
        cases judged
      | error code =>
        rw [granted] at judged
        cases judged
        exact ⟨code, rfl, config.grant_error granted⟩
    · cases judged
      exact ⟨_, rfl, rfl⟩
  | unconnected granted error => exact ⟨_, rfl, connectErrorCode_registered error⟩
  | draining granted => exact ⟨_, rfl, rfl⟩

theorem Message.RefusedFor.named {config : ServerConfig} {permitted : Bool} {m : Message}
    {error : ConverterError} {code : ErrorCode}
    (refused : m.RefusedFor (config.judge permitted) error) (valid : m.Valid)
    (told : error.replyCode = some code) : code.registered = code := by
  obtain ⟨code', told', named⟩ := refused.code valid
  cases told.symm.trans told'
  exact named

/-! ## What a session has made of it -/

namespace Message

variable (judge : Judge) (taken said : Bytes) (m? : Option Message)

/-- The message was taken and nothing else, and was granted. -/
def Admitted (destination : SocketAddress) : Prop :=
  ∃ m, m? = some m ∧ taken = m.wire ∧ judge m.wire = .ok destination

/-- The message was taken, perhaps with something behind it, and was granted. -/
def Served : Prop :=
  ∃ m destination, m? = some m ∧ m.wire <+: taken ∧ judge m.wire = .ok destination

/-- The message was taken and nothing else, and was refused. -/
def Refused (error : ConverterError) : Prop :=
  ∃ m, m? = some m ∧ taken = m.wire ∧ m.RefusedFor judge error

/-- It was refused and the client was told. -/
def Told (error : ConverterError) : Prop :=
  Refused judge taken m? error ∧ ∃ code, error.replyCode = some code ∧ said = (failure code).wire

end Message

open Message

/-- What a session at a stage has made of the message of its client. -/
def Stage.Serves (judge : Judge) (taken said : Bytes) (m? : Option Message) : Stage → Prop
  | arriving | entering | announcing | reading _ => True
  | admitted destination | connecting destination => Admitted judge taken m? destination
  | connected _ | replying .. | duplicating _ | linking _ | recording _ =>
    ∃ destination, Admitted judge taken m? destination
  | bridged | stopping _ | copying .. | counting .. | ending .. | halfClosing .. | finishing _ =>
    Served judge taken m?
  | rejecting error _ => Refused judge taken m? error
  | armingReset error | marking error => Told judge taken said m? error
  | leaving result | ended result =>
    Served judge taken m? ∧ Message.empty.wire <+: said ∨
    ∃ error, result = .error error ∧ Told judge taken said m? error

/-! ## From stage to stage -/

namespace Session

/-- What a session has made of the message of its client. -/
def World.Serves (w : World) (m? : Option Message) : Prop :=
  w.session.stage.Serves (w.shared.config.judge w.session.permitted)
    (w.lanes .upward).source.taken (w.lanes .downward).target.sent m?

variable {w w' : World} {m? : Option Message} {judge : Judge} {taken taken' said : Bytes}

theorem Served.grows (served : Served judge taken m?) (grows : taken <+: taken') :
    Served judge taken' m? := by
  obtain ⟨m, destination, asked, opens, granted⟩ := served
  exact ⟨m, destination, asked, opens.trans grows, granted⟩

theorem Admitted.served {destination : SocketAddress}
    (admitted : Admitted judge taken m? destination) : Served judge taken m? := by
  obtain ⟨m, asked, rfl, granted⟩ := admitted
  exact ⟨m, destination, asked, List.prefix_rfl, granted⟩

/-- A request that is refused is refused with a code. -/
theorem serves_failing {config : ServerConfig} {permitted : Bool} {error : ConverterError}
    (refused : Refused (config.judge permitted) taken m? error)
    (valid : ∀ m, m? = some m → m.Valid) :
    (Stage.failing error).Serves (config.judge permitted) taken said m? := by
  obtain ⟨m, asked, whole, reason⟩ := refused
  obtain ⟨code, told, -⟩ := reason.code (valid m asked)
  rw [Stage.failing_eq, told]
  exact ⟨m, asked, whole, reason⟩

theorem serves_judged {config : ServerConfig} {permitted : Bool} {m : Message}
    (asked : m? = some m) (valid : ∀ m, m? = some m → m.Valid) :
    (Stage.judged config permitted m.wire).Serves (config.judge permitted) m.wire said m? := by
  unfold Stage.judged
  split
  · exact ⟨m, asked, rfl, ‹_›⟩
  · exact serves_failing ⟨m, asked, rfl, .judged ‹_›⟩ valid

theorem serves_copied (served : Served judge taken m?) (d : Direction) (wait : Copy → Copy × Copy)
    (progress : CopyProgress) : (Stage.copied d wait progress).Serves judge taken said m? := by
  cases progress <;> exact served

/-- What a target takes of a reply. -/
theorem unwritten_of_pos {rest : Bytes} {count : Nat} (positive : 0 < count) :
    unwritten rest (.ok count) = .ok (rest.drop count) := by
  rw [unwritten, if_neg (Nat.ne_of_gt positive)]

/-- **A session stays true to what it has made of the message**, as long as the connection of its client
does not fail. -/
theorem World.Serves.advance (serves : w.Serves m?) (sound : w.Sound)
    (requests : (w.lanes .upward).source.Requests m?)
    (going : w.session.stage.hasRead = false → (w.lanes .upward).source.stopped = false)
    {answer : w.session.stage.Answer} {shared : ConverterState} {stage : Stage} {lanes : Lanes}
    (moves : w.session.stage.Moves w.shared.config w.lanes answer lanes)
    (resumed : w.session.stage.resume w.shared w.session answer = (shared, stage))
    (smooth : w.session.stage.Smooth answer)
    (newly : w.session.stage = .entering → w.shared.table.contains w.session.handle = false) :
    World.Serves { shared, lanes, session := { w.session with stage } } m? := by
  obtain ⟨shared₀, ⟨n, handle, address, permitted, stage₀⟩, lanes₀⟩ := w
  have stands := sound.stands
  have grows := (moves.moved .upward).source.taken
  simp only [World.Serves] at serves stands requests going moves resumed smooth newly grows ⊢
  rw [Stage.config_resume resumed]
  have apart : Direction.upward ≠ .downward := by decide
  cases stage₀ with
  | arriving =>
    obtain rfl : answer = .ok () := smooth
    cases resumed
    exact trivial
  | entering =>
    obtain ⟨table, inserted⟩ := Registry.insert_of_untracked (newly rfl)
      (Session.firstState ⟨n, handle, address, permitted, .entering⟩)
    simp only [Stage.resume, inserted] at resumed
    cases resumed
    exact trivial
  | announcing =>
    cases resumed
    exact trivial
  | reading reader =>
    obtain ⟨-, taken, begins, fits⟩ := stands
    obtain rfl : (lanes₀ .upward).source.taken = taken := begins.1.taken
    cases answer with
    | late => cases smooth
    | inTime given =>
      cases given with
      | error error => cases smooth
      | ok bytes =>
        obtain ⟨source, gives, rfl⟩ := moves
        cases resumed
        rcases fits.smooth requests (going rfl) gives with ⟨reader', goes⟩ | ⟨m, asked, goes, took⟩
        · rw [goes]
          exact trivial
        · rw [goes, Lanes.withSource_self]
          dsimp only
          rw [took]
          exact serves_judged asked requests.valid
  | admitted destination =>
    obtain rfl : lanes = lanes₀ := moves
    cases resumed
    exact serves
  | connecting destination =>
    obtain ⟨m, asked, whole, granted⟩ := serves
    obtain rfl : lanes = lanes₀ := moves
    obtain ⟨rfl, ⟨outbound, rfl⟩ | ⟨error, rfl⟩⟩ := Stage.resume_connecting resumed
    · exact ⟨destination, m, asked, whole, granted⟩
    · exact serves_failing ⟨m, asked, whole, .unconnected granted error⟩ requests.valid
  | connected outbound =>
    obtain rfl : lanes = lanes₀ := moves
    obtain ⟨rfl, rfl | rfl⟩ := Stage.resume_connected resumed
    · obtain ⟨destination, m, asked, whole, granted⟩ := serves
      exact serves_failing ⟨m, asked, whole, .draining granted⟩ requests.valid
    · exact serves
  | replying outbound rest =>
    cases answer with
    | error error => cases smooth
    | ok count =>
      have positive : 0 < count := smooth
      obtain ⟨target, writes, rfl⟩ := moves
      simp only [Stage.resume, unwritten_of_pos positive] at resumed
      rw [Lanes.withTarget_ne _ apart]
      cases left : rest.drop count with
      | nil =>
        rw [left] at resumed
        cases resumed
        exact serves
      | cons byte left' =>
        rw [left] at resumed
        cases resumed
        exact serves
  | duplicating outbound =>
    obtain rfl : lanes = lanes₀ := moves
    cases answer with
    | ok u =>
      cases resumed
      exact serves
    | error error =>
      cases resumed
      obtain ⟨destination, admitted⟩ := serves
      obtain ⟨-, request, begins, -⟩ := stands
      exact .inl ⟨Admitted.served admitted, begins.2.sent ▸ List.prefix_rfl⟩
  | linking outbound =>
    obtain rfl : lanes = lanes₀ := moves
    obtain ⟨table, -, rfl, rfl⟩ | ⟨error, rfl, rfl⟩ := Stage.resume_linking resumed
    · exact serves
    · obtain ⟨destination, admitted⟩ := serves
      obtain ⟨-, request, begins, -⟩ := stands
      exact .inl ⟨Admitted.served admitted, begins.2.sent ▸ List.prefix_rfl⟩
  | recording outbound =>
    obtain rfl : lanes = lanes₀ := moves
    cases resumed
    obtain ⟨destination, admitted⟩ := serves
    exact Admitted.served admitted
  | bridged =>
    obtain ⟨rfl, ⟨sides, rfl⟩ | rfl⟩ := Stage.resume_bridged resumed
    · exact Served.grows serves grows
    · exact Served.grows serves grows
  | stopping sides =>
    obtain ⟨rfl, ⟨sides', rfl⟩ | rfl⟩ := Stage.resume_stopping resumed
    · exact Served.grows serves grows
    · exact Served.grows serves grows
  | copying upward downward =>
    cases answer with
    | inl answer =>
      cases resumed
      exact serves_copied (Served.grows serves grows) ..
    | inr answer =>
      cases resumed
      exact serves_copied (Served.grows serves grows) ..
  | counting d count upward downward =>
    cases resumed
    exact Served.grows serves grows
  | ending d upward downward =>
    cases resumed
    exact Served.grows serves grows
  | halfClosing d upward downward =>
    cases resumed
    unfold Stage.bridging
    split
    · exact Served.grows serves grows
    · exact Served.grows serves grows
  | finishing result =>
    obtain rfl : lanes = lanes₀ := moves
    cases resumed
    obtain ⟨position, ⟨request, outbound, s, bridge, ⟨-, carries⟩, -⟩, -⟩ := stands
    obtain ⟨⟨moved, -, sent, -⟩, -, -⟩ := carries .downward
    exact .inl ⟨serves, sent ▸ List.prefix_append ..⟩
  | rejecting error rest =>
    obtain ⟨-, taken, said, code, begins, told, whole⟩ := stands
    cases answer with
    | error error => cases smooth
    | ok count =>
      have positive : 0 < count := smooth
      obtain ⟨target, writes, rfl⟩ := moves
      simp only [Stage.resume, unwritten_of_pos positive] at resumed
      rw [Lanes.withTarget_ne _ apart, Lanes.withTarget_self]
      dsimp only
      cases writes with
      | takes count fits =>
        rw [Pipe.sent_put, begins.2.sent]
        cases left : rest.drop count with
        | nil =>
          rw [left] at resumed
          cases resumed
          rw [← List.take_append_drop count rest, left, List.append_nil] at whole
          exact ⟨serves, code, told, whole⟩
        | cons byte left' =>
          rw [left] at resumed
          cases resumed
          exact serves
  | armingReset error =>
    obtain rfl : lanes = lanes₀ := moves
    cases resumed
    exact serves
  | marking error =>
    obtain rfl : lanes = lanes₀ := moves
    cases resumed
    exact .inr ⟨error, rfl, serves⟩
  | leaving result =>
    obtain rfl : lanes = lanes₀ := moves
    cases resumed
    exact serves
  | ended result => cases answer

/-! ## What the client is told -/

/-- The client will be sent no more. -/
def World.Silent (w : World) : Prop :=
  (w.lanes .downward).target.ended = true ∨ ∃ result, w.session.stage = .ended result

/-- The message that tells the client what came of its request, as far as it has been sent. All of it is
sent before the client is sent no more. -/
inductive World.Replies (w : World) (m? : Option Message) : Message → Prop
  /-- Success was reported, or nothing has been decided. -/
  | success (part : Message.empty.Carried (w.lanes .downward).target.sent)
      (undecided : ¬ Message.empty.wire <+: (w.lanes .downward).target.sent → w.outcome? = none)
      (served : Message.empty.wire <+: (w.lanes .downward).target.sent →
        Served (w.shared.config.judge w.session.permitted) (w.lanes .upward).source.taken m?)
      (whole : w.Silent → Message.empty.wire <+: (w.lanes .downward).target.sent) :
      Replies w m? .empty
  | failure {error : ConverterError} {code : ErrorCode} (told : error.replyCode = some code)
      (named : code.registered = code)
      (part : (w.lanes .downward).target.sent <+: (Message.failure code).wire)
      (outcome : w.outcome? = some (.error error))
      (refused : Refused (w.shared.config.judge w.session.permitted)
        (w.lanes .upward).source.taken m? error)
      (whole : w.Silent → (Message.failure code).wire <+: (w.lanes .downward).target.sent) :
      Replies w m? (.failure code)

/-- A success and a failure can be told apart by their second byte. -/
theorem not_isPrefix_failure {sent : Bytes} {code : ErrorCode}
    (part : sent <+: (Message.failure code).wire) : ¬ Message.empty.wire <+: sent := by
  intro success
  have both := success.trans part
  obtain ⟨rest, eq⟩ := Message.wire_failure code
  rw [eq, Message.wire_empty] at both
  simp [List.cons_prefix_cons] at both

theorem World.outcome?_of_success (opens : Message.empty.wire <+: (w.lanes .downward).target.sent) :
    w.outcome? = some (.ok ()) := by
  rw [World.outcome?, if_pos opens]

theorem replies_of_success
    (served : Served (w.shared.config.judge w.session.permitted) (w.lanes .upward).source.taken m?)
    (opens : Message.empty.wire <+: (w.lanes .downward).target.sent) :
    ∃ reply, w.Replies m? reply :=
  ⟨_, .success (.inr opens) (fun unsaid => absurd opens unsaid) (fun _ => served) fun _ => opens⟩

/-- As long as nothing is decided, no more than a success has been begun. -/
theorem replies_of_undecided {opening said rest : Bytes} (begins : w.Begins opening said)
    (split : said ++ rest = Message.empty.wire)
    (undecided : ¬ Message.empty.wire <+: (w.lanes .downward).target.sent → w.outcome? = none)
    (going : ∀ result, w.session.stage ≠ .ended result)
    (served : said ≠ [] →
      Served (w.shared.config.judge w.session.permitted) (w.lanes .upward).source.taken m?) :
    ∃ reply, w.Replies m? reply := by
  refine ⟨_, .success ?_ undecided (fun opens => served ?_) ?_⟩
  · rw [begins.2.sent]
    exact .inl ⟨rest, split⟩
  · rintro rfl
    rw [begins.2.sent, List.prefix_nil] at opens
    cases opens
  · rintro (closes | ⟨result, closes⟩)
    · rw [begins.2.going] at closes
      cases closes
    · exact absurd closes (going result)

theorem replies_of_refused {error : ConverterError} {code : ErrorCode}
    (refused : Refused (w.shared.config.judge w.session.permitted) (w.lanes .upward).source.taken m?
      error)
    (valid : ∀ m, m? = some m → m.Valid) (told : error.replyCode = some code)
    (part : (w.lanes .downward).target.sent <+: (Message.failure code).wire)
    (outcome : ¬ Message.empty.wire <+: (w.lanes .downward).target.sent →
      w.outcome? = some (.error error))
    (whole : w.Silent → (Message.failure code).wire <+: (w.lanes .downward).target.sent) :
    ∃ reply, w.Replies m? reply := by
  have named : code.registered = code := by
    obtain ⟨m, asked, -, reason⟩ := refused
    exact reason.named (valid m asked) told
  exact ⟨_, .failure told named part (outcome (not_isPrefix_failure part)) refused whole⟩

theorem replies_of_told {error : ConverterError}
    (told : Told (w.shared.config.judge w.session.permitted) (w.lanes .upward).source.taken
      (w.lanes .downward).target.sent m? error) (valid : ∀ m, m? = some m → m.Valid)
    (outcome : ¬ Message.empty.wire <+: (w.lanes .downward).target.sent →
      w.outcome? = some (.error error)) : ∃ reply, w.Replies m? reply := by
  obtain ⟨refused, code, told, said⟩ := told
  refine replies_of_refused refused valid told ?_ outcome fun _ => ?_
  · rw [said]
  · rw [said]

theorem World.Carries.success {request : Bytes} {position : Direction → Position}
    {counts : Direction → Nat} (carries : w.Carries request position counts) :
    Message.empty.wire <+: (w.lanes .downward).target.sent := by
  obtain ⟨⟨moved, -, sent, -⟩, -, -⟩ := carries.2 .downward
  exact sent ▸ List.prefix_append ..

/-- **There is always one message that tells the client what came of its request.** -/
theorem World.Serves.replies (serves : w.Serves m?) (sound : w.Sound)
    (valid : ∀ m, m? = some m → m.Valid) : ∃ reply, w.Replies m? reply := by
  have stands := sound.stands
  obtain ⟨shared, ⟨n, handle, address, permitted, stage⟩, lanes⟩ := w
  have nothing {opening : Bytes}
      (begins : World.Begins ⟨shared, ⟨n, handle, address, permitted, stage⟩, lanes⟩ opening [])
      (undecided : ¬ Message.empty.wire <+: (lanes .downward).target.sent →
        World.outcome? ⟨shared, ⟨n, handle, address, permitted, stage⟩, lanes⟩ = none)
      (going : ∀ result, stage ≠ .ended result) :
      ∃ reply, World.Replies ⟨shared, ⟨n, handle, address, permitted, stage⟩, lanes⟩ m? reply :=
    replies_of_undecided begins rfl undecided going fun said => absurd rfl said
  cases stage with
  | arriving => exact nothing stands (fun unsaid => if_neg unsaid) (by rintro _ ⟨⟩)
  | entering => exact nothing stands (fun unsaid => if_neg unsaid) (by rintro _ ⟨⟩)
  | announcing => exact nothing stands.2 (fun unsaid => if_neg unsaid) (by rintro _ ⟨⟩)
  | reading reader =>
    obtain ⟨-, taken, begins, -⟩ := stands
    exact nothing begins (fun unsaid => if_neg unsaid) (by rintro _ ⟨⟩)
  | admitted destination =>
    obtain ⟨-, request, begins, -⟩ := stands
    exact nothing begins (fun unsaid => if_neg unsaid) (by rintro _ ⟨⟩)
  | connecting destination =>
    obtain ⟨-, request, begins, -⟩ := stands
    exact nothing begins (fun unsaid => if_neg unsaid) (by rintro _ ⟨⟩)
  | connected outbound =>
    obtain ⟨-, request, begins, -⟩ := stands
    exact nothing begins (fun unsaid => if_neg unsaid) (by rintro _ ⟨⟩)
  | replying outbound rest =>
    obtain ⟨-, request, said, begins, -, split⟩ := stands
    obtain ⟨destination, admitted⟩ := serves
    exact replies_of_undecided begins split (fun unsaid => if_neg unsaid) (by rintro _ ⟨⟩)
      fun _ => Admitted.served admitted
  | duplicating outbound =>
    obtain ⟨-, request, begins, -⟩ := stands
    obtain ⟨destination, admitted⟩ := serves
    exact replies_of_success (Admitted.served admitted) (begins.2.sent ▸ List.prefix_rfl)
  | linking outbound =>
    obtain ⟨-, request, begins, -⟩ := stands
    obtain ⟨destination, admitted⟩ := serves
    exact replies_of_success (Admitted.served admitted) (begins.2.sent ▸ List.prefix_rfl)
  | recording outbound =>
    obtain ⟨-, request, begins, -⟩ := stands
    obtain ⟨destination, admitted⟩ := serves
    exact replies_of_success (Admitted.served admitted) (begins.2.sent ▸ List.prefix_rfl)
  | bridged =>
    obtain ⟨_, _, _, _, carries, -⟩ := stands
    exact replies_of_success serves carries.success
  | stopping sides =>
    obtain ⟨_, _, _, _, carries, -⟩ := stands
    exact replies_of_success serves carries.success
  | copying upward downward =>
    obtain ⟨_, _, _, _, carries, -⟩ := stands
    exact replies_of_success serves carries.success
  | counting d count upward downward =>
    obtain ⟨-, _, _, _, _, carries, -⟩ := stands
    exact replies_of_success serves carries.success
  | ending d upward downward =>
    obtain ⟨-, _, _, _, _, carries, -⟩ := stands
    exact replies_of_success serves carries.success
  | halfClosing d upward downward =>
    obtain ⟨-, _, _, _, _, carries, -⟩ := stands
    exact replies_of_success serves carries.success
  | finishing result =>
    obtain ⟨_, ⟨_, _, _, _, carries, -⟩, -⟩ := stands
    exact replies_of_success serves carries.success
  | rejecting error rest =>
    obtain ⟨-, taken, said, code, begins, told, split⟩ := stands
    refine replies_of_refused serves valid told ?_ (fun unsaid => if_neg unsaid) ?_
    · rw [begins.2.sent]
      exact ⟨rest, split⟩
    · rintro (closes | ⟨result, closes⟩)
      · rw [begins.2.going] at closes
        cases closes
      · cases closes
  | armingReset error => exact replies_of_told serves valid fun unsaid => if_neg unsaid
  | marking error => exact replies_of_told serves valid fun unsaid => if_neg unsaid
  | leaving result =>
    rcases serves with ⟨served, opens⟩ | ⟨error, rfl, told⟩
    · exact replies_of_success served opens
    · exact replies_of_told told valid fun unsaid => if_neg unsaid
  | ended result =>
    rcases serves with ⟨served, opens⟩ | ⟨error, rfl, told⟩
    · exact replies_of_success served opens
    · exact replies_of_told told valid fun unsaid => if_neg unsaid

end Session

end TransportConverter
