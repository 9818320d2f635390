import TransportConverter.Proofs.Converter.Run
import TransportConverter.Proofs.Message.Framing
/-!
# What a session has done at each of its stages

For every stage there is one statement of what has been taken from the two sources, what the two targets
have been given, and what the table lists (`Stage.Stands`): a request or a part of it, a reply or a part
of it, and from then on the two streams of a bridge, each with the piece that is under way
(`Lane.Carries`). What happens around a session does not touch it (`Stage.Stands.frame`).
-/
namespace TransportConverter

namespace Session

/-! ## One direction -/

namespace Lane

/-- `opening` was taken from the source and `greeting` given to the target, which will get more. -/
structure Opens (lane : Lane) (opening greeting : Bytes) : Prop where
  taken : lane.source.taken = opening
  sent : lane.target.sent = greeting
  going : lane.target.ended = false

/-- Behind `opening`, the source's bytes were given to the target behind `greeting`, but for the rest of
the piece that is under way; `count` tells their number, but for that piece. -/
structure Carries (lane : Lane) (opening greeting : Bytes) (p : Position) (count : Nat) : Prop where
  moved : ∃ moved, lane.source.taken = opening ++ moved ++ p.rest ∧
    lane.target.sent = greeting ++ moved ∧ count + p.size = moved.length + p.rest.length
  exhausted : p.sourceEnded = true → lane.source.Exhausted
  told : lane.target.ended = true ↔ p = .finished

/-- More may have been sent by the source, and been taken by the target. -/
structure Grows (lane lane' : Lane) : Prop where
  taken : lane'.source.taken = lane.source.taken
  source : lane.source.sent <+: lane'.source.sent
  exhausted : lane.source.Exhausted → lane'.source.Exhausted
  target : lane'.target.sent = lane.target.sent
  told : lane'.target.ended = lane.target.ended

variable {lane lane' : Lane} {opening greeting : Bytes} {p : Position} {count : Nat}

namespace Grows

theorem refl (lane : Lane) : Grows lane lane := ⟨rfl, List.prefix_rfl, fun done => done, rfl, rfl⟩

theorem put (going : lane.source.ended = false) (bytes : Bytes) :
    Grows lane { lane with source := lane.source.put bytes } := by
  refine ⟨rfl, ?_, ?_, rfl, rfl⟩
  · rw [Pipe.sent_put]
    exact List.prefix_append ..
  · rintro (stopped | ⟨-, ended⟩)
    · exact .inl stopped
    · rw [going] at ended
      cases ended

theorem close (lane : Lane) : Grows lane { lane with source := lane.source.close } :=
  ⟨rfl, List.prefix_rfl, Or.imp_right fun done => ⟨done.1, rfl⟩, rfl, rfl⟩

theorem stop (lane : Lane) : Grows lane { lane with source := lane.source.stop } :=
  ⟨rfl, List.prefix_rfl, fun _ => .inl rfl, rfl, rfl⟩

theorem draw (lane : Lane) (count : Nat) :
    Grows lane { lane with target := lane.target.advance count } :=
  ⟨rfl, List.prefix_rfl, fun done => done, Pipe.sent_advance .., rfl⟩

end Grows

theorem Grows.withSource {lanes : Lanes} {d : Direction} {source : Pipe}
    (grows : Grows (lanes d) { lanes d with source }) (d' : Direction) :
    Grows (lanes d') (lanes.withSource d source d') := by
  by_cases own : d' = d
  · subst own
    rw [Lanes.withSource_self]
    exact grows
  · rw [Lanes.withSource_ne _ own]
    exact .refl _

theorem Grows.withTarget {lanes : Lanes} {d : Direction} {target : Pipe}
    (grows : Grows (lanes d) { lanes d with target }) (d' : Direction) :
    Grows (lanes d') (lanes.withTarget d target d') := by
  by_cases own : d' = d
  · subst own
    rw [Lanes.withTarget_self]
    exact grows
  · rw [Lanes.withTarget_ne _ own]
    exact .refl _

theorem Opens.grows (opens : lane.Opens opening greeting) (grows : lane.Grows lane') :
    lane'.Opens opening greeting :=
  ⟨grows.taken.trans opens.taken, grows.target.trans opens.sent, grows.told.trans opens.going⟩

theorem Carries.grows (carries : lane.Carries opening greeting p count) (grows : lane.Grows lane') :
    lane'.Carries opening greeting p count := by
  obtain ⟨moved, exhausted, told⟩ := carries
  refine ⟨?_, fun done => grows.exhausted (exhausted done), ?_⟩
  · rw [grows.taken, grows.target]
    exact moved
  · rw [grows.told]
    exact told

/-- A bridge begins behind what was said before. -/
theorem Opens.carries (opens : lane.Opens opening greeting) :
    lane.Carries opening greeting .reading 0 := by
  refine ⟨⟨[], ?_, ?_, rfl⟩, nofun, ?_⟩
  · simp [opens.taken, Position.rest]
  · simp [opens.sent]
  · simp [opens.going]

end Lane

/-- What a direction takes from its source before there is a bridge. -/
def opening (request : Bytes) : Direction → Bytes
  | .upward => request
  | .downward => []

/-- What a direction gives its target before there is a bridge. -/
def greeting : Direction → Bytes
  | .upward => []
  | .downward => Message.empty.wire

/-! ## Taking a request -/

/-- The bytes are one message and nothing behind it. -/
def IsMessage (bytes : Bytes) : Prop := ∃ m, Message.decode bytes = .ok (m, bytes.length)

end Session

/-- What a reader has taken of the bytes that were sent, and what it knows of their header. -/
def RequestReader.Fits (taken sent : Bytes) : RequestReader → Prop
  | peeking | takingHeader => taken = []
  | takingRest taken' count => taken = taken' ∧ ∃ opens header, opens <+: sent ∧
      headerLength ≤ opens.length ∧ Header.decode opens = .ok header ∧
      taken.length + count = header.messageLength

namespace RequestReader

variable {reader : RequestReader} {taken sent sent' : Bytes} {source source' : Pipe}

theorem Fits.grows (fits : reader.Fits taken sent) (grows : sent <+: sent') :
    reader.Fits taken sent' := by
  cases reader with
  | peeking => exact fits
  | takingHeader => exact fits
  | takingRest taken' count =>
    obtain ⟨rfl, opens, header, isPrefix, rest⟩ := fits
    exact ⟨rfl, opens, header, isPrefix.trans grows, rest⟩

/-- Once the header is known, so is how much is missing. -/
theorem expect_cases (header taken : Bytes) :
    (∃ decoded, Header.decode header = .ok decoded ∧
      expect header taken = .waiting (takingRest taken (decoded.messageLength - taken.length))) ∨
    ∃ error, expect header taken = .done (.error error) := by
  unfold expect
  split
  · rename_i decoded opens
    exact .inl ⟨decoded, opens, rfl⟩
  · exact .inr ⟨_, rfl⟩

/-- **A reader takes one message and leaves what is behind it**, in whatever pieces the bytes arrive. -/
theorem Fits.resume (fits : reader.Fits source.taken source.sent) {answer : Except IoError Bytes}
    (gives : reader.call.Gives source answer source') :
    source'.sent = source.sent ∧
    (∀ reader', reader.resume answer = .waiting reader' → reader'.Fits source'.taken source'.sent) ∧
    ∀ message, reader.resume answer = .done (.ok message) → source'.taken = message ∧
      ∃ header, Header.decode message = .ok header ∧ header.messageLength = message.length := by
  cases reader with
  | peeking =>
    obtain ⟨peeks, rfl⟩ := gives
    refine ⟨rfl, ?_⟩
    cases peeks with
    | eof exhausted => exact ⟨by rintro _ ⟨⟩, by rintro _ ⟨⟩⟩
    | fails error => exact ⟨by rintro _ ⟨⟩, by rintro _ ⟨⟩⟩
    | piece count some fits' there =>
      have ne : (source'.held.take count).isEmpty = false := by
        rw [List.isEmpty_eq_false_iff, ← List.length_pos_iff, List.length_take]
        omega
      simp only [RequestReader.resume, ne, Bool.false_eq_true, if_false]
      split
      · exact ⟨by rintro _ ⟨⟩; exact fits, by rintro _ ⟨⟩⟩
      · rename_i long
        rcases expect_cases (source'.held.take count) [] with ⟨header, opens, eq⟩ | ⟨error, eq⟩
        · rw [eq]
          refine ⟨?_, by rintro _ ⟨⟩⟩
          rintro _ ⟨⟩
          have none : source'.taken = [] := fits
          refine ⟨fits, _, header, ?_, Nat.le_of_not_lt long, opens, ?_⟩
          · rw [Pipe.sent, none, List.nil_append]
            exact List.take_prefix ..
          · rw [none]
            simp
        · rw [eq]
          exact ⟨by rintro _ ⟨⟩, by rintro _ ⟨⟩⟩
  | takingHeader =>
    cases gives with
    | fails lost error => exact ⟨Pipe.sent_advance .., by rintro _ ⟨⟩, by rintro _ ⟨⟩⟩
    | whole there =>
      refine ⟨Pipe.sent_advance .., ?_⟩
      have none : source.taken = [] := fits
      have length : (source.held.take headerLength).length = headerLength :=
        List.length_take_of_le there
      rcases expect_cases (source.held.take headerLength) (source.held.take headerLength) with
        ⟨header, opens, eq⟩ | ⟨error, eq⟩
      · rw [RequestReader.resume, eq]
        refine ⟨?_, by rintro _ ⟨⟩⟩
        rintro _ ⟨⟩
        have taken : (source.advance headerLength).taken = source.held.take headerLength := by
          rw [Pipe.advance, none, List.nil_append]
        refine ⟨taken, _, header, ?_, Nat.le_of_eq length.symm, opens, ?_⟩
        · rw [← taken]
          exact Pipe.taken_isPrefix _
        · have := header.headerLength_le_messageLength
          rw [taken, length]
          omega
      · rw [RequestReader.resume, eq]
        exact ⟨by rintro _ ⟨⟩, by rintro _ ⟨⟩⟩
  | takingRest taken count =>
    cases gives with
    | fails lost error => exact ⟨Pipe.sent_advance .., by rintro _ ⟨⟩, by rintro _ ⟨⟩⟩
    | whole there =>
      obtain ⟨rfl, opens, header, isPrefix, long, decoded, length⟩ := fits
      refine ⟨Pipe.sent_advance .., by rintro _ ⟨⟩, ?_⟩
      rintro _ ⟨⟩
      refine ⟨rfl, header, ?_, ?_⟩
      · -- header and message begin at the same place, and the header is not the longer one
        have whole : headerLength ≤ (source.taken ++ source.held.take count).length := by
          have := header.headerLength_le_messageLength
          rw [List.length_append, List.length_take_of_le there]
          omega
        have front : source.taken ++ source.held.take count <+: source.sent := by
          rw [Pipe.sent, List.prefix_append_right_inj]
          exact List.take_prefix ..
        rw [← Header.decode_of_isPrefix front whole, Header.decode_of_isPrefix isPrefix long,
          decoded]
      · rw [List.length_append, List.length_take_of_le there]
        exact length.symm

end RequestReader

/-! ## What a client is told -/

theorem Message.wire_empty : Message.empty.wire = [1, 0, 0, 0] := rfl

theorem Message.wire_failure (code : ErrorCode) :
    ∃ rest, (Message.failure code).wire = 1 :: 4 :: rest := ⟨_, rfl⟩

theorem Message.valid_failure (code : ErrorCode) : (Message.failure code).Valid :=
  ⟨by simp [Message.failure], nofun⟩

namespace Session

/-- At most one reply has been given, or a part of it. -/
def Spoken (said : Bytes) : Prop :=
  said <+: Message.empty.wire ∨ ∃ code, said <+: (Message.failure code).wire

variable {said : Bytes}

theorem behindSuccess_wire_append (bytes : Bytes) :
    behindSuccess (Message.empty.wire ++ bytes) = bytes := by
  rw [behindSuccess, if_pos (List.prefix_append ..), List.drop_left]

/-- Behind one reply there is nothing. -/
theorem behindSuccess_of_spoken (spoken : Spoken said) : behindSuccess said = [] := by
  rw [behindSuccess]
  split
  · rename_i success
    rcases spoken with part | ⟨code, part⟩
    · exact List.drop_eq_nil_of_le part.length_le
    · have both := success.trans part
      obtain ⟨rest, eq⟩ := Message.wire_failure code
      rw [eq, Message.wire_empty] at both
      simp [List.cons_prefix_cons] at both
  · rfl

theorem behindMessage_of_isPrefix {request sent : Bytes} (whole : IsMessage request)
    (opens : request <+: sent) : behindMessage sent = sent.drop request.length := by
  obtain ⟨m, read⟩ := whole
  rw [behindMessage, Message.decode_of_isPrefix read opens]

/-! ## The stages -/

namespace World

variable (w : World)

/-- The session is listed, under the client's handle alone. -/
def Listed : Prop := ∃ s, w.shared.table.Lists w.session.handle none s

/-- There is no bridge yet: `taken` has come from the client and `said` has been told to it. -/
def Begins (taken said : Bytes) : Prop :=
  (w.lanes .upward).Opens taken [] ∧ (w.lanes .downward).Opens [] said

/-- Both directions are where they should be. -/
def Carries (request : Bytes) (position : Direction → Position) (counts : Direction → Nat) : Prop :=
  IsMessage request ∧
    ∀ d, (w.lanes d).Carries (opening request d) (greeting d) (position d) (counts d)

/-- A bridge that is listed, with its counters, under both handles. -/
def Bridges (position : Direction → Position) : Prop :=
  ∃ request outbound s bridge, w.Carries request position (fun d => (bridge.direction d).bytes) ∧
    w.shared.table.Lists w.session.handle (some outbound) s ∧ s.bridge = some bridge ∧
    bridge.client = w.session.handle ∧ bridge.destination = outbound

/-- A session that comes to this end, behind a bridge or without one. -/
def Ends (result : Except ConverterError Unit) : Prop :=
  (∃ request position counts, w.Carries request position counts ∧
    (result = .ok () → ∀ d, position d = .finished)) ∨
  result ≠ .ok () ∧ ∃ taken said, w.Begins taken said ∧ Spoken said

end World

end Session

open Session

/-- What a session has done when it is at a stage. -/
def Stage.Stands (w : World) : Stage → Prop
  | arriving | entering => w.Begins [] []
  | announcing => w.Listed ∧ w.Begins [] []
  | reading reader => w.Listed ∧ ∃ taken, w.Begins taken [] ∧
      reader.Fits taken (w.lanes .upward).source.sent
  | admitted destination | connecting destination => w.Listed ∧ ∃ request, w.Begins request [] ∧
      IsMessage request ∧ w.shared.config.judge w.session.permitted request = .ok destination
  | connected _ => w.Listed ∧ ∃ request, w.Begins request [] ∧ IsMessage request
  | replying _ rest => w.Listed ∧ ∃ request said, w.Begins request said ∧ IsMessage request ∧
      said ++ rest = Message.empty.wire
  | duplicating _ | linking _ => w.Listed ∧ ∃ request, w.Begins request Message.empty.wire ∧
      IsMessage request
  | recording outbound => (∃ s, w.shared.table.Lists w.session.handle (some outbound) s) ∧
      ∃ request, w.Begins request Message.empty.wire ∧ IsMessage request
  | bridged | stopping _ => w.Bridges fun _ => .reading
  | copying upward downward => w.Bridges fun d => (d.pick upward downward).position
  | counting d' count upward downward => d'.pick upward downward = .reading ∧ w.Bridges fun d =>
      if d = d' then .counting count else (d.pick upward downward).position
  | ending d' upward downward | halfClosing d' upward downward =>
      d'.pick upward downward = .done ∧ w.Bridges fun d =>
        if d = d' then .ending else (d.pick upward downward).position
  | finishing result => ∃ position, w.Bridges position ∧ (result = .ok () → ∀ d, position d = .finished)
  | rejecting error rest => w.Listed ∧ ∃ taken said code, w.Begins taken said ∧
      error.replyCode = some code ∧ said ++ rest = (Message.failure code).wire
  | armingReset _ | marking _ => w.Listed ∧ ∃ taken said, w.Begins taken said ∧ Spoken said
  | leaving result => (∃ partner s, w.shared.table.Lists w.session.handle partner s) ∧ w.Ends result
  | ended result => w.Ends result

namespace Session

variable {w w' : World}

/-- What a session knows of its direction, once there is a bridge. -/
theorem bridges_of_position? {stage : Stage} {position : Direction → Position}
    (stands : stage.Stands w) (bridging : ∀ d, stage.position? d = some (position d)) :
    w.Bridges position := by
  have same (position' : Direction → Position)
      (there : ∀ d, stage.position? d = some (position' d)) : position' = position :=
    funext fun d => Option.some.inj ((there d).symm.trans (bridging d))
  cases stage with
  | bridged => exact same _ (fun _ => rfl) ▸ stands
  | stopping sides => exact same _ (fun _ => rfl) ▸ stands
  | copying upward downward => exact same _ (fun _ => rfl) ▸ stands
  | counting d count upward downward => exact same _ (fun _ => rfl) ▸ stands.2
  | ending d upward downward => exact same _ (fun _ => rfl) ▸ stands.2
  | halfClosing d upward downward => exact same _ (fun _ => rfl) ▸ stands.2
  | _ => exact absurd (bridging .upward) nofun

/-! ## What happens around a session -/

/-- Nothing that the session has done is undone. -/
structure Frame (w w' : World) : Prop where
  config : w'.shared.config = w.shared.config
  handle : w'.session.handle = w.session.handle
  permitted : w'.session.permitted = w.session.permitted
  lists : ∀ partner s, w.shared.table.Lists w.session.handle partner s →
    w'.shared.table.Lists w.session.handle partner s
  grows : ∀ d, (w.lanes d).Grows (w'.lanes d)

namespace Frame

theorem listed (frame : Frame w w') (listed : w.Listed) : w'.Listed := by
  obtain ⟨s, lists⟩ := listed
  exact ⟨s, frame.handle ▸ frame.lists _ _ lists⟩

theorem begins {taken : Bytes} (frame : Frame w w') (begins : w.Begins taken said) :
    w'.Begins taken said :=
  ⟨begins.1.grows (frame.grows .upward), begins.2.grows (frame.grows .downward)⟩

theorem carries {request : Bytes} {position : Direction → Position} {counts : Direction → Nat}
    (frame : Frame w w') (carries : w.Carries request position counts) :
    w'.Carries request position counts :=
  ⟨carries.1, fun d => (carries.2 d).grows (frame.grows d)⟩

theorem bridges {position : Direction → Position} (frame : Frame w w')
    (bridges : w.Bridges position) : w'.Bridges position := by
  obtain ⟨request, outbound, s, bridge, carries, lists, there, client, destination⟩ := bridges
  refine ⟨request, outbound, s, bridge, frame.carries carries, ?_, there, ?_, destination⟩
  · rw [frame.handle]
    exact frame.lists _ _ lists
  · rw [frame.handle]
    exact client

theorem ends {result : Except ConverterError Unit} (frame : Frame w w') (ends : w.Ends result) :
    w'.Ends result := by
  rcases ends with ⟨request, position, counts, carries, complete⟩ | ⟨failed, taken, said, begins, spoken⟩
  · exact .inl ⟨request, position, counts, frame.carries carries, complete⟩
  · exact .inr ⟨failed, taken, said, frame.begins begins, spoken⟩

end Frame

end Session

/-- **What happens around a session does not touch what it has done.** -/
theorem Stage.Stands.frame {w w' : World} {stage : Stage} (stands : stage.Stands w)
    (frame : Frame w w') : stage.Stands w' := by
  cases stage with
  | arriving => exact frame.begins stands
  | entering => exact frame.begins stands
  | announcing => exact ⟨frame.listed stands.1, frame.begins stands.2⟩
  | reading reader =>
    obtain ⟨listed, taken, begins, fits⟩ := stands
    exact ⟨frame.listed listed, taken, frame.begins begins, fits.grows (frame.grows .upward).source⟩
  | admitted destination =>
    obtain ⟨listed, request, begins, whole, judged⟩ := stands
    refine ⟨frame.listed listed, request, frame.begins begins, whole, ?_⟩
    rw [frame.config, frame.permitted]
    exact judged
  | connecting destination =>
    obtain ⟨listed, request, begins, whole, judged⟩ := stands
    refine ⟨frame.listed listed, request, frame.begins begins, whole, ?_⟩
    rw [frame.config, frame.permitted]
    exact judged
  | connected outbound =>
    obtain ⟨listed, request, begins, whole⟩ := stands
    exact ⟨frame.listed listed, request, frame.begins begins, whole⟩
  | replying outbound rest =>
    obtain ⟨listed, request, said, begins, whole, split⟩ := stands
    exact ⟨frame.listed listed, request, said, frame.begins begins, whole, split⟩
  | duplicating outbound =>
    obtain ⟨listed, request, begins, whole⟩ := stands
    exact ⟨frame.listed listed, request, frame.begins begins, whole⟩
  | linking outbound =>
    obtain ⟨listed, request, begins, whole⟩ := stands
    exact ⟨frame.listed listed, request, frame.begins begins, whole⟩
  | recording outbound =>
    obtain ⟨⟨s, lists⟩, request, begins, whole⟩ := stands
    exact ⟨⟨s, frame.handle ▸ frame.lists _ _ lists⟩, request, frame.begins begins, whole⟩
  | bridged => exact frame.bridges stands
  | stopping sides => exact frame.bridges stands
  | copying upward downward => exact frame.bridges stands
  | counting d count upward downward => exact ⟨stands.1, frame.bridges stands.2⟩
  | ending d upward downward => exact ⟨stands.1, frame.bridges stands.2⟩
  | halfClosing d upward downward => exact ⟨stands.1, frame.bridges stands.2⟩
  | finishing result =>
    obtain ⟨position, bridges, complete⟩ := stands
    exact ⟨position, frame.bridges bridges, complete⟩
  | rejecting error rest =>
    obtain ⟨listed, taken, said, code, begins, told, split⟩ := stands
    exact ⟨frame.listed listed, taken, said, code, frame.begins begins, told, split⟩
  | armingReset error =>
    obtain ⟨listed, taken, said, begins, spoken⟩ := stands
    exact ⟨frame.listed listed, taken, said, frame.begins begins, spoken⟩
  | marking error =>
    obtain ⟨listed, taken, said, begins, spoken⟩ := stands
    exact ⟨frame.listed listed, taken, said, frame.begins begins, spoken⟩
  | leaving result =>
    obtain ⟨⟨partner, s, lists⟩, ends⟩ := stands
    exact ⟨⟨partner, s, frame.handle ▸ frame.lists _ _ lists⟩, frame.ends ends⟩
  | ended result => exact frame.ends stands

end TransportConverter
