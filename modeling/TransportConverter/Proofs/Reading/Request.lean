import Mathlib.Logic.Relation
import TransportConverter.Proofs.Converter.Patience
import TransportConverter.Proofs.Message.Truncation
import TransportConverter.Proofs.Reading.Run
/-!
# One request, in whatever pieces it comes

A converter takes the request of a client off its connection in one of two ways: it has seen the whole
header before it takes anything, or it has seen a part of it and takes the header first. What it comes to
is the same, and depends on the bytes alone that the client sends (`RequestReader.Comes`), not on how they
are cut up on their way nor on when they come.

The main result is `RequestReader.framed_alike`: **every reading of a stream that ends comes to the same,
takes no byte behind the request, and ends as soon as what has come tells how**. What one answer keeps is
`RequestReader.State.Sound.call`, and that nothing more has to come is `RequestReader.settles`, by
induction on the answers that a reader can still take.
-/
namespace TransportConverter

/-- What a connection that does not fail answers: a look waits for a byte or for the end of the stream, and
taking waits for all the bytes or for the end. -/
def RequestCall.Meets (p : Pipe) : RequestCall → Except IoError Bytes → Pipe → Prop
  | peek room, .ok bytes, p' => p.Shows (p.ended = true) room (.ok bytes) ∧ p' = p
  | peek _, .error _, _ => False
  | receiveExact count, answer, p' => p.Fetches count answer p'

namespace RequestReader

/-- A reader and its connection. -/
structure State where
  progress : RequestProgress
  pipe : Pipe

/-- More of the stream comes, or its end, or a call is answered. -/
inductive Step (stream : Bytes) : State → State → Prop
  | arrive {progress : RequestProgress} {p p' : Pipe} (arrives : p.Arrives stream p') :
      Step stream ⟨progress, p⟩ ⟨progress, p'⟩
  | call {reader : RequestReader} {p p' : Pipe} {answer : Except IoError Bytes}
      (meets : reader.call.Meets p answer p') :
      Step stream ⟨.waiting reader, p⟩ ⟨reader.resume answer, p'⟩

/-- Steps one after the other. -/
def Run (stream : Bytes) : State → State → Prop := Relation.ReflTransGen (Step stream)

/-- What the bytes that have come are taken for, once they tell: the message that their header declares,
a header of another version, or a client that is gone before either is there. -/
inductive Comes (sent : Bytes) (ended : Bool) : Except ConverterError Bytes → Prop
  | message {flags hi lo : UInt8} {rest : Bytes} (is : sent = 1 :: flags :: hi :: lo :: rest)
      (there : hi.toNat * 256 + lo.toNat ≤ rest.length) :
      Comes sent ended (.ok (sent.take (4 + (hi.toNat * 256 + lo.toNat))))
  | foreign {version b c d : UInt8} {rest : Bytes} (is : sent = version :: b :: c :: d :: rest)
      (other : version ≠ 1) : Comes sent ended (.error (.decode (.unsupportedVersion version)))
  | closed {needed : Nat} (short : Message.CutShort sent needed) (gone : ended = true) :
      Comes sent ended (.error .clientClosed)

/-- With what has come the reader comes to a result: every call is answered, whatever else comes before,
and whatever the answers are. -/
inductive Settles (stream : Bytes) (result : Except ConverterError Bytes) : State → Prop
  | done {p : Pipe} : Settles stream result ⟨.done result, p⟩
  | call {reader : RequestReader} {p : Pipe}
      (answered : ∀ p', p.Arrives stream p' → ∃ answer p'', reader.call.Meets p' answer p'')
      (rest : ∀ p' answer p'', p.Arrives stream p' → reader.call.Meets p' answer p'' →
        Settles stream result ⟨reader.resume answer, p''⟩) :
      Settles stream result ⟨.waiting reader, p⟩

end RequestReader

/-- How many answers are still to be taken at most. -/
def RequestProgress.patience : RequestProgress → Nat
  | done _ => 0
  | waiting reader => reader.patience

/-! ## What a header tells -/

namespace Header

variable {bytes : Bytes} {header : Header} {error : DecodeError}

theorem spelled_of_decode (opens : decode bytes = .ok header) : ∃ flags hi lo rest,
    bytes = 1 :: flags :: hi :: lo :: rest ∧
      header.messageLength = 4 + (hi.toNat * 256 + lo.toNat) := by
  match bytes with
  | [] | [_] | [_, _] | [_, _, _] => cases opens
  | version :: flags :: hi :: lo :: rest =>
    by_cases own : version = 1
    · subst own
      cases opens
      exact ⟨flags, hi, lo, rest, rfl, by simp [messageLength, headerLength]⟩
    · simp [decode, protocolVersion, own] at opens

/-- The one thing that is wrong with a header that is there is its version. -/
theorem foreign_of_decode (refused : decode bytes = .error error)
    (long : headerLength ≤ bytes.length) : ∃ version b c d rest,
    bytes = version :: b :: c :: d :: rest ∧ version ≠ 1 ∧ error = .unsupportedVersion version := by
  match bytes, long with
  | version :: b :: c :: d :: rest, _ =>
    by_cases own : version = 1
    · subst own
      cases refused
    · simp only [decode, protocolVersion, own, if_false, Except.error.injEq] at refused
      exact ⟨version, b, c, d, rest, rfl, own, refused.symm⟩

end Header

/-- What is cut short behind its header has a header of the one version. -/
theorem Message.CutShort.of_header {version flags hi lo : UInt8} {rest : Bytes} {needed : Nat}
    (short : CutShort (version :: flags :: hi :: lo :: rest) needed) :
    version = 1 ∧ rest.length < hi.toNat * 256 + lo.toNat := by
  cases short with
  | header short =>
    simp only [List.length_cons] at short
    omega
  | records short => exact ⟨rfl, short⟩

/-! ## What a connection answers -/

namespace RequestCall.Meets

variable {stream : Bytes} {p p' : Pipe} {call : RequestCall} {answer : Except IoError Bytes}

/-- A connection that does not fail is a connection. -/
theorem gives (meets : call.Meets p answer p') : call.Gives p answer p' := by
  cases call with
  | peek room =>
    cases answer with
    | error error => exact meets.elim
    | ok bytes =>
      obtain ⟨⟨there, fits, nothing⟩, rfl⟩ := meets
      refine ⟨?_, rfl⟩
      by_cases none : bytes = []
      · subst none
        exact .eof (.inr (nothing rfl))
      · rw [List.prefix_iff_eq_take.1 there]
        exact .piece _ (List.length_pos_iff.2 none) fits there.length_le
  | receiveExact count =>
    cases meets with
    | whole there => exact .whole there
    | short lost ended short eof => exact .fails lost _

/-- No call changes what has come. -/
theorem same (meets : call.Meets p answer p') : p'.sent = p.sent ∧ p'.ended = p.ended := by
  cases call with
  | peek room =>
    cases answer with
    | error error => exact meets.elim
    | ok bytes =>
      obtain ⟨-, rfl⟩ := meets
      exact ⟨rfl, rfl⟩
  | receiveExact count =>
    cases meets with
    | whole there => exact ⟨Pipe.sent_advance .., rfl⟩
    | short lost ended short eof => exact ⟨Pipe.sent_advance .., rfl⟩

theorem brings (meets : call.Meets p answer p') (brings : p.Brings stream) : p'.Brings stream := by
  obtain ⟨sent, ended⟩ := meets.same
  refine ⟨?_, fun gone => ?_⟩
  · rw [sent]
    exact brings.part
  · rw [sent]
    exact brings.whole (ended ▸ gone)

end RequestCall.Meets

namespace RequestReader

variable {stream sent : Bytes} {ended : Bool} {result result' : Except ConverterError Bytes}
  {p p' : Pipe} {reader : RequestReader} {answer : Except IoError Bytes} {x y : State}

/-! ## What bytes come to -/

namespace Comes

theorem of_header {header : Header} (opens : Header.decode sent = .ok header)
    (whole : header.messageLength ≤ sent.length) :
    Comes sent ended (.ok (sent.take header.messageLength)) := by
  obtain ⟨flags, hi, lo, rest, rfl, length⟩ := Header.spelled_of_decode opens
  rw [length] at whole ⊢
  simp only [List.length_cons] at whole
  exact .message rfl (by omega)

theorem of_short {header : Header} (opens : Header.decode sent = .ok header)
    (short : sent.length < header.messageLength) (gone : ended = true) :
    Comes sent ended (.error .clientClosed) := by
  obtain ⟨flags, hi, lo, rest, rfl, length⟩ := Header.spelled_of_decode opens
  rw [length] at short
  simp only [List.length_cons] at short
  exact .closed (.records (by omega)) gone

theorem of_header_error {error : DecodeError} {bytes : Bytes} (opens : bytes <+: sent)
    (long : headerLength ≤ bytes.length) (refused : Header.decode bytes = .error error) :
    Comes sent ended (.error (.decode error)) := by
  obtain ⟨version, b, c, d, rest, rfl, other, rfl⟩ := Header.foreign_of_decode refused long
  obtain ⟨tail, rfl⟩ := opens
  exact .foreign rfl other

/-- Bytes that are cut short come to nothing, unless they have ended. -/
theorem closed_of_cutShort {needed : Nat} (comes : Comes sent ended result)
    (short : Message.CutShort sent needed) : result = .error .clientClosed := by
  cases comes with
  | message is there =>
    subst is
    exact absurd short.of_header.2 (Nat.not_lt.2 there)
  | foreign is other =>
    subst is
    exact absurd short.of_header.1 other
  | closed short' gone => rfl

/-- Bytes come to one result at most. -/
theorem unique (first : Comes sent ended result) (second : Comes sent ended result') :
    result = result' := by
  have closed {needed : Nat} (short : Message.CutShort sent needed) : result = result' :=
    (first.closed_of_cutShort short).trans (second.closed_of_cutShort short).symm
  cases first with
  | message is there =>
    cases second with
    | message is' there' =>
      cases is.symm.trans is'
      rfl
    | foreign is' other =>
      cases is.symm.trans is'
      exact absurd rfl other
    | closed short gone => exact closed short
  | foreign is other =>
    cases second with
    | message is' there =>
      cases is.symm.trans is'
      exact absurd rfl other
    | foreign is' other' =>
      cases is.symm.trans is'
      rfl
    | closed short gone => exact closed short
  | closed short gone => exact closed short

/-- What bytes come to they come to when there are more of them. -/
theorem grows {sent' : Bytes} {ended' : Bool} (comes : Comes sent ended result)
    (more : sent <+: sent') (gone : ended = true → sent = sent' ∧ ended' = true) :
    Comes sent' ended' result := by
  cases comes with
  | @message flags hi lo rest is there =>
    have whole : 4 + (hi.toNat * 256 + lo.toNat) ≤ sent.length := by
      rw [is]
      simp only [List.length_cons]
      omega
    obtain ⟨tail, rfl⟩ := more
    have same : (sent ++ tail).take _ = sent.take _ := List.take_append_of_le_length whole
    rw [← same]
    exact .message (by rw [is]; rfl) (Nat.le_trans there (List.prefix_append ..).length_le)
  | foreign is other =>
    subst is
    obtain ⟨tail, rfl⟩ := more
    exact .foreign rfl other
  | closed short shut =>
    obtain ⟨rfl, shut'⟩ := gone shut
    exact .closed short shut'

end Comes

/-- A stream that has ended comes to a result. -/
theorem exists_comes (stream : Bytes) : ∃ result, Comes stream true result := by
  by_cases short : stream.length < headerLength
  · exact ⟨_, .closed (.header short) rfl⟩
  cases opens : Header.decode stream with
  | error error =>
    exact ⟨_, .of_header_error List.prefix_rfl (Nat.le_of_not_lt short) opens⟩
  | ok header =>
    by_cases whole : header.messageLength ≤ stream.length
    · exact ⟨_, .of_header opens whole⟩
    · exact ⟨_, .of_short opens (Nat.lt_of_not_le whole) rfl⟩

/-! ## What one answer keeps -/

theorem closedOnEof_of_eof {error : IoError} (eof : error.kind = .unexpectedEof) :
    closedOnEof error = .clientClosed := if_pos eof

/-- A header that cannot be read is of another version. -/
theorem comes_of_expect {header taken : Bytes} (opens : header <+: sent)
    (long : headerLength ≤ header.length) (told : expect header taken = .done result) :
    Comes sent ended result := by
  unfold expect at told
  split at told
  · cases told
  · rename_i error refused
    cases told
    exact .of_header_error opens long refused

/-- What a reader comes to is what has come. -/
theorem comes_of_resume (fits : reader.Fits p.taken p.sent) (meets : reader.call.Meets p answer p')
    (told : reader.resume answer = .done result) : Comes p.sent p.ended result := by
  cases reader with
  | peeking =>
    have unread : p.taken = [] := fits
    cases answer with
    | error error => exact meets.elim
    | ok bytes =>
      obtain ⟨⟨there, -, nothing⟩, -⟩ := meets
      rw [← Pipe.sent_of_unread unread] at there nothing
      simp only [resume, List.isEmpty_iff] at told
      split at told
      · rename_i none
        cases told
        obtain ⟨empty, gone⟩ := nothing none
        exact .closed (.header (by rw [empty]; decide)) gone
      · split at told
        · cases told
        · rename_i long
          exact comes_of_expect there (Nat.le_of_not_lt long) told
  | takingHeader =>
    have unread : p.taken = [] := fits
    cases meets with
    | short lost gone short eof =>
      cases told
      rw [closedOnEof_of_eof eof]
      exact .closed (.header (by rwa [Pipe.sent_of_unread unread])) gone
    | whole there =>
      refine comes_of_expect ?_ (Nat.le_of_eq (List.length_take_of_le there).symm) told
      rw [Pipe.sent_of_unread unread]
      exact List.take_prefix ..
  | takingRest taken count =>
    obtain ⟨rfl, opens, header, front, long, decoded, length⟩ := fits
    rw [← Header.decode_of_isPrefix front long] at decoded
    have sent : p.sent.length = p.taken.length + p.held.length := by
      rw [Pipe.sent, List.length_append]
    cases meets with
    | short lost gone short eof =>
      cases told
      rw [closedOnEof_of_eof eof]
      exact .of_short decoded (by omega) gone
    | whole there =>
      cases told
      have message : p.taken ++ p.held.take count = p.sent.take header.messageLength := by
        rw [← length, Pipe.sent, List.take_length_add_append]
      rw [message]
      exact .of_header decoded (by omega)

/-- A reading of `stream` that has got somewhere. -/
structure State.Sound (stream : Bytes) (x : State) : Prop where
  brings : x.pipe.Brings stream
  fits : ∀ reader, x.progress = .waiting reader → reader.Fits x.pipe.taken x.pipe.sent
  comes : ∀ result, x.progress = .done result → Comes x.pipe.sent x.pipe.ended result
  taken : ∀ message, x.progress = .done (.ok message) → x.pipe.taken = message

/-- What has come stays, and nothing comes behind the end. -/
theorem Comes.arrives (comes : Comes p.sent p.ended result) (brings : p.Brings stream)
    (arrives : p.Arrives stream p') : Comes p'.sent p'.ended result := by
  refine comes.grows arrives.sent_isPrefix fun gone => ?_
  have gone' := arrives.ended gone
  exact ⟨(brings.whole gone).trans (arrives.brings.whole gone').symm, gone'⟩

namespace State.Sound

theorem arrive {progress : RequestProgress} (sound : Sound stream ⟨progress, p⟩)
    (arrives : p.Arrives stream p') : Sound stream ⟨progress, p'⟩ where
  brings := arrives.brings
  fits reader waits := by
    show reader.Fits p'.taken p'.sent
    rw [arrives.taken]
    exact (sound.fits reader waits).grows arrives.sent_isPrefix
  comes result told := (sound.comes result told).arrives sound.brings arrives
  taken message told := arrives.taken.trans (sound.taken message told)

/-- **An answered call leaves the reader with what fits its bytes**, or with what they come to. -/
theorem call (sound : Sound stream ⟨.waiting reader, p⟩) (meets : reader.call.Meets p answer p') :
    Sound stream ⟨reader.resume answer, p'⟩ := by
  have fits := sound.fits reader rfl
  obtain ⟨-, waits, whole⟩ := fits.resume meets.gives
  obtain ⟨sent, ended⟩ := meets.same
  refine ⟨meets.brings sound.brings, waits, fun result told => ?_, fun message told => ?_⟩
  · show Comes p'.sent p'.ended result
    rw [sent, ended]
    exact comes_of_resume fits meets told
  · exact (whole message told).1

theorem start (unread : p.taken = []) (brings : p.Brings stream) :
    Sound stream ⟨.waiting .start, p⟩ where
  brings := brings
  fits := by rintro _ ⟨⟩; exact unread
  comes := nofun
  taken := nofun

theorem step (sound : Sound stream x) (step : Step stream x y) : Sound stream y := by
  cases step with
  | arrive arrives => exact sound.arrive arrives
  | call meets => exact sound.call meets

theorem run (sound : Sound stream x) (run : Run stream x y) : Sound stream y := by
  induction run with
  | refl => exact sound
  | tail _ step ih => exact ih.step step

end State.Sound

/-! ## Nothing more has to come -/

/-- Bytes that tell are there as far as their header, and as far as it declares, unless they have ended. -/
theorem Comes.there (comes : Comes sent ended result) : ended = true ∨ headerLength ≤ sent.length ∧
    ∀ header, Header.decode sent = .ok header → header.messageLength ≤ sent.length := by
  cases comes with
  | message is there =>
    subst is
    refine .inr ⟨Nat.le_add_left .., fun header opens => ?_⟩
    obtain ⟨flags, hi, lo, rest, is, length⟩ := Header.spelled_of_decode opens
    cases is
    rw [length]
    simp only [List.length_cons]
    omega
  | foreign is other =>
    subst is
    refine .inr ⟨Nat.le_add_left .., fun header opens => ?_⟩
    obtain ⟨flags, hi, lo, rest, is, -⟩ := Header.spelled_of_decode opens
    cases is
    exact absurd rfl other
  | closed short gone => exact .inl gone

/-- Once the bytes tell, a call waits for nothing. -/
theorem exists_meets (fits : reader.Fits p.taken p.sent) (comes : Comes p.sent p.ended result) :
    ∃ answer p', reader.call.Meets p answer p' := by
  have sent : p.sent.length = p.taken.length + p.held.length := by
    rw [Pipe.sent, List.length_append]
  cases reader with
  | peeking =>
    have unread : p.taken = [] := fits
    obtain ⟨answer, shows, all⟩ := p.exists_showsAll (show 0 < headerLength by decide)
    cases answer with
    | ok bytes => exact ⟨.ok bytes, p, shows, rfl⟩
    | error error =>
      obtain ⟨none, going⟩ := all
      rcases comes.there with gone | ⟨long, -⟩
      · rw [going] at gone
        cases gone
      · rw [Pipe.sent, unread, none] at long
        cases long
  | takingHeader =>
    have unread : p.taken = [] := fits
    refine p.exists_fetches headerLength (comes.there.symm.imp_left fun there => ?_)
    rw [← Pipe.sent_of_unread unread]
    exact there.1
  | takingRest taken count =>
    obtain ⟨rfl, opens, header, front, long, decoded, length⟩ := fits
    rw [← Header.decode_of_isPrefix front long] at decoded
    refine p.exists_fetches count (comes.there.symm.imp_left fun there => ?_)
    have := there.2 header decoded
    omega

theorem patience_resume_lt : (reader.resume answer).patience < reader.patience := by
  cases goes : reader.resume answer with
  | done result => cases reader <;> exact Nat.succ_pos _
  | waiting reader' => exact patience_resume goes

/-- **Once the bytes tell, nothing more has to come**: by induction on the answers that are still to be
taken. -/
theorem settles {progress : RequestProgress} {p : Pipe} (sound : State.Sound stream ⟨progress, p⟩)
    (comes : Comes p.sent p.ended result) : Settles stream result ⟨progress, p⟩ := by
  match progress, sound with
  | .done result', sound =>
    obtain rfl := (sound.comes result' rfl).unique comes
    exact .done
  | .waiting reader, sound =>
    refine .call (fun p' arrives => ?_) (fun p' answer p'' arrives meets => ?_)
    · exact exists_meets ((sound.arrive arrives).fits reader rfl) (comes.arrives sound.brings arrives)
    · have comes' := comes.arrives sound.brings arrives
      obtain ⟨sent, ended⟩ := meets.same
      rw [← sent, ← ended] at comes'
      exact settles ((sound.arrive arrives).call meets) comes'
termination_by progress.patience
decreasing_by exact patience_resume_lt

/-- **Every stream is framed alike.** What a stream that ends comes to is told by its bytes. However they
are cut up, and whatever calls are answered in between, a reading that is done has come to that, and to
what the bytes that have come so far come to; of a message it has taken all the bytes and left those
behind it; and as soon as the bytes that have come tell, nothing more has to come for it to be done. -/
theorem framed_alike (stream : Bytes) : ∃ result, Comes stream true result ∧
    ∀ (p : Pipe) (x : State), p.taken = [] → p.Brings stream → Run stream ⟨.waiting .start, p⟩ x →
      (∀ result', x.progress = .done result' →
        result' = result ∧ Comes x.pipe.sent x.pipe.ended result') ∧
      (∀ message, x.progress = .done (.ok message) →
        x.pipe.taken = message ∧ x.pipe.held = x.pipe.sent.drop message.length) ∧
      ∀ result', Comes x.pipe.sent x.pipe.ended result' → Settles stream result' x := by
  obtain ⟨result, whole⟩ := exists_comes stream
  refine ⟨result, whole, fun p x unread brings run => ?_⟩
  have sound := (State.Sound.start unread brings).run run
  refine ⟨fun result' told => ?_, fun message told => ?_, fun result' comes => settles sound comes⟩
  · have comes := sound.comes result' told
    have ends : Comes stream true result' :=
      comes.grows sound.brings.part fun gone => ⟨sound.brings.whole gone, rfl⟩
    exact ⟨ends.unique whole, comes⟩
  · have taken := sound.taken message told
    refine ⟨taken, ?_⟩
    rw [Pipe.sent, taken, List.drop_left]

/-- The header comes in two pieces, and the first look shows a part of the first one only. There are no
bytes to be taken behind it, and what is behind the message is left. -/
theorem framed_alike_split : ∃ x, Run [1, 0, 0, 0, 71] ⟨.waiting .start, {}⟩ x ∧
    x.progress = .done (.ok [1, 0, 0, 0]) ∧ x.pipe.taken = [1, 0, 0, 0] ∧ x.pipe.held = [71] := by
  have brings : Pipe.Brings {} [1, 0, 0, 0, 71] := ⟨by decide, nofun⟩
  have first : Pipe.Arrives [1, 0, 0, 0, 71] {} { held := [1, 0] } :=
    ⟨rfl, by decide, nofun, by decide, nofun⟩
  have second : Pipe.Arrives [1, 0, 0, 0, 71] { held := [1, 0] }
      { held := [1, 0, 0, 0, 71], ended := true } := ⟨rfl, by decide, nofun, by decide, fun _ => rfl⟩
  have look : peeking.call.Meets { held := [1, 0] } (.ok [1]) { held := [1, 0] } :=
    ⟨⟨by decide, by decide, nofun⟩, rfl⟩
  have header : takingHeader.call.Meets { held := [1, 0, 0, 0, 71], ended := true }
      (.ok [1, 0, 0, 0]) { taken := [1, 0, 0, 0], held := [71], ended := true } :=
    .whole (by decide)
  have rest : (takingRest [1, 0, 0, 0] 0).call.Meets
      { taken := [1, 0, 0, 0], held := [71], ended := true } (.ok [])
      { taken := [1, 0, 0, 0], held := [71], ended := true } := .whole (by decide)
  have run : Run [1, 0, 0, 0, 71] ⟨.waiting .start, {}⟩ _ :=
    .tail (.tail (.tail (.tail (.single (.arrive first)) (.call look)) (.arrive second)) (.call header))
      (.call rest)
  obtain ⟨result, -, reads⟩ := framed_alike [1, 0, 0, 0, 71]
  obtain ⟨-, taken, -⟩ := reads {} _ rfl brings run
  exact ⟨_, run, rfl, (taken _ rfl).1, (taken _ rfl).2⟩

end RequestReader

end TransportConverter
