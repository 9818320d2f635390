import TransportConverter.Proofs.Converter.Checks
import TransportConverter.Proofs.Converter.Moving
/-!
# What a session finds out

Every answer to a session may show something that its own answer depends on (`Stage.finds`): what
became of the request, what came of connecting to the destination, whether the converter is shutting
down. It is read off what the connections give and off the flag, without a look at what the session
makes of it. A run is told here with all that is found out in it (`Session.Learns`).

What is found of a request is what the client has sent (`Session.Learns.arrival`), and a reader is
done with it exactly then (`RequestReader.shows_resume`).
-/
namespace TransportConverter

open Session

/-! ## What a session finds out -/

/-- What the answer to a reader shows of the request. -/
def RequestReader.finds : RequestReader → Except IoError Bytes → Option Arrival
  | _, .error _ => some .lost
  | takingRest taken _, .ok rest => some (.whole (taken ++ rest))
  | peeking, .ok header | takingHeader, .ok header =>
    if header = [] then some .lost
    else if headerLength ≤ header.length ∧ header.head? ≠ some protocolVersion then
      some (.foreign header)
    else none

/-- What the answer to a part of the reply shows. -/
def Session.Findings.sending (f : Findings) : Except IoError Nat → Findings
  | .ok (_ + 1) => f
  | .ok 0 | .error _ => { f with cut := true }

/-- What a session finds out with an answer. -/
def Stage.finds (s : ConverterState) (f : Findings) : (stage : Stage) → stage.Answer → Findings
  | reading _, .late => { f with arrival? := some .late }
  | reading reader, .inTime given => { f with arrival? := reader.finds given }
  | connecting destination, outcome => { f with attempts := f.attempts ++ [(destination, outcome)] }
  | connected _, () => { f with draining? := some s.draining }
  | replying .., answer | rejecting .., answer => f.sending answer
  | _, _ => f

namespace Session

/-- What is known after an event. -/
def Findings.after (f : Findings) (w : World) : Event → Findings
  | .advanced stage answer => stage.finds w.shared f answer
  | .arrived .. | .finished _ | .stopped _ | .drawn .. | .disturbed => f

/-- A run, and what the session finds out in it. -/
inductive Learns (w : World) : List Event → Findings → World → Prop
  | start : Learns w [] {} w
  | step {log : List Event} {f : Findings} {w' w'' : World} {event : Event}
      (learns : Learns w log f w') (step : Step w' event w'') :
      Learns w (log ++ [event]) (f.after w' event) w''

/-- Something is found out in every run. -/
theorem Run.learns {w w' : World} {log : List Event} (run : Run w log w') :
    ∃ f, Learns w log f w' := by
  induction run with
  | start => exact ⟨_, .start⟩
  | step run step ih =>
    obtain ⟨f, learns⟩ := ih
    exact ⟨_, learns.step step⟩

/-- What an arrival means for the bytes that the client has sent. -/
def Arrival.Of (sent : Bytes) : Arrival → Prop
  | whole message => message <+: sent ∧
      ∃ header, Header.decode message = .ok header ∧ header.messageLength = message.length
  | foreign header => header <+: sent ∧ header.length = headerLength ∧
      header.head? ≠ some protocolVersion
  | late | lost => True

end Session

/-! ## Reading a request -/

/-- Where a reader has got to when this was found. -/
def RequestProgress.Shows (progress : RequestProgress) : Option Arrival → Prop
  | none => ∃ reader, progress = .waiting reader
  | some (.whole message) => progress = .done (.ok message)
  | some (.foreign _) => ∃ version,
      progress = .done (.error (.decode (.unsupportedVersion version)))
  | some .late => False
  | some .lost => ∃ error, progress = .done (.error error) ∧ error.replyCode = none

namespace RequestReader

/-- A header is of the one version, or is not read on. -/
theorem shows_expect {header : Bytes} (long : headerLength ≤ header.length) (taken : Bytes) :
    (expect header taken).Shows
      (if header.head? ≠ some protocolVersion then some (.foreign header) else none) := by
  match header, long with
  | version :: flags :: hi :: lo :: rest, _ =>
    by_cases same : version = protocolVersion <;>
      simp [RequestProgress.Shows, expect, Header.decode, same]

variable {reader : RequestReader} {source source' : Pipe} {answer : Except IoError Bytes}

/-- A client that is gone is told nothing. -/
theorem replyCode_closedOnEof (error : IoError) : (closedOnEof error).replyCode = none := by
  unfold closedOnEof
  split <;> rfl

/-- **A reader is done when something is found**, and with what is found. -/
theorem shows_resume (gives : reader.call.Gives source answer source') :
    (reader.resume answer).Shows (reader.finds answer) := by
  cases reader with
  | peeking =>
    cases answer with
    | error error => exact ⟨_, rfl, rfl⟩
    | ok header =>
      by_cases none : header = []
      · subst none
        exact ⟨_, rfl, rfl⟩
      by_cases long : headerLength ≤ header.length
      · have shows' := shows_expect long []
        simpa [finds, resume, none, long, Nat.not_lt.2 long] using shows'
      · simp [RequestProgress.Shows, finds, resume, none, long, Nat.lt_of_not_le long]
  | takingHeader =>
    cases gives with
    | fails lost error => exact ⟨_, rfl, replyCode_closedOnEof error⟩
    | whole there =>
      have length : (source.held.take headerLength).length = headerLength :=
        List.length_take_of_le there
      have some : source.held.take headerLength ≠ [] := by
        rw [← List.length_pos_iff, length]
        decide
      have shows' := shows_expect (Nat.le_of_eq length.symm) (source.held.take headerLength)
      simpa only [finds, resume, some, length, Nat.le_refl, true_and, if_false] using shows'
  | takingRest taken count =>
    cases gives with
    | fails lost error => exact ⟨_, rfl, replyCode_closedOnEof error⟩
    | whole there => rfl

/-- Only a header that was seen as a whole is of another version. -/
theorem foreign_of_finds {header : Bytes} (found : reader.finds answer = some (.foreign header)) :
    answer = .ok header ∧ headerLength ≤ header.length ∧
      header.head? ≠ some protocolVersion ∧ ∀ taken count, reader ≠ takingRest taken count := by
  have seen {bytes : Bytes} (found : (if bytes = [] then some Arrival.lost
      else if headerLength ≤ bytes.length ∧ bytes.head? ≠ some protocolVersion then
        some (.foreign bytes)
      else none) = some (.foreign header)) :
      bytes = header ∧ headerLength ≤ header.length ∧ header.head? ≠ some protocolVersion := by
    split at found
    · cases found
    · split at found <;> cases found
      exact ⟨rfl, ‹_›⟩
  cases answer with
  | error error => cases reader <;> cases found
  | ok bytes =>
    cases reader with
    | peeking =>
      obtain ⟨rfl, long, other⟩ := seen found
      exact ⟨rfl, long, other, nofun⟩
    | takingHeader =>
      obtain ⟨rfl, long, other⟩ := seen found
      exact ⟨rfl, long, other, nofun⟩
    | takingRest taken count => cases found

/-- What is found is what the client has sent. -/
theorem Fits.finds (fits : reader.Fits source.taken source.sent)
    (gives : reader.call.Gives source answer source') {a : Arrival}
    (found : reader.finds answer = some a) : a.Of source'.sent := by
  obtain ⟨sent, -, whole⟩ := fits.resume gives
  have shown := shows_resume gives
  rw [found] at shown
  cases a with
  | late => trivial
  | lost => trivial
  | whole message =>
    obtain ⟨taken, framed⟩ := whole message shown
    exact ⟨taken ▸ source'.taken_isPrefix, framed⟩
  | foreign header =>
    obtain ⟨rfl, long, other, early⟩ := foreign_of_finds found
    rw [sent]
    -- at most as many bytes as a header has were asked for, and nothing was taken before them
    have front {count : Nat} (none : source.taken = []) :
        source.held.take count <+: source.sent := by
      rw [Pipe.sent, none, List.nil_append]
      exact List.take_prefix ..
    cases reader with
    | peeking =>
      obtain ⟨peeks, -⟩ := gives
      cases peeks with
      | eof exhausted => cases long
      | piece count some fits' there =>
        have length := List.length_take_of_le there
        exact ⟨front fits, by omega, other⟩
    | takingHeader =>
      cases gives with
      | whole there => exact ⟨front fits, List.length_take_of_le there, other⟩
    | takingRest taken count => exact absurd rfl (early taken count)

end RequestReader

namespace Session

variable {w w' : World} {log : List Event} {f : Findings}

theorem Arrival.Of.grows {a : Arrival} {sent sent' : Bytes} (of : a.Of sent)
    (grows : sent <+: sent') : a.Of sent' := by
  cases a with
  | whole message => exact ⟨of.1.trans grows, of.2⟩
  | foreign header => exact ⟨of.1.trans grows, of.2⟩
  | late => trivial
  | lost => trivial

/-- Nothing is found out where the session is not answered. -/
theorem Findings.after_of_others {event : Event} (others : event.own = false) :
    f.after w event = f := by
  cases event with
  | advanced stage answer => cases others
  | _ => rfl

/-- Sending is cut where nothing more is taken. -/
theorem Findings.sending_eq (f : Findings) (rest : Bytes) (answer : Except IoError Nat) :
    match unwritten rest answer with
    | .ok _ => f.sending answer = f
    | .error _ => f.sending answer = { f with cut := true } := by
  rcases answer with error | _ | count <;> rfl

/-- What becomes of the request is found by reading it, and never again. -/
theorem arrival?_finds (s : ConverterState) (f : Findings) (stage : Stage) (answer : stage.Answer) :
    (stage.finds s f answer).arrival? = f.arrival? ∨
      ∃ reader, stage = .reading reader := by
  cases stage with
  | reading reader => exact .inr ⟨reader, rfl⟩
  | replying outbound rest => rcases answer with _ | _ | _ <;> exact .inl rfl
  | rejecting error rest => rcases answer with _ | _ | _ <;> exact .inl rfl
  | _ => exact .inl rfl

/-- What is known of the request is what the client has sent. -/
def World.Received (w : World) (f : Findings) : Prop :=
  ∀ a, f.arrival? = some a → a.Of (w.lanes .upward).source.sent

theorem World.Received.step {event : Event} (received : w.Received f) (sound : w.Sound)
    (step : Step w event w') : w'.Received (f.after w event) := by
  cases own : event.own with
  | false =>
    obtain ⟨frame, -, -⟩ := step.around sound.table own
    intro a found
    rw [Findings.after_of_others own] at found
    exact (received a found).grows (frame.grows .upward).source
  | true =>
    cases step with
    | advance answer moves resumed =>
      obtain ⟨shared, ⟨n, handle, address, permitted, stage⟩, lanes⟩ := w
      have stands := sound.stands
      dsimp only at answer moves resumed stands
      have sent := (moves.moved .upward).source.sent
      intro a found
      rcases arrival?_finds shared f stage answer with same | ⟨reader, rfl⟩
      · rw [Findings.after, same] at found
        dsimp only
        rw [sent]
        exact received a found
      · obtain ⟨-, taken, begins, fits⟩ := stands
        obtain rfl : (lanes .upward).source.taken = taken := begins.1.taken
        cases answer with
        | late =>
          cases found
          trivial
        | inTime given =>
          obtain ⟨source, gives, rfl⟩ := moves
          dsimp only
          rw [Lanes.withSource_self]
          exact fits.finds gives found
    | _ => cases own

end Session

end TransportConverter
