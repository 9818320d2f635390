import TransportConverter.Proofs.Server.Sweep
import TransportConverter.Proofs.Server.Writing
/-!
# Sessions without a permit

A session that was accepted above the limit reads its request and refuses it (`Stage.Declines`). It never
gets as far as to connect, whatever becomes of the permits that others hold.
-/
namespace TransportConverter

namespace Stage

/-- A whole request has come in, and it decodes. -/
def Asks : (stage : Stage) → stage.Answer → Prop
  | reading reader, .inTime given => ∃ message m used,
    reader.resume given = .done (.ok message) ∧ Message.decode message = .ok (m, used)
  | _, _ => False

/-- What a session gives its client in a step. -/
def gives : (stage : Stage) → stage.Answer → Bytes
  | replying _ rest, .ok count | rejecting _ rest, .ok count => rest.take count
  | copying _ (.writing rest _), .inr (.ok count) => rest.take count
  | _, _ => []

/-- The client takes no more of a reply. -/
def Cuts : (stage : Stage) → stage.Answer → Prop
  | replying _ rest, answer | rejecting _ rest, answer => ∃ error, unwritten rest answer = .error error
  | _, _ => False

/-- What the client of a session without a permit is told about its request. -/
def refusal : Bytes := (Message.failure .resourceExceeded).wire

/-- If its request came in, the client has been refused, unless it took no more of the refusal. -/
def Concludes (asked cut : Prop) (said : Bytes) (error : ConverterError) : Prop :=
  asked → error = .rejected .resourceExceeded ∧ ∃ rest, said ++ rest = refusal ∧ (rest = [] ∨ cut)

/-- Where a session without a permit may be, when its request has come in if `asked`, its client has been
given `said` and takes no more if `cut`. -/
def Declines (asked cut : Prop) (said : Bytes) : Stage → Prop
  | arriving | entering | announcing | reading _ => ¬ asked ∧ said = []
  | rejecting error rest => asked → error = .rejected .resourceExceeded ∧ said ++ rest = refusal
  | armingReset error | marking error | leaving (.error error) | ended (.error error) =>
    Concludes asked cut said error
  | _ => False

variable {s : ConverterState} {k : Session} {stage : Stage} {asked cut : Prop} {said : Bytes}

/-- A session that fails before its request has come in may tell its client anything. -/
theorem declines_failing (unasked : ¬ asked) (error : ConverterError) :
    (failing error).Declines asked cut said := by
  rw [failing_eq]
  cases error.replyCode with
  | some code => exact fun claim => (unasked claim).elim
  | none => exact fun claim => (unasked claim).elim

theorem declines_refusal : (failing (.rejected .resourceExceeded)).Declines asked cut [] := by
  rw [failing_eq]
  exact fun _ => ⟨rfl, rfl⟩

/-- What is read leads to a refusal once it is a request. -/
theorem declines_request (unasked : ¬ asked) (config : ServerConfig) (reader : RequestReader)
    (given : Except IoError Bytes) : (request config false (reader.resume given)).Declines
      (asked ∨ (reading reader).Asks (.inTime given)) cut [] := by
  have none (not : ∀ message m used, reader.resume given = .done (.ok message) →
      Message.decode message ≠ .ok (m, used)) :
      ¬ (asked ∨ (reading reader).Asks (.inTime given)) := by
    rintro (before | ⟨message, m, used, whole, decoded⟩)
    · exact unasked before
    · exact not message m used whole decoded
  cases progress : reader.resume given with
  | waiting reader' => exact ⟨none (by simp [progress]), rfl⟩
  | done result =>
    cases result with
    | error error => exact declines_failing (none (by simp [progress])) error
    | ok message =>
      simp only [request, judged, ServerConfig.judge]
      cases decoded : Message.decode message with
      | error error =>
        refine declines_failing (none fun message' m used whole => ?_) _
        cases progress.symm.trans whole
        simp [decoded]
      | ok decoded => exact declines_refusal

/-- What has been concluded stays so. -/
theorem Concludes.later {error : ConverterError} {asks cuts : Prop}
    (concludes : Concludes asked cut said error) (unasked : ¬ asks) :
    Concludes (asked ∨ asks) (cut ∨ cuts) (said ++ []) error := by
  rw [List.append_nil]
  intro claim
  obtain ⟨same, rest, told, whole⟩ := concludes (claim.resolve_right unasked)
  exact ⟨same, rest, told, whole.imp_right .inl⟩

section rejecting

variable {error : ConverterError} {rest left : Bytes} {answer : Except IoError Nat} {failure : IoError}

theorem gives_of_unwritten_error (wrote : unwritten rest answer = .error failure) :
    (rejecting error rest).gives answer = [] := by
  cases answer with
  | error failure => rfl
  | ok count =>
    simp only [unwritten] at wrote
    split at wrote
    · rename_i none
      rw [none]
      rfl
    · cases wrote

theorem gives_append_of_unwritten (wrote : unwritten rest answer = .ok left) :
    (rejecting error rest).gives answer ++ left = rest := by
  cases answer with
  | error failure => cases wrote
  | ok count =>
    simp only [unwritten] at wrote
    split at wrote <;> cases wrote
    exact List.take_append_drop ..

end rejecting

/-- **A session without a permit goes nowhere but to its refusal.** -/
theorem Declines.resume (declines : stage.Declines asked cut said) (refused : k.permitted = false)
    (answer : stage.Answer) : (stage.resume s k answer).2.Declines (asked ∨ stage.Asks answer)
      (cut ∨ stage.Cuts answer) (said ++ stage.gives answer) := by
  cases stage with
  | arriving =>
    obtain ⟨unasked, rfl⟩ := declines
    cases answer with
    | ok => exact ⟨by simpa [Asks] using unasked, rfl⟩
    | error error => exact fun claim => (unasked (by simpa [Asks] using claim)).elim
  | entering =>
    obtain ⟨unasked, rfl⟩ := declines
    simp only [Stage.resume]
    split
    · exact ⟨by simpa [Asks] using unasked, rfl⟩
    · exact fun claim => (unasked (by simpa [Asks] using claim)).elim
  | announcing =>
    obtain ⟨unasked, rfl⟩ := declines
    exact ⟨by simpa [Asks] using unasked, rfl⟩
  | reading reader =>
    obtain ⟨unasked, rfl⟩ := declines
    cases answer with
    | late =>
      simp only [Stage.resume]
      exact declines_failing (by simpa [Asks] using unasked) _
    | inTime given =>
      simp only [Stage.resume, refused]
      exact declines_request unasked s.config reader given
  | rejecting error rest =>
    have claims : asked ∨ (rejecting error rest).Asks answer → asked := by simp [Asks]
    cases wrote : unwritten rest answer with
    | error failure =>
      simp only [Stage.resume, wrote]
      intro claim
      obtain ⟨rfl, told⟩ := declines (claims claim)
      refine ⟨rfl, rest, ?_, .inr (.inr ⟨failure, wrote⟩)⟩
      rw [gives_of_unwritten_error wrote, List.append_nil, told]
    | ok left =>
      have split : said ++ (rejecting error rest).gives answer ++ left = said ++ rest := by
        rw [List.append_assoc, gives_append_of_unwritten wrote]
      cases left with
      | nil =>
        simp only [Stage.resume, wrote]
        intro claim
        obtain ⟨rfl, told⟩ := declines (claims claim)
        exact ⟨rfl, [], split.trans told, .inl rfl⟩
      | cons byte left =>
        simp only [Stage.resume, wrote]
        intro claim
        obtain ⟨rfl, told⟩ := declines (claims claim)
        exact ⟨rfl, split.trans told⟩
  | armingReset error => exact Concludes.later declines id
  | marking error => exact Concludes.later declines id
  | leaving result =>
    cases result with
    | ok => exact declines.elim
    | error error => exact Concludes.later declines id
  | _ => first | exact declines.elim | cases answer

/-- It does not connect. -/
theorem Declines.not_connect (declines : stage.Declines asked cut said) (config : ServerConfig)
    (destination : SocketAddress) (within : Duration) :
    .connect destination within ∉ stage.calls config := by
  intro mem
  rw [(connect_mem_calls_iff.1 mem).1] at declines
  exact declines

/-- **Its client is told of the limit**, and nothing else. -/
theorem Declines.told (declines : stage.Declines asked cut said) (asks : asked) :
    ∃ rest, said ++ rest = refusal ∧ (stage = rejecting (.rejected .resourceExceeded) rest ∨
      stage.FailedFor (.rejected .resourceExceeded) ∧ (rest = [] ∨ cut)) := by
  have concluded {error : ConverterError} (concludes : Concludes asked cut said error) :
      error = .rejected .resourceExceeded ∧ ∃ rest, said ++ rest = refusal ∧ (rest = [] ∨ cut) :=
    concludes asks
  cases stage with
  | arriving => exact (declines.1 asks).elim
  | entering => exact (declines.1 asks).elim
  | announcing => exact (declines.1 asks).elim
  | reading reader => exact (declines.1 asks).elim
  | rejecting error rest =>
    obtain ⟨rfl, told⟩ := declines asks
    exact ⟨rest, told, .inl rfl⟩
  | armingReset error =>
    obtain ⟨rfl, rest, told, whole⟩ := concluded declines
    exact ⟨rest, told, .inr ⟨rfl, whole⟩⟩
  | marking error =>
    obtain ⟨rfl, rest, told, whole⟩ := concluded declines
    exact ⟨rest, told, .inr ⟨rfl, whole⟩⟩
  | leaving result =>
    cases result with
    | ok => exact declines.elim
    | error error =>
      obtain ⟨rfl, rest, told, whole⟩ := concluded declines
      exact ⟨rest, told, .inr ⟨rfl, whole⟩⟩
  | ended result =>
    cases result with
    | ok => exact declines.elim
    | error error =>
      obtain ⟨rfl, rest, told, whole⟩ := concluded declines
      exact ⟨rest, told, .inr ⟨rfl, whole⟩⟩
  | _ => exact declines.elim

end Stage

namespace Server

/-- What the session with this number gives its client in a step. -/
def Event.gives (id : Nat) : Event → Bytes
  | advanced k answer => if k.id = id then k.stage.gives answer else []
  | _ => []

/-- What the session has given its client. -/
def given (id : Nat) (log : List Event) : Bytes := log.flatMap (·.gives id)

/-- A whole request has come in at the session, and it decodes. -/
def Asked (id : Nat) : List Event → Prop := Did id Stage.Asks

/-- The session's client took no more of a reply. -/
def Cut (id : Nat) : List Event → Prop := Did id Stage.Cuts

theorem given_advanced {id : Nat} {k : Session} {answer : k.stage.Answer} {log : List Event} :
    given id (log ++ [.advanced k answer]) =
      given id log ++ if k.id = id then k.stage.gives answer else [] := by
  simp [given, Event.gives]

theorem given_idle {id : Nat} {event : Event} {log : List Event}
    (idle : ∀ k answer, event ≠ .advanced k answer) : given id (log ++ [event]) = given id log := by
  have none : event.gives id = [] := by
    cases event with
    | advanced k answer => exact (idle k answer rfl).elim
    | _ => rfl
  simp [given, none]

namespace World

variable {w w' : World} {log log' : List Event} {division : Division} {id : Nat}

/-- The session with this number has no permit, and keeps to that. -/
def Declines (id : Nat) (log : List Event) (w : World) : Prop :=
  ∃ k ∈ w.server.sessions, k.id = id ∧ k.permitted = false ∧
    k.stage.Declines (Asked id log) (Cut id log) (given id log)

/-- A connection that is accepted above the limit. -/
theorem declines_accept (full : w.server.permits = 0) (handle : Handle)
    (clientAddress : SocketAddress) :
    (w.accept handle clientAddress).Declines w.server.accepted [] := by
  refine ⟨_, List.mem_append_right _ (.head _), rfl, ?_, not_did_nil, rfl⟩
  simp [full]

theorem Declines.step {event : Event} (declines : w.Declines id log) (sound : w.Sound log')
    (step : Step division w event w') : w'.Declines id (log ++ [event]) := by
  obtain ⟨k, mem, rfl, refused, stands⟩ := declines
  rcases acts_of_step step with
    ⟨handle, clientAddress, rfl, rfl⟩ | ⟨k', mem', answer, rfl, rfl⟩ | ⟨still, idle⟩
  · refine ⟨k, List.mem_append_left _ mem, rfl, refused, ?_⟩
    have idle : ∀ k answer, Event.accepted handle clientAddress ≠ .advanced k answer :=
      fun _ _ own => by cases own
    rwa [Asked, Cut, did_idle idle, did_idle idle, given_idle idle]
  · by_cases own : k'.id = k.id
    · obtain rfl := sound.eq_of_id mem' mem own
      refine ⟨_, (sound.mem_advance mem' answer).2 (.inl rfl), rfl, refused, ?_⟩
      rw [Asked, Cut, did_advanced, did_advanced, given_advanced, if_pos rfl,
        and_iff_right rfl, and_iff_right rfl]
      exact stands.resume refused answer
    · refine ⟨k, (sound.mem_advance mem' answer).2 (.inr ⟨mem, Ne.symm own⟩), rfl, refused, ?_⟩
      rwa [Asked, Cut, did_other own, did_other own, given_advanced, if_neg own, List.append_nil]
  · refine ⟨k, still.sessions ▸ mem, rfl, refused, ?_⟩
    rwa [Asked, Cut, did_idle idle, did_idle idle, given_idle idle]

/-- **A session without a permit declines for as long as it runs.** -/
theorem Declines.run {rule : World → Event → Prop} (declines : w.Declines id []) (sound : w.Sound log)
    (run : Run division rule w log' w') : w'.Declines id log' := by
  induction run with
  | start => exact declines
  | step before _ next ih => exact ih.step (sound.run before) next

end World

end Server

end TransportConverter
