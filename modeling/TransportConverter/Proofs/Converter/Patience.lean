import TransportConverter.Proofs.Converter.Advance
/-!
# A session answers its client

A client is told something after at most sixteen stages of a session that is tracked. Every answer
takes the session nearer to that (`Stage.patience_resume`), and as long as the client has not been
told there is a stage to come (`Session.exists_advance`).
-/
namespace TransportConverter

open Session

/-- How many answers a reader takes at most. -/
def RequestReader.patience : RequestReader → Nat
  | peeking => 3
  | takingHeader => 2
  | takingRest .. => 1

theorem RequestReader.patience_resume {reader reader' : RequestReader}
    {given : Except IoError Bytes} (waits : reader.resume given = .waiting reader') :
    reader'.patience < reader.patience := by
  have expected {header taken : Bytes} (waits : expect header taken = .waiting reader') :
      reader'.patience = 1 := by
    unfold expect at waits
    split at waits <;> cases waits
    rfl
  cases given with
  | error error => cases reader <;> cases waits
  | ok bytes =>
    cases reader with
    | peeking =>
      simp only [resume] at waits
      split at waits
      · cases waits
      · split at waits
        · cases waits
          decide
        · rw [expected waits]
          decide
    | takingHeader =>
      rw [expected waits]
      decide
    | takingRest taken count => cases waits

namespace Stage

/-- The client is still to be told something. -/
def answering : Stage → Bool
  | arriving | entering | announcing | reading _ | admitted _ | connecting _ | connected _
  | replying .. | rejecting .. => true
  | duplicating _ | linking _ | recording _ | bridged | stopping _ | copying .. | counting ..
  | ending .. | halfClosing .. | finishing _ | armingReset _ | marking _ | leaving _ | ended _ =>
    false

/-- How many stages there are at most before the client has been told, this one among them. -/
def patience : Stage → Nat
  | arriving => 18
  | entering => 17
  | announcing => 16
  | reading reader => 12 + reader.patience
  | admitted _ => 12
  | connecting _ => 11
  | connected _ => 10
  | replying _ rest | rejecting _ rest => rest.length + 1
  | duplicating _ | linking _ | recording _ | bridged | stopping _ | copying .. | counting ..
  | ending .. | halfClosing .. | finishing _ | armingReset _ | marking _ | leaving _ | ended _ => 0

theorem answering_iff_patience (stage : Stage) : stage.answering = true ↔ 0 < stage.patience := by
  cases stage with
  | reading reader => exact iff_of_true rfl (Nat.add_pos_left (by decide) _)
  | _ => simp [answering, patience]

theorem patience_failing (error : ConverterError) : (failing error).patience ≤ 9 := by
  rw [failing_eq]
  cases error.replyCode with
  | some code => exact Nat.le_refl 9
  | none => exact Nat.zero_le 9

theorem patience_request (config : ServerConfig) (permitted : Bool) {progress : RequestProgress}
    {n : Nat} (waits : ∀ reader, progress = .waiting reader → reader.patience ≤ n) :
    (request config permitted progress).patience ≤ 12 + n := by
  have failed (error : ConverterError) : (failing error).patience ≤ 12 + n :=
    (patience_failing error).trans (by omega)
  cases progress with
  | waiting reader => exact Nat.add_le_add_left (waits reader rfl) 12
  | done result =>
    cases result with
    | error error => exact failed error
    | ok message =>
      show (judged config permitted message).patience ≤ _
      unfold judged
      split
      · exact Nat.le_add_right 12 n
      · exact failed _

theorem length_unwritten {rest left : Bytes} {answer : Except IoError Nat}
    (ok : unwritten rest answer = .ok left) : left.length ≤ rest.length - 1 := by
  cases answer with
  | error error => cases ok
  | ok count =>
    simp only [unwritten] at ok
    split at ok
    · cases ok
    · cases ok
      rw [List.length_drop]
      omega

variable {s s' : ConverterState} {k : Session} {stage stage' : Stage} {answer : stage.Answer}

/-- **Every answer takes a session one stage nearer to where the client has been told**, and never
back from there. -/
theorem patience_resume (resumed : stage.resume s k answer = (s', stage')) :
    stage'.patience ≤ stage.patience - 1 := by
  cases stage with
  | arriving =>
    cases answer <;> cases resumed
    · exact Nat.zero_le _
    · exact Nat.le_refl _
  | entering =>
    simp only [resume] at resumed
    split at resumed <;> cases resumed
    · exact Nat.le_refl _
    · exact Nat.zero_le _
  | announcing =>
    cases resumed
    exact Nat.le_refl _
  | reading reader =>
    cases answer with
    | late =>
      cases resumed
      exact (patience_failing _).trans (by simp only [patience]; omega)
    | inTime given =>
      cases resumed
      have fewer : 0 < reader.patience := by cases reader <;> exact Nat.succ_pos _
      rw [patience, Nat.add_sub_assoc fewer]
      refine patience_request _ _ fun reader' waits => ?_
      exact Nat.le_sub_one_of_lt (RequestReader.patience_resume waits)
  | admitted destination =>
    cases resumed
    exact Nat.le_refl _
  | connecting destination =>
    obtain ⟨-, ⟨outbound, rfl⟩ | ⟨error, rfl⟩⟩ := resume_connecting resumed
    · exact Nat.le_refl _
    · exact (patience_failing _).trans (Nat.le_succ 9)
  | connected outbound =>
    obtain ⟨-, rfl | rfl⟩ := resume_connected resumed
    · exact patience_failing _
    · exact Nat.le_add_left 5 4
  | replying outbound rest =>
    simp only [resume] at resumed
    split at resumed
    · cases resumed
      exact Nat.zero_le _
    · rename_i left more ok
      cases resumed
      have shorter := length_unwritten ok
      have := List.length_pos_iff.2 more
      simp only [patience]
      omega
    · cases resumed
      rw [failing_eq]
      exact Nat.zero_le _
  | rejecting error rest =>
    simp only [resume] at resumed
    split at resumed
    · cases resumed
      exact Nat.zero_le _
    · cases resumed
      exact Nat.zero_le _
    · rename_i left more ok
      cases resumed
      have shorter := length_unwritten ok
      have := List.length_pos_iff.2 more
      simp only [patience]
      omega
  | copying upward downward =>
    have copied (d : Direction) (wait : Copy → Copy × Copy) (progress : CopyProgress) :
        (copied d wait progress).patience = 0 := by
      cases progress <;> rfl
    cases answer <;> cases resumed <;> rw [copied] <;> exact Nat.zero_le _
  | linking outbound =>
    obtain ⟨table, -, -, rfl⟩ | ⟨error, -, rfl⟩ := resume_linking resumed <;> exact Nat.zero_le _
  | bridged =>
    obtain ⟨-, ⟨sides, rfl⟩ | rfl⟩ := resume_bridged resumed <;> exact Nat.zero_le _
  | stopping sides =>
    obtain ⟨-, ⟨sides', rfl⟩ | rfl⟩ := resume_stopping resumed <;> exact Nat.zero_le _
  | duplicating outbound => cases answer <;> cases resumed <;> exact Nat.zero_le _
  | halfClosing d upward downward =>
    cases resumed
    unfold bridging
    split <;> exact Nat.zero_le _
  | ended result => cases answer
  | _ =>
    cases resumed
    exact Nat.zero_le _

end Stage

namespace Session

variable {w w' : World}

theorem exists_step (answer : w.session.stage.Answer) {lanes : Lanes}
    (moves : w.session.stage.Moves w.shared.config w.lanes answer lanes) :
    ∃ w', Step w (.advanced w.session.stage answer) w' := ⟨_, .advance answer moves rfl⟩

/-- As long as the client is still to be told something, there is a next stage. -/
theorem exists_advance (answering : w.session.stage.answering = true) :
    ∃ answer w', Step w (.advanced w.session.stage answer) w' := by
  obtain ⟨shared, ⟨n, handle, address, permitted, stage⟩, lanes⟩ := w
  dsimp only at answering ⊢
  have goes (answer : stage.Answer) {lanes' : Lanes}
      (moves : stage.Moves shared.config lanes answer lanes') :
      ∃ answer w', Step ⟨shared, ⟨n, handle, address, permitted, stage⟩, lanes⟩
        (.advanced stage answer) w' :=
    ⟨answer, exists_step (w := ⟨shared, ⟨n, handle, address, permitted, stage⟩, lanes⟩) answer
      moves⟩
  cases stage with
  | arriving => exact goes (.ok ()) rfl
  | entering => exact goes () rfl
  | announcing => exact goes () rfl
  | reading reader => exact goes .late ⟨0, rfl⟩
  | admitted destination => exact goes () rfl
  | connecting destination => exact goes .late rfl
  | connected outbound => exact goes () rfl
  | replying outbound rest => exact goes (.error (.bare .writeZero)) ⟨_, .fails _, rfl⟩
  | rejecting error rest => exact goes (.error (.bare .writeZero)) ⟨_, .fails _, rfl⟩
  | _ => cases answering

/-- The answer comes nearer with every answer to the session. -/
theorem patience_step {event : Event} (table : w.shared.table.Sound) (step : Step w event w') :
    w'.session.stage.patience ≤ w.session.stage.patience - if event.own then 1 else 0 := by
  cases own : event.own with
  | true =>
    cases step with
    | advance answer moves resumed => exact Stage.patience_resume resumed
    | _ => cases own
  | false =>
    obtain ⟨-, same, -⟩ := step.around table own
    rw [same]
    exact Nat.le_refl _

end Session

end TransportConverter
