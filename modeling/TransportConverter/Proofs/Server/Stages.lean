import TransportConverter.Proofs.Converter.Advance
import TransportConverter.Proofs.Server.Run
/-!
# Where a session goes

The ways of a session through its stages (`Stage.Leads`), without what it does to the table on them, and
what they say of the shutdown flag and of the session's sockets.
-/
namespace TransportConverter

namespace Stage

/-- The client has not been answered, and may be refused yet. -/
def opening : Stage → Bool
  | reading _ | connecting _ | connected _ | replying .. => true
  | _ => false

/-- A direction goes on, or one has just ended. -/
def copies : Stage → Bool
  | copying .. | counting .. | ending .. | halfClosing .. => true
  | _ => false

/-- The session has found the flag down and told its client that the destination is connected. -/
def passed : Stage → Bool
  | replying .. | duplicating _ | linking _ | recording _ | bridged | stopping _ | copying ..
  | counting .. | ending .. | halfClosing .. | finishing _ => true
  | _ => false

/-- The bridge is recorded, and the session has still to see to the flag. -/
def registering : Stage → Bool
  | bridged | stopping _ => true
  | _ => false

/-- The handle of the destination's socket, before the bridge is recorded. -/
def outbound? : Stage → Option Handle
  | connected outbound | replying outbound _ | duplicating outbound | linking outbound
  | recording outbound => some outbound
  | _ => none

/-- The session is at its end. -/
def hasEnded : Stage → Bool
  | ended _ => true
  | _ => false

/-- Every way that there is from a stage with an answer to another. -/
inductive Leads (s : ConverterState) : (stage : Stage) → stage.Answer → Stage → Prop
  | arrive : Leads s arriving (.ok ()) entering
  | vanish (error : IoError) : Leads s arriving (.error error) (ended (.error (.io error)))
  | enter : Leads s entering () announcing
  | barred (error : RegistryError) : Leads s entering () (ended (.error (.registry error)))
  | announce : Leads s announcing () (reading .start)
  | read {reader reader' : RequestReader} {answer : (reading reader).Answer} :
      Leads s (reading reader) answer (reading reader')
  | grant {reader : RequestReader} {answer : (reading reader).Answer}
      {destination : SocketAddress} : Leads s (reading reader) answer (admitted destination)
  | connect {destination : SocketAddress} :
      Leads s (admitted destination) () (connecting destination)
  | reach {destination : SocketAddress} {outbound : Handle} :
      Leads s (connecting destination) (.inTime (.ok outbound)) (connected outbound)
  | refuse {stage : Stage} {answer : stage.Answer} {error : ConverterError} {reply : Bytes}
      (opening : stage.opening = true) : Leads s stage answer (rejecting error reply)
  | drop {stage : Stage} {answer : stage.Answer} {error : ConverterError}
      (opening : stage.opening = true) : Leads s stage answer (marking error)
  | pass {outbound : Handle} (down : s.draining = false) :
      Leads s (connected outbound) () (replying outbound Message.empty.wire)
  | send {outbound : Handle} {rest rest' : Bytes} {answer : (replying outbound rest).Answer} :
      Leads s (replying outbound rest) answer (replying outbound rest')
  | sent {outbound : Handle} {rest : Bytes} {answer : (replying outbound rest).Answer} :
      Leads s (replying outbound rest) answer (duplicating outbound)
  | duplicate {outbound : Handle} : Leads s (duplicating outbound) (.ok ()) (linking outbound)
  | strand {outbound : Handle} (error : IoError) :
      Leads s (duplicating outbound) (.error error) (ended (.error (.io error)))
  | link {outbound : Handle} : Leads s (linking outbound) () (recording outbound)
  | unlinked {outbound : Handle} (error : RegistryError) :
      Leads s (linking outbound) () (leaving (.error (.registry error)))
  | record {outbound : Handle} : Leads s (recording outbound) () bridged
  | stop (raised : s.draining = true) : Leads s bridged () (stopping [.client, .destination])
  | begin (down : s.draining = false) : Leads s bridged () (copying .reading .reading)
  | stopNext {side side' : Side} {sides : List Side}
      {answer : (stopping (side :: side' :: sides)).Answer} :
      Leads s (stopping (side :: side' :: sides)) answer (stopping (side' :: sides))
  | stopped {sides : List Side} {answer : (stopping sides).Answer} (last : sides.tail = []) :
      Leads s (stopping sides) answer (copying .reading .reading)
  | copy {stage stage' : Stage} {answer : stage.Answer} (before : stage.copies = true)
      (after : stage'.copies = true) : Leads s stage answer stage'
  | finish {stage : Stage} {answer : stage.Answer} {result : Except ConverterError Unit}
      (before : stage.copies = true) : Leads s stage answer (finishing result)
  | finished {result : Except ConverterError Unit} : Leads s (finishing result) () (leaving result)
  | reject {error : ConverterError} {rest rest' : Bytes} {answer : (rejecting error rest).Answer}
      (part : rest' <:+ rest) : Leads s (rejecting error rest) answer (rejecting error rest')
  | rejected {error : ConverterError} {rest : Bytes} {answer : (rejecting error rest).Answer} :
      Leads s (rejecting error rest) answer (armingReset error)
  | armed {error : ConverterError} {answer : (armingReset error).Answer} :
      Leads s (armingReset error) answer (marking error)
  | marked {error : ConverterError} : Leads s (marking error) () (leaving (.error error))
  | leave {result : Except ConverterError Unit} : Leads s (leaving result) () (ended result)

variable {s : ConverterState} {k : Session} {stage : Stage}

theorem leads_failing (stage : Stage) (answer : stage.Answer) (opening : stage.opening = true)
    (error : ConverterError) : Leads s stage answer (failing error) := by
  rw [failing_eq]
  cases error.replyCode with
  | some code => exact .refuse opening
  | none => exact .drop opening

theorem leads_request (reader : RequestReader) (answer : (reading reader).Answer)
    (config : ServerConfig) (permitted : Bool) (progress : RequestProgress) :
    Leads s (reading reader) answer (request config permitted progress) := by
  cases progress with
  | waiting reader => exact .read
  | done result =>
    cases result with
    | error error => exact leads_failing (reading reader) answer rfl error
    | ok message =>
      simp only [request, judged]
      split
      · exact .grant
      · exact leads_failing (reading reader) answer rfl _

theorem leads_copied (upward downward : Copy) (answer : (copying upward downward).Answer)
    (d : Direction) (wait : Copy → Copy × Copy) (progress : CopyProgress) :
    Leads s (copying upward downward) answer (copied d wait progress) := by
  cases progress with
  | waiting copy => exact .copy rfl rfl
  | moved count => exact .copy rfl rfl
  | sourceEnded => exact .copy rfl rfl
  | failed error => exact .finish rfl

/-- **A session goes no other ways.** -/
theorem leads_resume (answer : stage.Answer) : Leads s stage answer (stage.resume s k answer).2 := by
  cases stage with
  | arriving =>
    cases answer with
    | ok => exact .arrive
    | error error => exact .vanish error
  | entering =>
    simp only [resume]
    split
    · exact .enter
    · exact .barred _
  | announcing => exact .announce
  | reading reader =>
    cases answer with
    | late =>
      simp only [resume]
      exact leads_failing (reading reader) .late rfl _
    | inTime answer => exact leads_request reader (.inTime answer) ..
  | admitted destination => exact .connect
  | connecting destination =>
    cases answer with
    | late =>
      simp only [resume]
      exact leads_failing (connecting destination) .late rfl _
    | inTime answer =>
      cases answer with
      | ok outbound => exact .reach
      | error error =>
        simp only [resume]
        exact leads_failing (connecting destination) (.inTime (.error error)) rfl _
  | connected outbound =>
    simp only [resume]
    split
    · exact leads_failing (connected outbound) () rfl _
    · rename_i down
      rw [succeeding_eq]
      exact .pass (by simpa using down)
  | replying outbound rest =>
    simp only [resume]
    split
    · exact .sent
    · exact .send
    · dsimp only
      exact leads_failing (replying outbound rest) answer rfl _
  | duplicating outbound =>
    cases answer with
    | ok => exact .duplicate
    | error error => exact .strand error
  | linking outbound =>
    simp only [resume]
    split
    · exact .link
    · exact .unlinked _
  | recording outbound => exact .record
  | bridged =>
    simp only [resume]
    split
    · rename_i raised
      exact .stop raised
    · rename_i down
      exact .begin (by simpa using down)
  | stopping sides =>
    cases sides with
    | nil => exact .stopped rfl
    | cons side sides =>
      cases sides with
      | nil => exact .stopped rfl
      | cons side' sides => exact .stopNext
  | copying upward downward =>
    cases answer with
    | inl answer =>
      simp only [resume]
      exact leads_copied upward downward (.inl answer) ..
    | inr answer =>
      simp only [resume]
      exact leads_copied upward downward (.inr answer) ..
  | counting d count upward downward => exact .copy rfl rfl
  | ending d upward downward => exact .copy rfl rfl
  | halfClosing d upward downward =>
    simp only [resume, Stage.bridging]
    split
    · exact .finish rfl
    · exact .copy rfl rfl
  | finishing result => exact .finished
  | rejecting error rest =>
    simp only [resume]
    split
    · exact .rejected
    · exact .rejected
    · rename_i left _ written
      refine .reject ?_
      cases answer with
      | error error => cases written
      | ok count =>
        rw [unwritten] at written
        split at written <;> cases written
        exact List.drop_suffix ..
  | armingReset error => exact .armed
  | marking error => exact .marked
  | leaving result => exact .leave
  | ended result => cases answer

namespace Leads

variable {stage' : Stage} {answer : stage.Answer}

theorem passed_of_copies (copies : stage.copies = true) : stage.passed = true := by
  cases stage <;> first | rfl | cases copies

/-- Nobody comes past a raised flag. -/
theorem passed (leads : Leads s stage answer stage') (passed : stage'.passed = true) :
    stage.passed = true ∨ (∃ outbound, stage = connected outbound) ∧ s.draining = false := by
  cases leads with
  | pass down => exact .inr ⟨⟨_, rfl⟩, down⟩
  | copy before after => exact .inl (passed_of_copies before)
  | finish before => exact .inl (passed_of_copies before)
  | _ => first | exact .inl rfl | cases passed

/-- Whoever still sees to the flag has recorded the bridge just now, or has stopped nothing of what is left
to stop. -/
theorem stopping {sides' : List Side} (leads : Leads s stage answer stage')
    (stops : stage' = .stopping sides') (side : Side) :
    side ∈ sides' ∨ side ∈ stage.halts ∨ ∃ sides, stage = .stopping sides ∧ side ∉ sides := by
  subst stops
  cases leads with
  | stop raised => cases side <;> simp
  | stopNext =>
    rename_i first second rest _
    by_cases done : side = first
    · exact .inr (.inl (by simp [halts, done]))
    · by_cases left : side ∈ second :: rest
      · exact .inl left
      · exact .inr (.inr ⟨_, rfl, by simp_all⟩)
  | copy before after => cases after

/-- A session has seen to the flag when it was down, or when nothing is left to stop. -/
theorem registered (leads : Leads s stage answer stage') (before : stage.registering = true)
    (after : stage'.registering = false) : s.draining = false ∨
      ∀ side, side ∈ stage.halts ∨ ∃ sides, stage = .stopping sides ∧ side ∉ sides := by
  have apart : ¬ (stage.opening = true ∨ stage.copies = true) := by
    cases stage with
    | bridged => simp [opening, copies]
    | stopping sides => simp [opening, copies]
    | _ => cases before
  cases leads with
  | begin down => exact .inl down
  | stopped last =>
    right
    intro side
    rename_i sides _
    match sides, last with
    | [], last => exact .inr ⟨_, rfl, List.not_mem_nil⟩
    | [first], last =>
      by_cases done : side = first
      · exact .inl (by simp [halts, done])
      · exact .inr ⟨_, rfl, by simpa using done⟩
  | refuse opening => exact (apart (.inl opening)).elim
  | drop opening => exact (apart (.inl opening)).elim
  | copy copies _ => exact (apart (.inr copies)).elim
  | finish copies => exact (apart (.inr copies)).elim
  | record => cases after
  | stop raised => cases after
  | stopNext => cases after
  | _ => cases before

/-- The handle of the destination's socket comes from the system. -/
theorem outbound? {h : Handle} (leads : Leads s stage answer stage')
    (outbound : stage'.outbound? = some h) :
    stage.outbound? = some h ∨ stage.handed answer = some h := by
  cases leads with
  | reach => exact .inr outbound
  | copy before after =>
    have none : stage'.outbound? = none := by cases stage' <;> first | rfl | cases after
    rw [none] at outbound
    cases outbound
  | _ => first | exact .inl outbound | cases outbound

end Leads

end Stage

end TransportConverter
