import TransportConverter.Proofs.Exchange.Agreement
import TransportConverter.Proofs.Server.Entries
/-!
# Sessions and a shutdown

What the shutdown flag is to a session, and what a shutdown has still to do to one (`Sweep.Owes`,
`Sweep.Leaves`): it comes to every bridge that stays in the table for as long as it goes over it.
-/
namespace TransportConverter

namespace Stage

variable {s : ConverterState} {k : Session} {stage : Stage} {error : ConverterError}

theorem passed_of_hasBridge (bridged : stage.hasBridge = true) : stage.passed = true := by
  cases stage <;> first | rfl | cases bridged

theorem tracked_of_hasBridge (bridged : stage.hasBridge = true) : stage.tracked = true := by
  cases stage <;> first | rfl | cases bridged

theorem tracked_of_passed (passed : stage.passed = true) : stage.tracked = true := by
  cases stage <;> first | rfl | cases passed

/-- A session that records its bridge has still to see to the flag. -/
theorem Leads.recorded {answer : stage.Answer} {stage' : Stage} (leads : Leads s stage answer stage')
    (has : stage.hasBridge = true) (after : stage'.registering = false) :
    stage.outbound? = none := by
  cases stage with
  | recording outbound =>
    cases leads with
    | refuse opening => cases opening
    | drop opening => cases opening
    | record => cases after
    | copy before _ => cases before
    | finish before => cases before
  | _ => first | rfl | cases has

/-- A session changes nothing of what is shared but the table. -/
theorem draining_resume (answer : stage.Answer) :
    (stage.resume s k answer).1.draining = s.draining := by
  cases stage with
  | arriving => cases answer <;> rfl
  | entering =>
    simp only [resume]
    split <;> rfl
  | reading reader => cases answer <;> rfl
  | connecting destination =>
    cases answer with
    | late => rfl
    | inTime answer => cases answer <;> rfl
  | replying outbound rest =>
    simp only [resume]
    split <;> rfl
  | duplicating outbound => cases answer <;> rfl
  | linking outbound =>
    simp only [resume]
    split <;> rfl
  | stopping sides =>
    cases sides with
    | nil => rfl
    | cons side sides => cases sides <;> rfl
  | copying upward downward => cases answer <;> rfl
  | rejecting error rest =>
    simp only [resume]
    split <;> rfl
  | ended result => cases answer
  | _ => rfl

/-- The session has failed and sends `reply` to its client, or has done so as far as it could. -/
def Refuses (error : ConverterError) (reply : Bytes) : Stage → Prop
  | rejecting error' rest => error' = error ∧ rest <:+ reply
  | stage => stage.FailedFor error

variable {reply : Bytes}

/-- A session that has failed goes on to its end. -/
theorem Leads.refuses {answer : stage.Answer} {stage' : Stage} (leads : Leads s stage answer stage')
    (refuses : stage.Refuses error reply) : stage'.Refuses error reply := by
  cases leads with
  | reject part => exact ⟨refuses.1, part.trans refuses.2⟩
  | rejected => exact refuses.1
  | armed => exact refuses
  | marked => exact congrArg Except.error refuses
  | leave => exact refuses
  | refuse opening => cases stage <;> first | exact refuses.elim | cases opening
  | drop opening => cases stage <;> first | exact refuses.elim | cases opening
  | copy before after => cases stage <;> first | exact refuses.elim | cases before
  | finish before => cases stage <;> first | exact refuses.elim | cases before
  | _ => exact refuses.elim

theorem Refuses.not_passed (refuses : stage.Refuses error reply) : stage.passed = false := by
  cases stage <;> first | rfl | exact refuses.elim

end Stage

namespace Session

variable {k : Session} {c : Cell SessionState}

/-- Only a session that has come past the flag is seen to bridge. -/
theorem Owns.passed (owns : k.Owns c) (phase : c.state.phase = .bridging) :
    k.stage.passed = true := by
  rcases owns.tells.cases with bare | ⟨bridged, -⟩ | ⟨s₀, -, closed⟩
  · exact absurd phase bare.phase
  · exact Stage.passed_of_hasBridge bridged
  · rw [closed] at phase
    cases phase

/-- A bridge is known with both of its sockets. -/
theorem Owns.sockets (owns : k.Owns c) (bridged : c.state.bridge.isSome = true) :
    c.state.sockets = [k.clientSocket, k.destinationSocket] := by
  rcases owns.tells.cases with bare | ⟨-, _, _, -, -, eq⟩ | ⟨_, ⟨_, _, -, -, rfl⟩, eq⟩
  · rw [bare.bridge] at bridged
    cases bridged
  · rw [eq]
    rfl
  · rw [eq]
    rfl

theorem Owns.mem_sockets (owns : k.Owns c) (bridged : c.state.bridge.isSome = true) (side : Side) :
    ⟨k.id, side⟩ ∈ c.state.sockets := by
  rw [owns.sockets bridged]
  cases side <;> simp [clientSocket, destinationSocket]

end Session

/-! ## What a shutdown has still to do -/

namespace Sweep

/-- The shutdown comes to a socket of a session yet. -/
def Owes (division : Division) (k : Session) (side : Side) : Sweep → Prop
  | raising => True
  | listing part found => k.handle ∈ found ∨ part ≤ division.index k.handle
  | looking handles => k.handle ∈ handles
  | stopping sockets handles => k.handle ∈ handles ∨ ⟨k.id, side⟩ ∈ sockets
  | waiting | checking .. | done _ => False

/-- The shutdown has been over the table. -/
def swept : Sweep → Bool
  | waiting | checking .. | done _ => true
  | _ => false

/-- The part of the table that a session is in has not been found empty. -/
def Leaves (division : Division) (k : Session) : Sweep → Prop
  | checking part _ => part ≤ division.index k.handle
  | done drained => drained = false
  | _ => True

variable {division : Division} {k : Session} {side : Side}

theorem not_owes_of_swept {sweep : Sweep} (swept : sweep.swept = true) :
    ¬ sweep.Owes division k side := by
  cases sweep <;> first | exact id | cases swept

theorem owes_look {handles : List Handle} (mem : k.handle ∈ handles) :
    (look handles).Owes division k side := by
  cases handles with
  | nil => cases mem
  | cons h handles => exact mem

theorem owes_stopAll {sockets : List SessionSocket} {handles : List Handle}
    (owed : k.handle ∈ handles ∨ ⟨k.id, side⟩ ∈ sockets) :
    (stopAll sockets handles).Owes division k side := by
  cases sockets with
  | nil => exact owes_look (owed.resolve_right List.not_mem_nil)
  | cons socket sockets => exact owed

theorem owes_list (index : division.index k.handle < division.count) {part : Nat}
    {found : List Handle} (owed : k.handle ∈ found ∨ part ≤ division.index k.handle) :
    (list division part found).Owes division k side := by
  unfold list
  split
  · exact owed
  · rename_i last
    exact owes_look (owed.resolve_right fun le => last (Nat.lt_of_le_of_lt le index))

theorem leaves_check (index : division.index k.handle < division.count) {part : Nat}
    {timeLeft : Bool} (ahead : part ≤ division.index k.handle) :
    (check division part timeLeft).Leaves division k := by
  unfold check
  rw [if_pos (Nat.lt_of_le_of_lt ahead index)]
  exact ahead

/-- Turning to the sockets leads to nothing that has been checked. -/
theorem leaves_look (handles : List Handle) : (look handles).Leaves division k := by
  cases handles <;> trivial

theorem leaves_stopAll (sockets : List SessionSocket) (handles : List Handle) :
    (stopAll sockets handles).Leaves division k := by
  cases sockets with
  | nil => exact leaves_look handles
  | cons socket sockets => trivial

theorem leaves_list (part : Nat) (found : List Handle) :
    (list division part found).Leaves division k := by
  unfold list
  split
  · trivial
  · exact leaves_look found

variable {s : Server} {c : Cell SessionState} {sweep : Sweep}

theorem mem_handlesOf {part : Nat} (there : c ∈ s.table.cells) (owner : c.owner = k.handle)
    (index : division.index k.handle = part) : k.handle ∈ handlesOf division s.table part := by
  refine List.mem_filter.2 ⟨List.mem_flatMap.2 ⟨c, there, ?_⟩, by simpa using index⟩
  rw [Cell.handles, owner]
  exact List.mem_cons_self

/-- **A shutdown leaves out no socket of a bridge** that is in the table when it comes by. -/
theorem owes_resume (sound : s.table.Sound) (index : division.index k.handle < division.count)
    (there : c ∈ s.table.cells) (owns : k.Owns c) (bridged : c.state.bridge.isSome = true)
    (owed : sweep.Owes division k side) (answer : sweep.Answer) :
    (sweep.resume division s answer).2.Owes division k side ∨ ⟨k.id, side⟩ ∈ sweep.halts := by
  cases sweep with
  | raising => exact .inl (owes_list index (.inr (Nat.zero_le _)))
  | listing part found =>
    refine .inl (owes_list index ?_)
    rcases owed with listed | ahead
    · exact .inl (List.mem_append_left _ listed)
    · rcases Nat.eq_or_lt_of_le ahead with here | ahead
      · exact .inl (List.mem_append_right _ (mem_handlesOf there owns.owner here.symm))
      · exact .inr ahead
  | looking handles =>
    left
    cases handles with
    | nil => cases owed
    | cons h handles =>
      have own : k.handle = h → s.table.lookup h = some c.state := by
        rintro rfl
        have named := owns.names
        rw [Registry.lookup, sound.cell?_eq_some_iff.2 ⟨there, named⟩]
        rfl
      simp only [resume]
      split
      · rename_i state found
        show (stopAll state.sockets handles).Owes division k side
        refine owes_stopAll ?_
        rcases List.mem_cons.1 owed with here | later
        · rw [own here, Option.some_inj] at found
          exact .inr (found ▸ owns.mem_sockets bridged side)
        · exact .inl later
      · rename_i missing
        rcases List.mem_cons.1 owed with here | later
        · rw [own here] at missing
          cases missing
        · exact owes_look later
  | stopping sockets handles =>
    rcases owed with later | stops
    · exact .inl (owes_stopAll (.inl later))
    · cases sockets with
      | nil => cases stops
      | cons socket sockets =>
        rcases List.mem_cons.1 stops with here | next
        · exact .inr (by simp [halts, here])
        · exact .inl (owes_stopAll (.inr next))
  | waiting => exact owed.elim
  | checking part timeLeft => exact owed.elim
  | done drained => exact owed.elim

/-- A part of the table that holds a session is not found empty. -/
theorem leaves_resume (index : division.index k.handle < division.count)
    (there : c ∈ s.table.cells) (owner : c.owner = k.handle) (leaves : sweep.Leaves division k)
    (answer : sweep.Answer) : (sweep.resume division s answer).2.Leaves division k := by
  cases sweep with
  | raising => exact leaves_list ..
  | listing part found => exact leaves_list ..
  | looking handles =>
    cases handles with
    | nil => trivial
    | cons h handles =>
      simp only [resume]
      split
      · rename_i state _
        exact leaves_stopAll state.sockets handles
      · exact leaves_look _
  | stopping sockets handles => exact leaves_stopAll ..
  | waiting => exact leaves_check index (Nat.zero_le _)
  | checking part timeLeft =>
    simp only [resume]
    split
    · rename_i empty
      refine leaves_check index (Nat.lt_of_le_of_ne leaves fun here => ?_)
      have listed := mem_handlesOf there owner here.symm
      rw [List.isEmpty_iff.1 empty] at listed
      cases listed
    · cases timeLeft
      · exact rfl
      · trivial
  | done drained => cases answer

end Sweep

end TransportConverter
