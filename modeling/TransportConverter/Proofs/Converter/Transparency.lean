import TransportConverter.Proofs.Converter.Advance
/-!
# A bridged session is transparent

Whatever a bridge does next, and whatever is done to it, its targets are given the bytes of its sources,
in order and none of them twice: the destination those behind the request, the client those behind the
reply (`World.Transparent`). Its directions do not disturb each other, and it is not given up before both
have ended or one has failed (`Steady`).
-/
namespace TransportConverter

open Session

/-- The error that a direction is answered with. A target that takes nothing has failed. -/
def Copy.failure? (c : Copy) (answer : c.Answer) : Option IoError :=
  match c.resume answer with
  | .failed error => some error
  | _ => none

/-- A bridge stands. -/
def Stage.bridges (stage : Stage) : Bool := (stage.position? .upward).isSome

namespace Session

/-- The error that a direction of the bridge is answered with. -/
def Event.failure? : Event → Option IoError
  | .advanced (.copying upward _) (.inl answer) => upward.failure? answer
  | .advanced (.copying _ downward) (.inr answer) => downward.failure? answer
  | _ => none

/-- What a step does to a bridge. -/
structure Steady (w : World) (event : Event) (w' : World) : Prop where
  /-- At least one of its directions goes on undisturbed. -/
  apart : w.session.stage.bridges = true → w'.session.stage.bridges = true →
    ∃ d, ∀ d', d' ≠ d → w'.session.stage.position? d' = w.session.stage.position? d' ∧
      w'.lanes d' = w.lanes d' ∧ w'.counter? d' = w.counter? d'
  /-- Once a source has ended, nothing comes before telling the target. -/
  tells : ∀ d, w.session.stage.position? d = some .ending →
    w'.session.stage.position? d = some .ending ∨ (w'.lanes d).target.ended = true
  /-- It stands until both directions have ended or one has failed. -/
  lasting : w.session.stage.bridges = true → w'.session.stage.bridges = false →
    w'.session.stage = .finishing (.ok ()) ∧ (∀ d, (w'.lanes d).target.ended = true) ∨
    ∃ error, event.failure? = some error ∧ w'.session.stage = .finishing (.error (.io error))
  /-- Both handles are given up at once. -/
  leaving : ∀ result, w.session.stage = .leaving result → w'.session.stage ≠ .leaving result →
    w'.session.stage = .ended result ∧ ∀ h,
      h = w.session.handle ∨ w.shared.table.peer w.session.handle = some h →
      w'.shared.table.contains h = false

variable {w w' : World} {event : Event} {log : List Event}

/-! ## At any moment -/

namespace World

/-- Of what the source has sent, this has been delivered, this is under way and this is still there. -/
theorem Carries.split {request : Bytes} {position : Direction → Position}
    {counts : Direction → Nat} (carries : w.Carries request position counts) (d : Direction) :
    w.stream d = w.delivered d ++ (position d).rest ++ (w.lanes d).source.held ∧
      counts d + (position d).size = (w.delivered d).length + (position d).rest.length := by
  obtain ⟨whole, carries⟩ := carries
  obtain ⟨⟨moved, taken, sent, length⟩, -, -⟩ := carries d
  cases d with
  | upward =>
    have delivered : w.delivered .upward = moved := sent
    have opens : request <+: (w.lanes .upward).source.sent := by
      rw [Pipe.sent, taken]
      simp only [opening, List.append_assoc]
      exact List.prefix_append ..
    rw [delivered]
    refine ⟨?_, length⟩
    rw [stream, behindMessage_of_isPrefix whole opens, Pipe.sent, taken]
    simp only [opening, List.append_assoc, List.drop_left]
  | downward =>
    have delivered : w.delivered .downward = moved := by
      rw [World.delivered, sent]
      exact behindSuccess_wire_append moved
    rw [delivered]
    refine ⟨?_, length⟩
    rw [stream, Pipe.sent, taken]
    simp only [opening, List.nil_append]

theorem Begins.delivered {taken said : Bytes} (begins : w.Begins taken said)
    (spoken : Spoken said) (d : Direction) : w.delivered d = [] := by
  cases d with
  | upward => exact begins.1.sent
  | downward =>
    rw [World.delivered, begins.2.sent]
    exact behindSuccess_of_spoken spoken

end World

theorem position?_isSome (stage : Stage) (d : Direction) :
    (stage.position? d).isSome = stage.bridges := by
  cases stage <;> rfl

/-- While it stands, a bridge has a position for each of its directions. -/
theorem exists_position {stage : Stage} (bridges : stage.bridges = true) :
    ∃ position : Direction → Position, ∀ d, stage.position? d = some (position d) := by
  have (d : Direction) : ∃ p, stage.position? d = some p := by
    rw [← Option.isSome_iff_exists, position?_isSome, bridges]
  exact ⟨fun d => (this d).choose, fun d => (this d).choose_spec⟩

namespace World

theorem Sound.bridges (sound : w.Sound) (bridges : w.session.stage.bridges = true) :
    ∃ position, (∀ d, w.session.stage.position? d = some (position d)) ∧ w.Bridges position := by
  obtain ⟨position, there⟩ := exists_position bridges
  exact ⟨position, there, bridges_of_position? sound.stands there⟩

/-- What the table tells of a direction is what it has delivered, but for the piece under way. -/
theorem Sound.counter (sound : w.Sound) {d : Direction} {p : Position}
    (there : w.session.stage.position? d = some p) :
    ∃ n, w.counter? d = some n ∧ n + p.size = (w.delivered d).length + p.rest.length := by
  have bridges : w.session.stage.bridges = true := by
    rw [← position?_isSome _ d, there]
    rfl
  obtain ⟨position, there', request, outbound, s, bridge, carries, lists, known, -⟩ :=
    sound.bridges bridges
  rw [there', Option.some_inj] at there
  subst there
  refine ⟨_, ?_, (carries.split d).2⟩
  rw [counter?, bridge?, lists.lookup sound.table, Option.bind_some, known]
  rfl

end World

/-! ## From one moment to the next -/

/-- Whatever becomes of a direction, the other one waits where it was. -/
theorem position?_copied {d d' : Direction} {wait : Copy → Copy × Copy} {progress : CopyProgress}
    {other : Copy} (ne : d' ≠ d) (others : ∀ c, d'.pick (wait c).1 (wait c).2 = other)
    (bridges : (Stage.copied d wait progress).bridges = true) :
    (Stage.copied d wait progress).position? d' = some other.position := by
  cases progress with
  | waiting copy => exact congrArg (fun c => some c.position) (others copy)
  | moved count =>
    show some (if d' = d then _ else _) = _
    rw [if_neg ne, others]
  | sourceEnded =>
    show some (if d' = d then _ else _) = _
    rw [if_neg ne, others]
  | failed error => cases bridges

theorem position?_bridging {upward downward : Copy}
    (bridges : (Stage.bridging upward downward).bridges = true) (d : Direction) :
    (Stage.bridging upward downward).position? d = some (d.pick upward downward).position := by
  unfold Stage.bridging at bridges ⊢
  split at bridges
  · cases bridges
  · rfl

/-- An answer disturbs one direction of a bridge at most. -/
theorem apart_of_resume {config : ServerConfig} {lanes lanes' : Lanes} {shared shared' : ConverterState}
    {k : Session} {stage stage' : Stage} {answer : stage.Answer}
    (moves : stage.Moves config lanes answer lanes')
    (resumed : stage.resume shared k answer = (shared', stage')) (bridges : stage.bridges = true)
    (bridges' : stage'.bridges = true) :
    ∃ d, ∀ d', d' ≠ d → stage'.position? d' = stage.position? d' ∧ lanes' d' = lanes d' := by
  cases stage with
  | bridged =>
    obtain rfl : lanes' = lanes := moves
    obtain ⟨-, ⟨sides, rfl⟩ | rfl⟩ := Stage.resume_bridged resumed
    · exact ⟨.upward, fun d' _ => ⟨rfl, rfl⟩⟩
    · exact ⟨.upward, fun d' _ => ⟨congrArg some (position_start d'), rfl⟩⟩
  | stopping sides =>
    have still (d' : Direction) : stage'.position? d' = some .reading := by
      obtain ⟨-, ⟨sides', rfl⟩ | rfl⟩ := Stage.resume_stopping resumed
      · rfl
      · exact congrArg some (position_start d')
    cases sides with
    | nil =>
      obtain rfl : lanes' = lanes := moves
      exact ⟨.upward, fun d' _ => ⟨still d', rfl⟩⟩
    | cons side sides =>
      cases answer with
      | ok u =>
        obtain rfl : lanes' = lanes.withSource _ _ := moves
        exact ⟨side.outgoing, fun d' ne => ⟨still d', Lanes.withSource_ne _ ne _⟩⟩
      | error error =>
        obtain rfl : lanes' = lanes := moves
        exact ⟨.upward, fun d' _ => ⟨still d', rfl⟩⟩
  | copying upward downward =>
    cases answer with
    | inl answer =>
      obtain ⟨lane, -, rfl⟩ := moves
      cases resumed
      refine ⟨.upward, fun d' ne => ⟨?_, Function.update_of_ne ne ..⟩⟩
      refine position?_copied ne (fun c => ?_) bridges'
      cases d' with
      | upward => exact absurd rfl ne
      | downward => rfl
    | inr answer =>
      obtain ⟨lane, -, rfl⟩ := moves
      cases resumed
      refine ⟨.downward, fun d' ne => ⟨?_, Function.update_of_ne ne ..⟩⟩
      refine position?_copied ne (fun c => ?_) bridges'
      cases d' with
      | upward => rfl
      | downward => exact absurd rfl ne
  | counting d count upward downward =>
    obtain rfl : lanes' = lanes := moves
    cases resumed
    exact ⟨d, fun d' ne => ⟨by simp [Stage.position?, ne], rfl⟩⟩
  | ending d upward downward =>
    obtain rfl : lanes' = lanes := moves
    cases resumed
    exact ⟨d, fun d' ne => ⟨rfl, rfl⟩⟩
  | halfClosing d upward downward =>
    obtain rfl : lanes' = lanes.withTarget d (lanes d).target.close := moves
    cases resumed
    refine ⟨d, fun d' ne => ⟨?_, Lanes.withTarget_ne _ ne _⟩⟩
    rw [position?_bridging bridges']
    simp [Stage.position?, ne]
  | _ => cases bridges

theorem position_ne_ending (c : Copy) : some c.position ≠ some .ending := by
  cases c <;> exact nofun

/-- A target is told in the step after its source was found to have ended. -/
theorem tells_of_resume {config : ServerConfig} {lanes lanes' : Lanes}
    {shared shared' : ConverterState} {k : Session} {stage stage' : Stage} {answer : stage.Answer}
    (moves : stage.Moves config lanes answer lanes')
    (resumed : stage.resume shared k answer = (shared', stage')) {d : Direction}
    (there : stage.position? d = some .ending) :
    stage'.position? d = some .ending ∨ (lanes' d).target.ended = true := by
  cases stage with
  | bridged => cases there
  | stopping sides => cases there
  | copying upward downward => exact absurd there (position_ne_ending _)
  | counting d' count upward downward =>
    rw [Stage.position?] at there
    split at there
    · cases there
    · exact absurd there (position_ne_ending _)
  | ending d' upward downward =>
    cases resumed
    exact .inl there
  | halfClosing d' upward downward =>
    obtain rfl : lanes' = lanes.withTarget d' (lanes d').target.close := moves
    rw [Stage.position?] at there
    split at there
    · rename_i same
      subst same
      rw [Lanes.withTarget_self]
      exact .inr rfl
    · exact absurd there (position_ne_ending _)
  | _ => cases there

/-- A bridge is left when it is over, or one of its directions fails. -/
theorem finishing_of_resume {shared shared' : ConverterState} {k : Session} {stage stage' : Stage}
    {answer : stage.Answer} (resumed : stage.resume shared k answer = (shared', stage'))
    (bridges : stage.bridges = true) (left : stage'.bridges = false) :
    stage' = .finishing (.ok ()) ∨ ∃ error,
      (Event.advanced stage answer).failure? = some error ∧
        stage' = .finishing (.error (.io error)) := by
  cases stage with
  | bridged =>
    obtain ⟨-, ⟨sides, rfl⟩ | rfl⟩ := Stage.resume_bridged resumed <;> cases left
  | stopping sides =>
    obtain ⟨-, ⟨sides', rfl⟩ | rfl⟩ := Stage.resume_stopping resumed <;> cases left
  | copying upward downward =>
    cases answer with
    | inl answer =>
      cases resumed
      rw [Event.failure?, Copy.failure?]
      revert left
      cases upward.resume answer with
      | failed error => exact fun _ => .inr ⟨error, rfl, rfl⟩
      | _ => rintro ⟨⟩
    | inr answer =>
      cases resumed
      rw [Event.failure?, Copy.failure?]
      revert left
      cases downward.resume answer with
      | failed error => exact fun _ => .inr ⟨error, rfl, rfl⟩
      | _ => rintro ⟨⟩
  | counting d count upward downward =>
    cases resumed
    cases left
  | ending d upward downward =>
    cases resumed
    cases left
  | halfClosing d upward downward =>
    cases resumed
    unfold Stage.bridging at left ⊢
    split at left
    · exact .inl rfl
    · cases left
  | _ => cases bridges

/-- The counter of a direction moves with the direction. -/
theorem counter?_eq (sound : w.Sound) (sound' : w'.Sound) {d : Direction}
    (bridges : w.session.stage.bridges = true)
    (position : w'.session.stage.position? d = w.session.stage.position? d)
    (lanes : w'.lanes d = w.lanes d) : w'.counter? d = w.counter? d := by
  obtain ⟨p, there⟩ := Option.isSome_iff_exists.1 ((position?_isSome _ d).trans bridges)
  obtain ⟨n, told, length⟩ := sound.counter there
  obtain ⟨n', told', length'⟩ := sound'.counter (position.trans there)
  have delivered : w'.delivered d = w.delivered d := by
    cases d with
    | upward => exact congrArg (fun lane => lane.target.sent) lanes
    | downward => exact congrArg (fun lane => behindSuccess lane.target.sent) lanes
  rw [delivered] at length'
  rw [told, told']
  exact congrArg some (by omega)

theorem World.Sound.steady (sound : w.Sound) (step : Step w event w') : Steady w event w' := by
  have sound' := sound.step step
  have apart (bridges : w.session.stage.bridges = true)
      (bridges' : w'.session.stage.bridges = true) :
      ∃ d, ∀ d', d' ≠ d → w'.session.stage.position? d' = w.session.stage.position? d' ∧
        w'.lanes d' = w.lanes d' := by
    cases step with
    | advance answer moves resumed => exact apart_of_resume moves resumed bridges bridges'
    | arrive d bytes going => exact ⟨d, fun d' ne => ⟨rfl, Lanes.withSource_ne _ ne _⟩⟩
    | finish d => exact ⟨d, fun d' ne => ⟨rfl, Lanes.withSource_ne _ ne _⟩⟩
    | stop d => exact ⟨d, fun d' ne => ⟨rfl, Lanes.withSource_ne _ ne _⟩⟩
    | draw d count => exact ⟨d, fun d' ne => ⟨rfl, Lanes.withTarget_ne _ ne _⟩⟩
    | disturb draining elsewhere => exact ⟨.upward, fun d' _ => ⟨rfl, rfl⟩⟩
  refine ⟨fun bridges bridges' => ?_, fun d there => ?_, fun bridges left => ?_,
    fun result leaves goes => ?_⟩
  · obtain ⟨d, others⟩ := apart bridges bridges'
    refine ⟨d, fun d' ne => ?_⟩
    obtain ⟨position, lanes⟩ := others d' ne
    exact ⟨position, lanes, counter?_eq sound sound' bridges position lanes⟩
  · cases step with
    | advance answer moves resumed => exact tells_of_resume moves resumed there
    | _ => exact .inl there
  · have complete (finished : w'.session.stage = .finishing (.ok ())) (d : Direction) :
        (w'.lanes d).target.ended = true := by
      have stands := sound'.stands
      rw [finished] at stands
      obtain ⟨position, ⟨_, _, _, _, carries, _⟩, complete⟩ := stands
      exact ((carries.2 d).told).2 (complete rfl d)
    cases step with
    | advance answer moves resumed =>
      rcases finishing_of_resume resumed bridges left with finished | failed
      · exact .inl ⟨finished, complete finished⟩
      · exact .inr failed
    | _ => exact absurd bridges (by rw [left]; exact nofun)
  · cases step with
    | advance answer moves resumed =>
      obtain ⟨shared, ⟨n, handle, address, permitted, stage⟩, lanes⟩ := w
      obtain rfl : stage = .leaving result := leaves
      cases resumed
      obtain ⟨⟨partner, s, lists⟩, -⟩ := sound.stands
      refine ⟨rfl, fun h named => lists.contains_remove sound.table ?_⟩
      rwa [lists.peer sound.table] at named
    | _ => exact absurd leaves goes

end Session

end TransportConverter
