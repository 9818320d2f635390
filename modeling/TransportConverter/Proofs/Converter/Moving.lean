import TransportConverter.Proofs.Converter.Run
/-!
# What a session does to its connections

A session only takes from the sources and gives to the targets of its two directions, whatever it is
answered and wherever it is (`Stage.Moves.moved`).
-/
namespace TransportConverter

open Session

namespace Pipe

/-- More was taken out, or nobody takes out any more. -/
structure Drains (p p' : Pipe) : Prop where
  taken : p.taken <+: p'.taken
  sent : p'.sent = p.sent
  ended : p'.ended = p.ended

/-- More was put in, or nobody puts in any more. -/
structure Fills (p p' : Pipe) : Prop where
  taken : p'.taken = p.taken
  sent : p.sent <+: p'.sent

variable {p p' : Pipe} {bytes : Bytes} {count : Nat}

theorem Drains.refl (p : Pipe) : p.Drains p := ⟨List.prefix_rfl, rfl, rfl⟩

theorem Drains.advance (p : Pipe) (count : Nat) : p.Drains (p.advance count) :=
  ⟨List.prefix_append .., sent_advance .., rfl⟩

theorem Drains.stop (p : Pipe) : p.Drains p.stop := ⟨List.prefix_rfl, rfl, rfl⟩

theorem Fills.refl (p : Pipe) : p.Fills p := ⟨rfl, List.prefix_rfl⟩

theorem Fills.put (p : Pipe) (bytes : Bytes) : p.Fills (p.put bytes) :=
  ⟨rfl, sent_put p bytes ▸ List.prefix_append ..⟩

theorem Fills.close (p : Pipe) : p.Fills p.close := ⟨rfl, List.prefix_rfl⟩

theorem Reads.drains {answer : Except IoError Bytes} (reads : p.Reads count answer p') :
    p.Drains p' := by
  cases reads with
  | piece count some fits there => exact .advance p count
  | eof exhausted => exact .refl p
  | fails error => exact .refl p

theorem Takes.drains {answer : Except IoError Bytes} (takes : p.Takes count answer p') :
    p.Drains p' := by
  cases takes with
  | whole there => exact .advance p count
  | fails lost error => exact .advance p lost

theorem Writes.fills {answer : Except IoError Nat} (writes : p.Writes bytes answer p') :
    p.Fills p' := by
  cases writes with
  | takes count fits => exact .put p _
  | fails error => exact .refl p

end Pipe

theorem RequestCall.Gives.drains {p p' : Pipe} {call : RequestCall} {answer : Except IoError Bytes}
    (gives : call.Gives p answer p') : p.Drains p' := by
  cases call with
  | peek room =>
    obtain ⟨-, rfl⟩ := gives
    exact .refl p'
  | receiveExact count => exact Pipe.Takes.drains gives

namespace Session

/-- More was taken from the source or given to the target. -/
structure Lane.Moved (lane lane' : Lane) : Prop where
  source : lane.source.Drains lane'.source
  target : lane.target.Fills lane'.target

namespace Lane.Moved

variable {lanes : Lanes} {d : Direction} {p : Pipe}

theorem refl (lane : Lane) : lane.Moved lane := ⟨.refl _, .refl _⟩

theorem withSource (drains : (lanes d).source.Drains p) (d' : Direction) :
    (lanes d').Moved (lanes.withSource d p d') := by
  by_cases own : d' = d
  · subst own
    rw [Lanes.withSource_self]
    exact ⟨drains, .refl _⟩
  · rw [Lanes.withSource_ne _ own]
    exact .refl _

theorem withTarget (fills : (lanes d).target.Fills p) (d' : Direction) :
    (lanes d').Moved (lanes.withTarget d p d') := by
  by_cases own : d' = d
  · subst own
    rw [Lanes.withTarget_self]
    exact ⟨.refl _, fills⟩
  · rw [Lanes.withTarget_ne _ own]
    exact .refl _

end Lane.Moved

end Session

theorem Copy.Moves.moved {room : Nat} {lane lane' : Lane} {c : Copy} {answer : c.Answer}
    (moves : c.Moves room lane answer lane') : lane.Moved lane' := by
  cases c with
  | reading =>
    obtain ⟨source, reads, rfl⟩ := moves
    exact ⟨reads.drains, .refl _⟩
  | writing rest count =>
    obtain ⟨target, writes, rfl⟩ := moves
    exact ⟨.refl _, writes.fills⟩
  | done => cases answer

namespace Stage

variable {config : ServerConfig} {lanes lanes' : Lanes} {s s' : ConverterState} {k : Session}
  {stage stage' : Stage} {answer : stage.Answer}

/-- An answer only takes from sources and gives to targets. -/
theorem Moves.moved (moves : stage.Moves config lanes answer lanes') (d : Direction) :
    (lanes d).Moved (lanes' d) := by
  have update {d : Direction} {lane : Lane} (moved : (lanes d).Moved lane) (d' : Direction) :
      (lanes d').Moved (Function.update lanes d lane d') := by
    by_cases own : d' = d
    · subst own
      rwa [Function.update_self]
    · rw [Function.update_of_ne own]
      exact .refl _
  cases stage with
  | reading reader =>
    cases answer with
    | late =>
      obtain ⟨lost, rfl⟩ := moves
      exact .withSource (.advance _ lost) d
    | inTime given =>
      obtain ⟨source, gives, rfl⟩ := moves
      exact .withSource gives.drains d
  | replying outbound rest =>
    obtain ⟨target, writes, rfl⟩ := moves
    exact .withTarget writes.fills d
  | rejecting error rest =>
    obtain ⟨target, writes, rfl⟩ := moves
    exact .withTarget writes.fills d
  | stopping sides =>
    cases sides with
    | nil => exact moves ▸ .refl _
    | cons side sides =>
      cases answer with
      | ok u => exact moves ▸ .withSource (.stop _) d
      | error error => exact moves ▸ .refl _
  | copying upward downward =>
    cases answer with
    | inl answer =>
      obtain ⟨lane, moves, rfl⟩ := moves
      exact update moves.moved d
    | inr answer =>
      obtain ⟨lane, moves, rfl⟩ := moves
      exact update moves.moved d
  | halfClosing d' upward downward =>
    obtain rfl : lanes' = lanes.withTarget d' (lanes d').target.close := moves
    exact .withTarget (.close _) d
  | connecting destination =>
    cases answer with
    | inTime connected => exact moves ▸ .refl _
    | late => exact moves ▸ .refl _
  | ended result => cases answer
  | _ => exact moves ▸ .refl _

end Stage

end TransportConverter
