import TransportConverter.Proofs.Client.Tracking
/-!
# One caller at a time

The claim on an entry is taken in two places and given up in four, with socket calls in between
during which other callers come. An entry is claimed while a caller is in flight on its handle, and
then everybody else is refused; it is never left claimed by callers that are gone.
-/
namespace TransportConverter

namespace Engine

variable {h : Handle} {log : List Event} {w w' : World} {s : RedirectState}

/-- The claim is held exactly by a caller in flight while the answer is awaited. -/
theorem Standing.claimed_iff {config : ClientConfig} {asked : Option SocketAddress}
    {accepted : Bytes} {callers : List Caller}
    (standing : Standing config asked accepted s callers) :
    s.claimed = true ↔ s.phase = .awaitingRedirect ∧ callers ≠ [] := by
  cases standing with
  | created unasked nothing => simp
  | idle asks written split => simp
  | driven asks written due => simp
  | resetting asks arms => simp
  | failed asks => simp

/-- **One caller at a time.** In one tracking at most one caller is told that the redirect is done, and
at most one is in flight. As long as the tracking lasts, the entry is claimed exactly while its answer
is awaited and a caller is in flight, and then every further call is refused at once and changes
nothing. -/
theorem driven_by_one (begun : Begun h w log w') :
    log.countP (Event.resolves h (w.trackings h + 1)) ≤ 1 ∧
    (w'.flying h).countP (·.tracking = w.trackings h + 1) ≤ 1 ∧
    (w'.trackings h = w.trackings h + 1 → ∀ s, w'.engine.table.lookup h = some s →
      (w'.flying h).length ≤ 1 ∧
      (s.claimed = true ↔ s.phase = .awaitingRedirect ∧ w'.flying h ≠ []) ∧
      (s.claimed = true → ∀ call : Call,
        w'.engine.start h call = (w'.engine, .done (call.refusal h)))) := by
  have once := begun.sound.once
  refine ⟨by omega, by omega, fun current s found => ?_⟩
  have standing := begun.standing current found
  refine ⟨standing.length_le, standing.claimed_iff, fun claimed => ?_⟩
  exact start_of_claimed found (standing.claimed_iff.1 claimed).1 claimed

/-- One caller waits for the answer, after a socket that says it has taken more than there is to
send, and another asks to read. -/
theorem driven_by_one_reader :
    let h : Handle := ⟨5⟩
    let destination : SocketAddress := .v4 ⟨203, 0, 113, 5⟩ 443
    let config : ClientConfig := { converter := .v4 ⟨192, 0, 2, 1⟩ 1234 }
    let request : Bytes :=
      [1, 1, 0, 21, 10, 0, 18, 0, 0, 0, 0, 0, 0, 0, 0, 0, 0, 255, 255, 203, 0, 113, 5, 1, 187]
    let log : List Event :=
      [.called h 1 (.connect destination) (.waiting (.sendingRequest h request)),
        .called h 1 .readable (.done (.read (.ok .pending))),
        .answered ⟨1, .sendingRequest h request⟩ (.ok 40) (.done (.connect (.ok (.redirecting 25)))),
        .called h 1 .await (.waiting (.takingHeader h)),
        .called h 1 .readable (.done (.read (.ok .pending)))]
    let s : RedirectState :=
      { phase := .awaitingRedirect, destination := some destination, cookie := none
        claimed := true }
    let w : World := { engine := { config }, trackings := fun _ => 0, inFlight := [] }
    let w' : World :=
      { engine := { config, table := ⟨[{ state := s, owner := h }]⟩ }
        trackings := fun k => if k = h then 1 else 0
        inFlight := [⟨1, .takingHeader h⟩] }
    Begun h w log w' ∧ log.countP (Event.resolves h 1) ≤ 1 ∧ w'.trackings h = 1 ∧
      w'.engine.table.lookup h = some s ∧ s.claimed = true ∧ (w'.flying h).length ≤ 1 ∧
      ∀ call : Call, w'.engine.start h call = (w'.engine, .done (call.refusal h)) := by
  intro h destination config request log s w w'
  have written : Engine.request destination none = .ok request := by
    have valid : (Message.request destination none).Valid := ⟨by simp [Message.request], nofun⟩
    rw [request_eq_encode, Message.encode_of_valid valid]
    exact congrArg Except.ok (by decide)
  have asked := Run.step .start
    (.call h (.connect destination) (start_of_created (e := (w.track h).engine) rfl rfl written))
  have refused := asked.step (.call h .readable rfl)
  have sent := refused.step
    (@Step.answer _ [] [] ⟨1, .sendingRequest h request⟩ rfl (.ok 40) _ _ rfl)
  have awaiting := sent.step (.call h .await rfl)
  have begun : Begun h w log w' := ⟨rfl, rfl, awaiting.step (.call h .readable rfl)⟩
  obtain ⟨resolved, -, lasting⟩ := driven_by_one begun
  obtain ⟨alone, -, refusing⟩ := lasting rfl s rfl
  exact ⟨begun, resolved, rfl, rfl, rfl, alone, refusing rfl⟩

end Engine

end TransportConverter
