import TransportConverter.Proofs.Client.Tracking
/-!
# The request is delivered exactly once

A socket takes a request in pieces, some with the connect and some with later looks for the answer,
and other callers come in between. What it took so far and what the entry still holds are the request
at every moment: nothing is lost, sent twice or sent out of order, and nothing is read before all of
it is out.
-/
namespace TransportConverter

/-- A call that carries a part of the request. -/
def SocketCall.transmits : SocketCall → Bool
  | sendRedirect .. | send _ => true
  | peek _ | receiveExact _ | setAbortiveClose => false

theorem SocketCall.Due.split {request accepted pending : Bytes} {call : SocketCall}
    (due : call.Due request accepted pending) (silent : call.transmits = false) :
    accepted ++ pending = request := by
  cases call with
  | sendRedirect payload converter fastOpen => cases silent
  | send payload => cases silent
  | peek room =>
    obtain ⟨rfl, rfl⟩ := due
    exact List.append_nil _
  | receiveExact count =>
    obtain ⟨rfl, rfl⟩ := due
    exact List.append_nil _
  | setAbortiveClose => exact absurd due id

namespace Engine

variable {h : Handle} {log : List Event} {w w' : World} {s : RedirectState}

namespace Standing

variable {config : ClientConfig} {asked : Option SocketAddress} {accepted : Bytes}
  {callers : List Caller}

/-- While an answer is awaited there is a request, split between the socket and the entry. -/
theorem split (standing : Standing config asked accepted s callers)
    (awaits : s.phase = .awaitingRedirect) :
    ∃ destination request, asked = some destination ∧ s.destination = some destination ∧
      Engine.request destination config.cookie = .ok request ∧
      ((∀ c ∈ callers, (c.op.call config).transmits = false) → accepted ++ s.pending = request) ∧
      ∀ c ∈ callers, (c.op.call config).Due request accepted s.pending := by
  cases standing with
  | created unasked nothing => cases awaits
  | idle asks written split => exact ⟨_, _, asks, rfl, written, fun _ => split, nofun⟩
  | driven asks written due =>
    refine ⟨_, _, asks, rfl, written, fun silent => ?_, ?_⟩
    · exact due.split (silent _ (List.mem_singleton_self _))
    · intro c mem
      rw [List.mem_singleton.1 mem]
      exact due
  | resetting asks arms => cases awaits
  | failed asks => cases awaits

/-- Otherwise nothing is sent or read. -/
theorem resets (standing : Standing config asked accepted s callers)
    (settled : s.phase ≠ .awaitingRedirect) :
    ∀ c ∈ callers, c.op.call config = .setAbortiveClose := by
  cases standing with
  | created unasked nothing => exact nofun
  | idle asks written split => exact absurd rfl settled
  | driven asks written due => exact absurd rfl settled
  | resetting asks arms =>
    intro c mem
    rw [List.mem_singleton.1 mem]
    exact arms
  | failed asks => exact nofun

end Standing

/-- **Exactly-once delivery.** As long as a tracking lasts and its answer is awaited, the bytes that
the socket has taken and those that the entry still holds are the one request for the destination that
the handle was first asked to be connected to; each send carries what the entry holds, and nothing is
read before all of it is taken. -/
theorem delivered_once (begun : Begun h w log w') (current : w'.trackings h = w.trackings h + 1)
    (found : w'.engine.table.lookup h = some s) :
    let config := w.engine.config
    (s.phase = .awaitingRedirect → ∃ destination request,
      asked h log = some destination ∧ s.destination = some destination ∧
      Message.encode { connect := some destination, cookie := config.cookie } = .ok request ∧
      ((∀ c ∈ w'.flying h, (c.op.call config).transmits = false) →
        accepted h log ++ s.pending = request) ∧
      ∀ c ∈ w'.flying h, (c.op.call config).Due request (accepted h log) s.pending) ∧
    (s.phase ≠ .awaitingRedirect →
      ∀ c ∈ w'.flying h, c.op.call config = .setAbortiveClose) := by
  intro config
  have standing := begun.standing current found
  refine ⟨fun awaits => ?_, standing.resets⟩
  obtain ⟨destination, request, asks, there, written, rest⟩ := standing.split awaits
  rw [request_eq_encode] at written
  exact ⟨destination, request, asks, there, written, rest⟩

/-- A socket that is still connecting when it is given the request, and takes twelve bytes of it
later. -/
theorem delivered_once_in_pieces :
    let h : Handle := ⟨5⟩
    let destination : SocketAddress := .v4 ⟨203, 0, 113, 5⟩ 443
    let config : ClientConfig := { converter := .v4 ⟨192, 0, 2, 1⟩ 1234, cookie := some [7, 8] }
    let request : Bytes :=
      [1, 3, 0, 26, 10, 0, 18, 0, 0, 0, 0, 0, 0, 0, 0, 0, 0, 255, 255, 203, 0, 113, 5, 1, 187,
        22, 0, 2, 7, 8]
    let log : List Event :=
      [.called h 1 (.connect destination) (.waiting (.sendingRequest h request)),
        .answered ⟨1, .sendingRequest h request⟩ (.error (.system 115))
          (.done (.connect (.ok (.inProgress 0 30)))),
        .called h 1 .send (.waiting (.flushing h .polling request)),
        .answered ⟨1, .flushing h .polling request⟩ (.ok 12) (.done (.read (.ok .pending)))]
    let s : RedirectState :=
      { phase := .awaitingRedirect, destination := some destination, cookie := some [7, 8]
        pending := request.drop 12 }
    let w : World := { engine := { config }, trackings := fun _ => 0, inFlight := [] }
    let w' : World :=
      { engine := { config, table := ⟨[{ state := s, owner := h }]⟩ }
        trackings := fun k => if k = h then 1 else 0
        inFlight := [] }
    Begun h w log w' ∧ w'.trackings h = w.trackings h + 1 ∧
      w'.engine.table.lookup h = some s ∧ ∃ destination request,
        asked h log = some destination ∧ s.destination = some destination ∧
        Message.encode { connect := some destination, cookie := config.cookie } = .ok request ∧
        accepted h log ++ s.pending = request := by
  intro h destination config request log s w w'
  have written : Engine.request destination (some [7, 8]) = .ok request := by
    have valid : (Message.request destination (some [7, 8])).Valid :=
      ⟨by simp [Message.request], by rintro _ ⟨⟩; decide⟩
    rw [request_eq_encode, Message.encode_of_valid valid]
    exact congrArg Except.ok (by decide)
  have asked := Run.step .start
    (.call h (.connect destination) (start_of_created (e := (w.track h).engine) rfl rfl written))
  have connecting := asked.step
    (@Step.answer _ [] [] ⟨1, .sendingRequest h request⟩ rfl (.error (.system 115)) _ _ rfl)
  have flushing := connecting.step (.call h .send rfl)
  have taken := flushing.step
    (@Step.answer _ [] [] ⟨1, .flushing h .polling request⟩ rfl (.ok 12) _ _ rfl)
  have begun : Begun h w log w' := ⟨rfl, rfl, taken⟩
  obtain ⟨destination, request, asks, there, encoded, split, -⟩ :=
    (delivered_once begun rfl rfl).1 rfl
  exact ⟨begun, rfl, rfl, destination, request, asks, there, encoded, split nofun⟩

end Engine

end TransportConverter
