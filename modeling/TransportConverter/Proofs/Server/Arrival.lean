import TransportConverter.Proofs.Exchange.Answering
import TransportConverter.Proofs.Server.Listing
/-!
# A request that is granted

A connection that is the first one, asks for what the converter grants, and for which every call is
answered well gets its session to where the destination is connected.
-/
namespace TransportConverter

/-- The one cell of a table is changed. -/
theorem ConverterState.update_cell (s : ConverterState) (c : Cell SessionState)
    (f : SessionState → SessionState) :
    ConverterState.update { s with table := ⟨[c]⟩ } c.owner f =
      { s with table := ⟨[{ c with state := f c.state }]⟩ } := by
  simp [ConverterState.update, Registry.update, Cell.names]

namespace Server

namespace World

/-- A converter that has accepted one connection so far. -/
def alone (config : ServerConfig) (k : Session) (cells : List (Cell SessionState))
    (opened : List (SessionSocket × Handle)) : World :=
  { server :=
      { config, permits := config.maxSessions - 1, sessions := [k], accepted := 1, table := ⟨cells⟩ }
    opened }

variable {division : Division} {config : ServerConfig} {m : Message} {destination : SocketAddress}

/-- **A granted request leads to a connect.** -/
theorem reaches_connected (room : 0 < config.maxSessions) (valid : m.Valid)
    (granted : config.grant m.normal = .ok destination) (address : SocketAddress)
    {handle outbound : Handle} (other : outbound ≠ handle) :
    let k : Session :=
      { id := 0, handle, clientAddress := address, permitted := true, stage := .connected outbound }
    Reaches division OpensNew (World.accept { server := { config } } handle address)
      (alone config k [{ owner := handle, state := k.connectingState destination }]
        [(k.destinationSocket, outbound), (k.clientSocket, handle)]) := by
  intro k
  have long : (m.wire.take headerLength).length = headerLength := by
    obtain ⟨header, -, length⟩ := Message.header_of_wire valid []
    rw [List.length_take, ← length]
    exact Nat.min_eq_left header.headerLength_le_messageLength
  obtain ⟨header, opens, -⟩ :=
    Message.Carried.header (.inl (List.take_prefix headerLength m.wire)) valid long.ge
  have judged : Stage.judged config true m.wire = .admitted destination := by
    rw [Stage.judged, config.judge_wire true valid, if_pos rfl, granted]
    rfl
  have expects : RequestReader.resume .peeking (.ok (m.wire.take headerLength)) =
      .waiting (.takingRest [] header.messageLength) := by
    have some : (m.wire.take headerLength).isEmpty = false := by
      rw [List.isEmpty_eq_false_iff, ← List.length_pos_iff, long]
      exact Nat.zero_lt_succ 3
    simp only [RequestReader.resume, some, long, Nat.lt_irrefl, RequestReader.expect, opens]
    rfl
  let w : World := World.accept { server := { config } } handle address
  let came (stage : Stage) (s : SessionState) : World :=
    alone config { k with stage } [{ owner := handle, state := s }] [(k.clientSocket, handle)]
  have arriving : Reaches division OpensNew w
      (alone config { k with stage := .arriving } [] [(k.clientSocket, handle)]) := by
    have permitted : decide (0 < config.maxSessions) = true := by simpa using room
    have accepted : w = alone config { k with stage := .arriving } [] [(k.clientSocket, handle)] := by
      simp only [w, World.accept, Server.accept, permitted]
      rfl
    rw [accepted]
    exact ⟨_, .start⟩
  have entering : Reaches division OpensNew w
      (alone config { k with stage := .entering } [] [(k.clientSocket, handle)]) :=
    arriving.advance (.head _) (.ok ()) rfl (opensNew_of_handed rfl)
  have announcing : Reaches division OpensNew w (came .announcing k.firstState) :=
    entering.advance (.head _) () rfl (opensNew_of_handed rfl)
  have peeking : Reaches division OpensNew w (came (.reading .peeking) k.waitingState) := by
    have told := ConverterState.update_cell { config } ⟨k.firstState, handle, none⟩ .announced
    exact announcing.advance (.head _) () (congrArg (·, Stage.reading .start) told)
      (opensNew_of_handed rfl)
  have taking : Reaches division OpensNew w
      (came (.reading (.takingRest [] header.messageLength)) k.waitingState) := by
    refine peeking.advance (.head _) (.inTime (.ok (m.wire.take headerLength)))
      (congrArg (fun progress => (_, Stage.request config true progress)) expects)
      (opensNew_of_handed rfl)
  have granting : Reaches division OpensNew w (came (.admitted destination) k.waitingState) :=
    taking.advance (.head _) (.inTime (.ok m.wire)) (congrArg (Prod.mk _) judged)
      (opensNew_of_handed rfl)
  have connecting : Reaches division OpensNew w
      (came (.connecting destination) (k.connectingState destination)) := by
    have told := ConverterState.update_cell { config } ⟨k.waitingState, handle, none⟩
      (·.admitted destination)
    exact granting.advance (.head _) () (congrArg (·, Stage.connecting destination) told)
      (opensNew_of_handed rfl)
  refine connecting.advance (.head _) (.inTime (.ok outbound)) rfl ?_
  simp [OpensNew, Stage.handed, came, alone, other]

/-- **And on to a bridge**, which is recorded under both handles. -/
theorem reaches_bridged (room : 0 < config.maxSessions) (valid : m.Valid)
    (granted : config.grant m.normal = .ok destination) (address : SocketAddress)
    {handle outbound : Handle} (other : outbound ≠ handle) :
    let k : Session :=
      { id := 0, handle, clientAddress := address, permitted := true, stage := .bridged }
    let bridge : Bridge := { client := handle, destination := outbound }
    Reaches division OpensNew (World.accept { server := { config } } handle address)
      (alone config k [⟨(k.connectingState destination).bridged bridge k.destinationSocket, handle,
        some outbound⟩] [(k.destinationSocket, outbound), (k.clientSocket, handle)]) := by
  intro k bridge
  let held (stage : Stage) (partner : Option Handle) (s : SessionState) : World :=
    alone config { k with stage } [⟨s, handle, partner⟩]
      [(k.destinationSocket, outbound), (k.clientSocket, handle)]
  let s := k.connectingState destination
  let w : World := World.accept { server := { config } } handle address
  have connected : Reaches division OpensNew w (held (.connected outbound) none s) :=
    reaches_connected room valid granted address other
  have replying : Reaches division OpensNew w (held (.replying outbound Message.empty.wire) none s) :=
    connected.advance (.head _) () (congrArg (Prod.mk _) (Stage.succeeding_eq _))
      (opensNew_of_handed rfl)
  have duplicating : Reaches division OpensNew w (held (.duplicating outbound) none s) :=
    replying.advance (.head _) (.ok 4) rfl (opensNew_of_handed rfl)
  have linking : Reaches division OpensNew w (held (.linking outbound) none s) :=
    duplicating.advance (.head _) (.ok ()) rfl (opensNew_of_handed rfl)
  have recording : Reaches division OpensNew w (held (.recording outbound) (some outbound) s) := by
    have linked : Registry.link ⟨[⟨s, handle, none⟩]⟩ handle outbound =
        .ok ⟨[⟨s, handle, some outbound⟩]⟩ := by
      simp [Registry.link, Registry.contains, Registry.cell?, Cell.names, other.symm]
    have resumed : Stage.resume { config, table := ⟨[⟨s, handle, none⟩]⟩ }
        { k with stage := .linking outbound } (.linking outbound) () =
        ({ config, table := ⟨[⟨s, handle, some outbound⟩]⟩ }, .recording outbound) := by
      simp only [Stage.resume, k, linked]
    exact linking.advance (.head _) () resumed (opensNew_of_handed rfl)
  have told := ConverterState.update_cell { config } ⟨s, handle, some outbound⟩
    (·.bridged bridge k.destinationSocket)
  exact recording.advance (.head _) () (congrArg (·, Stage.bridged) told) (opensNew_of_handed rfl)

end World

end Server

end TransportConverter
