import TransportConverter.Proofs.Registry.Swap
import TransportConverter.Proofs.Server.Stages
/-!
# What the table tells of a session

A session's cell tells what the session has got to (`Session.Owns`). Each step of a session touches its
own cell alone and leaves it telling the truth (`Stage.enters_resume`).
-/
namespace TransportConverter

namespace Session

/-! ## The states of an entry -/

/-- While the request is awaited. -/
def waitingState (k : Session) : SessionState := k.firstState.announced

/-- Once the request is granted. -/
def connectingState (k : Session) (destination : SocketAddress) : SessionState :=
  k.waitingState.admitted destination

/-- The request is awaited or granted. -/
def Opening (k : Session) (s : SessionState) : Prop :=
  s = k.waitingState ∨ ∃ destination, s = k.connectingState destination

/-- The bridge is recorded, together with the handle that leads to it from the other side. -/
def Bridging (k : Session) (partner : Option Handle) (s : SessionState) : Prop :=
  ∃ destination, ∃ bridge : Bridge, bridge.client = k.handle ∧ partner = some bridge.destination ∧
    s = (k.connectingState destination).bridged bridge k.destinationSocket

variable {k : Session} {partner : Option Handle} {s : SessionState}

/-- No bridge is recorded. -/
structure Bare (k : Session) (s : SessionState) : Prop where
  clientSocket : s.clientSocket = k.clientSocket
  bridge : s.bridge = none
  phase : s.phase ≠ .bridging

theorem Opening.bare (opening : k.Opening s) : k.Bare s := by
  rcases opening with rfl | ⟨destination, rfl⟩ <;> exact ⟨rfl, rfl, nofun⟩

theorem Bridging.onBridge (bridging : k.Bridging partner s) {f : Bridge → Bridge}
    (client : ∀ b, (f b).client = b.client) (destination : ∀ b, (f b).destination = b.destination) :
    k.Bridging partner (s.onBridge f) := by
  obtain ⟨address, bridge, own, rfl, rfl⟩ := bridging
  exact ⟨address, f bridge, (client bridge).trans own, by rw [destination], rfl⟩

end Session

open Session

namespace Stage

/-- What the table tells of a session at a stage: the state under its handle, and the handle beside
that. -/
def Tells (k : Session) (partner : Option Handle) (s : SessionState) : Stage → Prop
  | arriving | entering => False
  | announcing => partner = none ∧ s = k.firstState
  | reading _ | admitted _ => partner = none ∧ s = k.waitingState
  | connecting destination => partner = none ∧ s = k.connectingState destination
  | connected _ | replying .. | duplicating _ | linking _ =>
    partner = none ∧ ∃ destination, s = k.connectingState destination
  | recording outbound => partner = some outbound ∧ ∃ destination, s = k.connectingState destination
  | bridged | stopping _ | copying .. | counting .. | ending .. | halfClosing .. | finishing _ =>
    k.Bridging partner s
  | rejecting .. | armingReset _ | marking _ => partner = none ∧ k.Opening s
  | leaving _ =>
    (partner = none ∧ ((∃ destination, s = k.connectingState destination) ∨
      ∃ s₀, k.Opening s₀ ∧ s = s₀.rejected)) ∨ ∃ s₀, k.Bridging partner s₀ ∧ s = s₀.closed
  | ended result => (∃ error, result = .error (.io error)) ∧ partner = none ∧
      ∃ destination, s = k.connectingState destination

/-- The session is in the table. -/
def tracked : Stage → Bool
  | arriving | entering | ended _ => false
  | _ => true

/-- The session has a bridge, or records it next. -/
def hasBridge : Stage → Bool
  | recording _ | bridged | stopping _ | copying .. | counting .. | ending .. | halfClosing ..
  | finishing _ => true
  | _ => false

variable {k : Session} {partner : Option Handle} {s : SessionState} {stage stage' : Stage}

/-- The table tells of no bridge, of one that stands, or of one that is over. -/
theorem Tells.cases (tells : stage.Tells k partner s) :
    k.Bare s ∨ stage.hasBridge = true ∧ k.Bridging partner s ∨
      ∃ s₀, k.Bridging partner s₀ ∧ s = s₀.closed := by
  cases stage with
  | arriving => exact tells.elim
  | entering => exact tells.elim
  | announcing => exact .inl (tells.2 ▸ ⟨rfl, rfl, nofun⟩)
  | reading reader => exact .inl (Opening.bare (.inl tells.2))
  | admitted destination => exact .inl (Opening.bare (.inl tells.2))
  | connecting destination => exact .inl (Opening.bare (.inr ⟨_, tells.2⟩))
  | connected outbound => exact .inl (Opening.bare (.inr tells.2))
  | replying outbound rest => exact .inl (Opening.bare (.inr tells.2))
  | duplicating outbound => exact .inl (Opening.bare (.inr tells.2))
  | linking outbound => exact .inl (Opening.bare (.inr tells.2))
  | recording outbound => exact .inl (Opening.bare (.inr tells.2))
  | rejecting error rest => exact .inl tells.2.bare
  | armingReset error => exact .inl tells.2.bare
  | marking error => exact .inl tells.2.bare
  | leaving result =>
    rcases tells with ⟨-, connecting | ⟨s₀, opening, rfl⟩⟩ | closed
    · exact .inl (Opening.bare (.inr connecting))
    · exact .inl ⟨opening.bare.clientSocket, opening.bare.bridge, nofun⟩
    · exact .inr (.inr closed)
  | ended result => exact .inl (Opening.bare (.inr tells.2.2))
  | _ => exact .inr (.inl ⟨rfl, tells⟩)

/-- Once the bridge is recorded, the table tells of it. -/
theorem Tells.bridging (tells : stage.Tells k partner s) (has : stage.hasBridge = true)
    (recorded : stage.outbound? = none) : k.Bridging partner s := by
  cases stage with
  | recording outbound => cases recorded
  | _ => first | exact tells | cases has

theorem Tells.clientSocket (tells : stage.Tells k partner s) : s.clientSocket = k.clientSocket := by
  rcases tells.cases with bare | ⟨-, _, _, -, -, rfl⟩ | ⟨_, ⟨_, _, -, -, rfl⟩, rfl⟩
  · exact bare.clientSocket
  · rfl
  · rfl

/-- Wherever a session fails before it bridges, the table tells the same. -/
theorem tells_failing (opening : k.Opening s) (error : ConverterError) :
    (failing error).Tells k none s := by
  rw [failing_eq]
  cases error.replyCode <;> exact ⟨rfl, opening⟩

theorem tracked_failing (error : ConverterError) : (failing error).tracked = true := by
  rw [failing_eq]
  cases error.replyCode <;> rfl

theorem tracked_copied (d : Direction) (wait : Copy → Copy × Copy) (progress : CopyProgress) :
    (copied d wait progress).tracked = true := by
  cases progress <;> rfl

theorem tracked_bridging (upward downward : Copy) :
    (Stage.bridging upward downward).tracked = true := by
  unfold Stage.bridging
  split <;> rfl

theorem tracked_request (config : ServerConfig) (permitted : Bool) (progress : RequestProgress) :
    (request config permitted progress).tracked = true := by
  cases progress with
  | waiting reader => rfl
  | done result =>
    cases result with
    | error error => exact tracked_failing error
    | ok message =>
      simp only [request, judged]
      split
      · rfl
      · exact tracked_failing _

/-- A direction that goes on leaves the bridge where it is. -/
theorem tells_copied (bridging : k.Bridging partner s) (d : Direction) (wait : Copy → Copy × Copy)
    (progress : CopyProgress) : (copied d wait progress).Tells k partner s := by
  cases progress <;> exact bridging

theorem tells_bridging (bridging : k.Bridging partner s) (upward downward : Copy) :
    (Stage.bridging upward downward).Tells k partner s := by
  unfold Stage.bridging
  split <;> exact bridging

theorem tells_request (config : ServerConfig) (permitted : Bool) (progress : RequestProgress) :
    (request config permitted progress).Tells k none k.waitingState := by
  cases progress with
  | waiting reader => exact ⟨rfl, rfl⟩
  | done result =>
    cases result with
    | error error => exact tells_failing (.inl rfl) error
    | ok message =>
      simp only [request, judged]
      split
      · exact ⟨rfl, rfl⟩
      · exact tells_failing (.inl rfl) _

end Stage

/-- The cell is that of the session and tells what it has got to. -/
structure Session.Owns (k : Session) (c : Cell SessionState) : Prop where
  owner : c.owner = k.handle
  tells : k.stage.Tells k c.partner c.state

theorem Session.Owns.session {k : Session} {c : Cell SessionState} (owns : k.Owns c) :
    c.state.clientSocket.session = k.id := by
  rw [owns.tells.clientSocket]
  rfl

theorem Session.Owns.names {k : Session} {c : Cell SessionState} (owns : k.Owns c) :
    c.names k.handle = true := by
  simp [Cell.names, owns.owner]

/-- The session has a cell, if it should. -/
def Session.Listed (k : Session) (r : Registry SessionState) : Prop :=
  k.stage.tracked = true → ∃ c ∈ r.cells, k.Owns c

namespace Stage

/-! ## What a step does to the table -/

/-- A step of a session from its stage to `stage'`: the table stays as it is, the session's cell is
replaced, or it is taken away. -/
inductive Enters (k : Session) (answer : k.stage.Answer) (stage' : Stage)
    (r r' : Registry SessionState) : Prop
  | stays (same : r' = r) (tells : ∀ c, k.Owns c → Session.Owns { k with stage := stage' } c)
      (tracked : stage'.tracked = k.stage.tracked ∨
        stage'.tracked = false ∧ k.stage.Strands answer)
  | puts (c : Cell SessionState) (sound : r'.Sound)
      (swaps : Registry.Swaps k.handle (some c) r r')
      (own : ∀ c ∈ r.cells, c.names k.handle = true → k.Owns c)
      (owns : Session.Owns { k with stage := stage' } c) (tracked : stage'.tracked = true)
      (bridged : c.state.bridge.isSome = true → k.stage.hasBridge = true)
      (partner : ∀ h, c.partner = some h → stage'.outbound? = some h ∨
        ∃ c ∈ r.cells, k.Owns c ∧ c.partner = some h)
  | leaves (sound : r'.Sound) (swaps : Registry.Swaps k.handle none r r')
      (own : ∀ c ∈ r.cells, c.names k.handle = true → k.Owns c) (out : stage'.tracked = false)

namespace Enters

variable {n : Nat} {handle : Handle} {address : SocketAddress} {permitted : Bool}
  {stage stage' : Stage} {answer : stage.Answer} {r r' : Registry SessionState}

/-- Some cell of the session, and it is the one that its handle leads to. -/
theorem exists_lists {k : Session} (sound : r.Sound) (listed : k.Listed r)
    (tracked : k.stage.tracked = true) : ∃ partner s, r.Lists k.handle partner s ∧
      k.stage.Tells k partner s ∧ ∀ c ∈ r.cells, c.names k.handle = true → k.Owns c := by
  obtain ⟨⟨s, owner, partner⟩, mem, rfl, tells⟩ := listed tracked
  refine ⟨partner, s, mem, tells, fun c mem' named => ?_⟩
  rw [Registry.Lists.eq_of_names mem sound mem' named]
  exact ⟨rfl, tells⟩

/-- The table is left alone. -/
theorem keep (tells : ∀ partner s, stage.Tells ⟨n, handle, address, permitted, stage⟩ partner s →
      stage'.Tells ⟨n, handle, address, permitted, stage'⟩ partner s)
    (tracked : stage'.tracked = stage.tracked) :
    Enters ⟨n, handle, address, permitted, stage⟩ answer stage' r r :=
  .stays rfl (fun _ owns => ⟨owns.owner, tells _ _ owns.tells⟩) (.inl tracked)

/-- The state of the session is changed. -/
theorem update {f : SessionState → SessionState} (sound : r.Sound)
    (listed : Session.Listed ⟨n, handle, address, permitted, stage⟩ r) (tracked : stage.tracked = true)
    (tells : ∀ partner s, stage.Tells ⟨n, handle, address, permitted, stage⟩ partner s →
      stage'.Tells ⟨n, handle, address, permitted, stage'⟩ partner (f s))
    (tracked' : stage'.tracked = true)
    (bridged : stage.hasBridge = true ∨ ∀ partner s,
      stage.Tells ⟨n, handle, address, permitted, stage⟩ partner s → (f s).bridge = none) :
    Enters ⟨n, handle, address, permitted, stage⟩ answer stage' r (r.update handle f) := by
  obtain ⟨partner, s, lists, told, own⟩ := exists_lists sound listed tracked
  refine .puts _ (sound.update _ _) (Registry.swaps_update sound lists f) own
    ⟨rfl, tells partner s told⟩ tracked' (fun some => ?_) fun h beside =>
      .inr ⟨_, lists, ⟨rfl, told⟩, beside⟩
  rcases bridged with bridged | none
  · exact bridged
  · rw [none partner s told] at some
    cases some

end Enters

/-- **A step of a session touches its own cell alone**, and that tells what it has got to then. -/
theorem enters_resume {s s' : ConverterState} {k : Session} {stage' : Stage}
    {answer : k.stage.Answer} (sound : s.table.Sound) (listed : k.Listed s.table)
    (resumed : k.stage.resume s k answer = (s', stage')) :
    Enters k answer stage' s.table s'.table := by
  obtain ⟨n, handle, address, permitted, stage⟩ := k
  simp only at answer resumed
  cases stage with
  | arriving =>
    cases answer <;> cases resumed <;> exact .keep (fun _ _ => False.elim) rfl
  | entering =>
    simp only [resume] at resumed
    split at resumed
    · rename_i table inserted
      cases resumed
      refine .puts _ (sound.insert inserted) (Registry.swaps_insert inserted) ?_ ⟨rfl, rfl, rfl⟩ rfl
        (fun bridged => by cases bridged) (fun h beside => by cases beside)
      intro c mem named
      have untracked : s.table.contains handle = false := by
        unfold Registry.insert at inserted
        split at inserted
        · cases inserted
        · rename_i untracked
          simpa using untracked
      rw [Registry.names_eq_false_of_mem untracked mem] at named
      cases named
    · cases resumed
      exact .keep (fun _ _ => False.elim) rfl
  | announcing =>
    cases resumed
    refine .update sound listed rfl ?_ rfl (.inr ?_) <;> rintro partner s ⟨rfl, rfl⟩
    · exact ⟨rfl, rfl⟩
    · rfl
  | reading reader =>
    cases answer with
    | late =>
      cases resumed
      refine .keep ?_ (tracked_failing _)
      rintro partner s ⟨rfl, rfl⟩
      exact tells_failing (.inl rfl) _
    | inTime answer =>
      cases resumed
      refine .keep ?_ (tracked_request ..)
      rintro partner s ⟨rfl, rfl⟩
      exact tells_request ..
  | admitted destination =>
    cases resumed
    refine .update (f := (·.admitted destination)) sound listed rfl ?_ rfl (.inr ?_) <;>
      rintro partner s ⟨rfl, rfl⟩
    · exact ⟨rfl, rfl⟩
    · rfl
  | connecting destination =>
    obtain ⟨rfl, ⟨outbound, rfl⟩ | ⟨error, rfl⟩⟩ := resume_connecting resumed
    · refine .keep ?_ rfl
      rintro partner s ⟨rfl, rfl⟩
      exact ⟨rfl, _, rfl⟩
    · refine .keep ?_ (tracked_failing _)
      rintro partner s ⟨rfl, rfl⟩
      exact tells_failing (.inr ⟨_, rfl⟩) _
  | connected outbound =>
    obtain ⟨rfl, rfl | rfl⟩ := resume_connected resumed
    · refine .keep ?_ (tracked_failing _)
      rintro partner s ⟨rfl, destination, rfl⟩
      exact tells_failing (.inr ⟨_, rfl⟩) _
    · exact .keep (fun _ _ => id) rfl
  | replying outbound rest =>
    simp only [resume] at resumed
    split at resumed <;> cases resumed
    · exact .keep (fun _ _ => id) rfl
    · exact .keep (fun _ _ => id) rfl
    · refine .keep ?_ (tracked_failing _)
      rintro partner s ⟨rfl, destination, rfl⟩
      exact tells_failing (.inr ⟨_, rfl⟩) _
  | duplicating outbound =>
    cases answer with
    | ok =>
      cases resumed
      exact .keep (fun _ _ => id) rfl
    | error error =>
      cases resumed
      exact .stays rfl (fun _ owns => ⟨owns.owner, ⟨error, rfl⟩, owns.tells⟩) (.inr ⟨rfl, trivial⟩)
  | linking outbound =>
    rcases resume_linking resumed with ⟨table, linked, rfl, rfl⟩ | ⟨error, rfl, rfl⟩
    · obtain ⟨partner, s, lists, ⟨rfl, destination, rfl⟩, own⟩ :=
        Enters.exists_lists sound listed rfl
      exact .puts _ (sound.link linked) (Registry.swaps_link sound lists linked) own
        ⟨rfl, rfl, destination, rfl⟩ rfl (fun bridged => by cases bridged) fun _ => .inl
    · refine .keep ?_ rfl
      rintro partner s ⟨rfl, tells⟩
      exact .inl ⟨rfl, .inl tells⟩
  | recording outbound =>
    cases resumed
    let bridge : Bridge := { client := handle, destination := outbound }
    refine .update (f := (·.bridged bridge ⟨n, .destination⟩)) sound listed rfl ?_ rfl (.inl rfl)
    rintro partner s ⟨rfl, destination, rfl⟩
    exact ⟨destination, bridge, rfl, rfl, rfl⟩
  | bridged =>
    obtain ⟨rfl, ⟨sides, rfl⟩ | rfl⟩ := resume_bridged resumed <;> exact .keep (fun _ _ => id) rfl
  | stopping sides =>
    obtain ⟨rfl, ⟨sides, rfl⟩ | rfl⟩ := resume_stopping resumed <;> exact .keep (fun _ _ => id) rfl
  | copying upward downward =>
    cases answer <;> cases resumed <;>
      exact .keep (fun _ _ tells => tells_copied tells ..) (tracked_copied ..)
  | counting d count upward downward =>
    cases resumed
    refine .update (f := (·.onBridge (·.counted d count))) sound listed rfl
      (fun partner s (tells : Session.Bridging _ partner s) => tells.onBridge ?_ ?_) rfl (.inl rfl) <;>
      intro b <;> cases d <;> rfl
  | ending d upward downward =>
    cases resumed
    refine .update (f := (·.onBridge (·.ended d))) sound listed rfl
      (fun partner s (tells : Session.Bridging _ partner s) => tells.onBridge ?_ ?_) rfl (.inl rfl) <;>
      intro b <;> cases d <;> rfl
  | halfClosing d upward downward =>
    cases resumed
    exact .keep (fun _ _ tells => tells_bridging tells ..) (tracked_bridging ..)
  | finishing result =>
    cases resumed
    exact .update sound listed rfl (fun partner s tells => .inr ⟨s, tells, rfl⟩) rfl (.inl rfl)
  | rejecting error rest =>
    simp only [resume] at resumed
    split at resumed <;> cases resumed <;> exact .keep (fun _ _ => id) rfl
  | armingReset error =>
    cases resumed
    exact .keep (fun _ _ => id) rfl
  | marking error =>
    cases resumed
    refine .update sound listed rfl ?_ rfl (.inr ?_) <;> rintro partner s ⟨rfl, opening⟩
    · exact .inl ⟨rfl, .inr ⟨s, opening, rfl⟩⟩
    · rcases opening with rfl | ⟨destination, rfl⟩ <;> rfl
  | leaving result =>
    cases resumed
    obtain ⟨partner, s, lists, tells, own⟩ := Enters.exists_lists sound listed rfl
    exact .leaves (sound.remove _) (Registry.swaps_remove _ _) own rfl
  | ended result => cases answer

end Stage

end TransportConverter
