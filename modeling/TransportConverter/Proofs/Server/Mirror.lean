import TransportConverter.Proofs.Server.Reports
/-!
# The table mirrors the sessions

As long as the system gives out no descriptor that is in use and duplicates every socket it is asked to, the
tracked handles are at every moment those of the sessions that have entered the table and not left it, each
with its own, and whoever asks for a report under one of them is told of its session (`mirrors_sessions`).
No two sessions can collide: what a session has in the table it has open, so a descriptor that the system
has just given out is not there.
-/
namespace TransportConverter

/-- A single handle can be linked to one that is not tracked. -/
theorem Registry.link_of_untracked {σ : Type} {r : Registry σ} {s : σ} {h p : Handle}
    (lists : r.Lists h none s) (sound : r.Sound) (untracked : r.contains p = false) :
    ∃ r', r.link h p = .ok r' := by
  simp [link, untracked, lists.cell? sound (.inl rfl)]

namespace Server

/-! ## Live sessions and their handles -/

/-- The session has put its client's handle into the table. -/
def Entered (id : Nat) : List Event → Prop := Did id fun stage _ => stage = .entering

/-- The session has put its destination's handle beside that. -/
def Linked (id : Nat) (h : Handle) : List Event → Prop := Did id fun stage _ => stage = .linking h

/-- The session has taken its handles out of the table. -/
def Left (id : Nat) : List Event → Prop := Did id fun stage _ => ∃ result, stage = .leaving result

/-- The session has entered the table and has not left it. -/
def Live (id : Nat) (log : List Event) : Prop := Entered id log ∧ ¬ Left id log

/-- The handle is that of the session's client, or that of its destination once it is linked. -/
def Uses (k : Session) (log : List Event) (h : Handle) : Prop := h = k.handle ∨ Linked k.id h log

end Server

namespace Stage

variable {s : ConverterState} {stage stage' : Stage} {answer : stage.Answer}

theorem tracked_of_opening (opening : stage.opening = true) : stage.tracked = true := by
  cases stage <;> first | rfl | cases opening

theorem tracked_of_copies (copies : stage.copies = true) : stage.tracked = true := by
  cases stage <;> first | rfl | cases copies

/-- A session enters the table at one stage, leaves it at one, and is stranded at one. -/
theorem Leads.tracked (leads : Leads s stage answer stage') : stage = entering ∨
    (∃ result, stage = leaving result ∧ stage' = ended result) ∨ stage.Strands answer ∨
      stage'.tracked = stage.tracked := by
  cases leads with
  | enter => exact .inl rfl
  | barred error => exact .inl rfl
  | leave => exact .inr (.inl ⟨_, rfl, rfl⟩)
  | strand error => exact .inr (.inr (.inl trivial))
  | refuse opening => exact .inr (.inr (.inr (tracked_of_opening opening).symm))
  | drop opening => exact .inr (.inr (.inr (tracked_of_opening opening).symm))
  | copy before after =>
    exact .inr (.inr (.inr ((tracked_of_copies after).trans (tracked_of_copies before).symm)))
  | finish before => exact .inr (.inr (.inr (tracked_of_copies before).symm))
  | _ => exact .inr (.inr (.inr rfl))

section Writes

variable {k : Session} {r r' r'' : Registry SessionState}

theorem Writes.tracked_of_insert (writes : Writes k r stage stage' r') (enters : stage = entering)
    (inserted : r.insert k.handle k.firstState = .ok r'') : stage'.tracked = true := by
  subst enters
  cases writes with
  | enter inserted => rfl
  | bar refused =>
    rw [inserted] at refused
    cases refused
  | change changes => cases changes
  | nothing idle => cases idle

theorem Writes.hasEnded_of_leaving (writes : Writes k r stage stage' r')
    {result : Except ConverterError Unit} (leaves : stage = leaving result) :
    stage'.hasEnded = true := by
  subst leaves
  cases writes with
  | change changes => cases changes
  | leave => rfl
  | nothing idle => cases idle

end Writes

end Stage

namespace Server

namespace World

variable {w w' : World} {k k' : Session} {log log' : List Event} {division : Division} {h : Handle}

/-! ## No collisions -/

/-- Whoever has a socket open under a handle owns the cell that is tracked under it. -/
theorem Housed.owns (housed : w.Housed) (sound : w.Sound log) (none : ∀ id, ¬ Stranded id log)
    (mem : k ∈ w.server.sessions) {side : Side} (opened : (⟨k.id, side⟩, h) ∈ w.opened)
    {c : Cell SessionState} (there : c ∈ w.server.table.cells) (named : c.names h = true) :
    k.Owns c := by
  obtain ⟨k', mem', owns⟩ := sound.owned c there
  have going : k'.stage.hasEnded = false := by
    by_contra ended
    have out := Stage.tracked_of_hasEnded ((Bool.not_eq_false _).mp ended)
    exact none k'.id (sound.left k' mem' c there owns out)
  obtain ⟨side', opened', -⟩ := housed.mem_opened mem' there owns going named
  have number : k'.id = k.id := congrArg SessionSocket.session (housed.eq_of_handle opened' opened)
  rwa [sound.eq_of_id mem' mem number] at owns

/-- A handle that the system has just given out is not tracked. -/
theorem Housed.untracked (housed : w.Housed) (sound : w.Sound log)
    (none : ∀ id, ¬ Stranded id log) (mem : k ∈ w.server.sessions) {side : Side}
    (opened : (⟨k.id, side⟩, h) ∈ w.opened)
    (apart : ∀ c ∈ w.server.table.cells, k.Owns c → c.names h = false) :
    w.server.table.contains h = false := by
  by_contra tracked
  obtain ⟨c, found⟩ := Option.isSome_iff_exists.1 ((Bool.not_eq_false _).mp tracked)
  obtain ⟨there, named⟩ := sound.table.cell?_eq_some_iff.1 found
  rw [apart c there (housed.owns sound none mem opened there named)] at named
  cases named

/-- **A session that comes in finds its handle free.** -/
theorem Housed.insert (housed : w.Housed) (sound : w.Sound log) (none : ∀ id, ¬ Stranded id log)
    (mem : k ∈ w.server.sessions) (enters : k.stage = .entering) :
    ∃ table, w.server.table.insert k.handle k.firstState = .ok table := by
  refine Registry.insert_of_untracked ?_ _
  have opened := housed.client k mem (by rw [enters]; rfl)
  refine housed.untracked sound none mem opened fun c there owns => ?_
  have tells := owns.tells
  rw [enters] at tells
  exact tells.elim

/-- **A session that is linked finds the handle of its destination free.** -/
theorem Housed.link (housed : w.Housed) (sound : w.Sound log) (none : ∀ id, ¬ Stranded id log)
    (mem : k ∈ w.server.sessions) (links : k.stage = .linking h) :
    ∃ table, w.server.table.link k.handle h = .ok table := by
  obtain ⟨⟨s, owner, partner⟩, there, rfl, tells⟩ := sound.listed k mem (by rw [links]; rfl)
  rw [links] at tells
  obtain ⟨rfl, -⟩ := tells
  refine Registry.link_of_untracked there sound.table ?_
  have opened := housed.destination k mem h (.inl (by rw [links]; rfl))
  refine housed.untracked sound none mem opened fun c there owns => ?_
  have tells := owns.tells
  rw [links] at tells
  -- the client's socket is another one
  have client := housed.client k mem (by rw [links]; rfl)
  have other : k.handle ≠ h := by
    rintro rfl
    cases housed.eq_of_handle client opened
  simp [Cell.names, owns.owner, tells.1, other]

/-! ## Where a session is, by what it has done -/

/-- What a session has done fits to its stage and to its cell. -/
structure Fits (log : List Event) (w : World) (k : Session) : Prop where
  entered : k.stage.tracked = true → Entered k.id log
  inside : Entered k.id log → k.stage.tracked = true ∨ Left k.id log
  left : Left k.id log → k.stage.hasEnded = true
  linked : ∀ h, Linked k.id h log → Entered k.id log
  partner : ∀ c ∈ w.server.table.cells, k.Owns c → ∀ h, c.partner = some h ↔ Linked k.id h log

/-- A session that has done nothing. -/
theorem Fits.arriving (arrives : k.stage = .arriving)
    (nothing : ∀ p : (stage : Stage) → stage.Answer → Prop, ¬ Did k.id p log) : w.Fits log k where
  entered tracked := by
    rw [arrives] at tracked
    cases tracked
  inside entered := (nothing _ entered).elim
  left left := (nothing _ left).elim
  linked _ linked := (nothing _ linked).elim
  partner c _ owns := by
    have tells := owns.tells
    rw [arrives] at tells
    exact tells.elim

/-- Nothing has happened to the session. -/
theorem Fits.frame (fits : w.Fits log k)
    (cells : ∀ c, k.Owns c → c ∈ w'.server.table.cells → c ∈ w.server.table.cells)
    (nothing : ∀ p : (stage : Stage) → stage.Answer → Prop, Did k.id p log' ↔ Did k.id p log) :
    w'.Fits log' k where
  entered tracked := (nothing _).2 (fits.entered tracked)
  inside entered := (fits.inside ((nothing _).1 entered)).imp_right (nothing _).2
  left left := fits.left ((nothing _).1 left)
  linked h linked := (nothing _).2 (fits.linked h ((nothing _).1 linked))
  partner c there owns h :=
    (fits.partner c (cells c owns there) owns h).trans (nothing fun stage _ => stage = .linking h).symm

/-- A session that goes on is neither gone nor entered before it enters. -/
theorem Fits.not_left (fits : w.Fits log k) (answer : k.stage.Answer) : ¬ Left k.id log := by
  intro left
  have ended := fits.left left
  rw [Stage.not_hasEnded answer] at ended
  cases ended

theorem Fits.not_entered (fits : w.Fits log k) (enters : k.stage = .entering) :
    ¬ Entered k.id log := by
  intro entered
  rcases fits.inside entered with tracked | left
  · rw [enters] at tracked
    cases tracked
  · have ended := fits.left left
    rw [enters] at ended
    cases ended

/-- The handle beside the client's is there from the step on that links it. -/
theorem Fits.partner_renewed (fits : w.Fits log k) (answer : k.stage.Answer) {stage' : Stage}
    {c : Cell SessionState} (renews : Stage.Renews k w.server.table k.stage stage' c)
    (links : ∀ h, k.stage = .linking h → ∃ table, w.server.table.link k.handle h = .ok table) :
    c.partner = some h ↔ Linked k.id h (log ++ [.advanced k answer]) := by
  rw [Linked, did_advanced]
  change _ ↔ Linked k.id h log ∨ k.id = k.id ∧ k.stage = .linking h
  generalize own : k.stage = stage at renews
  cases renews with
  | enter inserted =>
    refine iff_of_false nofun ?_
    rintro (linked | ⟨-, links⟩)
    · exact fits.not_entered own (fits.linked h linked)
    · cases links
  | link linked before owns single =>
    have unlinked : ¬ Linked k.id h log := by
      rw [← fits.partner _ before owns, single]
      exact nofun
    simp [unlinked]
  | unlink refused before owns =>
    obtain ⟨table, linked⟩ := links _ own
    rw [linked] at refused
    cases refused
  | change changes before owns =>
    rw [or_iff_left]
    · exact fits.partner _ before owns h
    · rintro ⟨-, rfl⟩
      cases changes
  | keep idle before owns =>
    rw [or_iff_left]
    · exact fits.partner _ before owns h
    · rintro ⟨-, rfl⟩
      cases idle

/-- A step keeps to what a session has done, as long as it finds its handles free and is not stranded. -/
theorem Fits.advance (fits : w.Fits log k) (sound : w.Sound log) (mem : k ∈ w.server.sessions)
    (answer : k.stage.Answer) (strands : ¬ k.stage.Strands answer)
    (inserts : k.stage = .entering → ∃ table, w.server.table.insert k.handle k.firstState = .ok table)
    (links : ∀ h, k.stage = .linking h → ∃ table, w.server.table.link k.handle h = .ok table) :
    (w.advance k answer).Fits (log ++ [.advanced k answer])
      { k with stage := (w.next k answer).2 } := by
  have ways := (w.leads_next k answer).tracked
  constructor
  case entered =>
    intro tracked
    refine did_advanced.2 ?_
    rcases ways with enters | ⟨result, leaves, ends⟩ | strands' | same
    · exact .inr ⟨rfl, enters⟩
    · dsimp only at tracked
      rw [ends] at tracked
      cases tracked
    · exact (strands strands').elim
    · exact .inl (fits.entered (same.symm.trans tracked))
  case inside =>
    intro entered
    rcases did_advanced.1 entered with entered | ⟨-, enters⟩
    · rcases ways with enters | ⟨result, leaves, ends⟩ | strands' | same
      · exact (fits.not_entered enters entered).elim
      · exact .inr (did_advanced.2 (.inr ⟨rfl, result, leaves⟩))
      · exact (strands strands').elim
      · exact .inl (same.trans ((fits.inside entered).resolve_right (fits.not_left answer)))
    · obtain ⟨table, inserted⟩ := inserts enters
      exact .inl ((w.writes k answer).tracked_of_insert enters inserted)
  case left =>
    intro left
    rcases did_advanced.1 left with left | ⟨-, result, leaves⟩
    · exact (fits.not_left answer left).elim
    · exact (w.writes k answer).hasEnded_of_leaving leaves
  case linked =>
    intro h linked
    refine did_advanced.2 ?_
    rcases did_advanced.1 linked with linked | ⟨-, links⟩
    · exact .inl (fits.linked h linked)
    · exact .inl (fits.entered (by rw [links]; rfl))
  case partner =>
    intro c there owns h
    exact fits.partner_renewed answer (sound.renews mem answer there owns.session) links

/-- **What sessions have done fits to their stages and cells at every moment of a run** in which no socket
is stranded. -/
theorem Fresh.fits (fresh : w.Fresh) (run : Run division OpensNew w log w')
    (none : ∀ id, ¬ Stranded id log) : ∀ k ∈ w'.server.sessions, w'.Fits log k := by
  induction run with
  | start =>
    obtain ⟨config, rfl⟩ := fresh.exists_config
    intro k mem
    cases mem
  | @step log w' w'' event before allowed next ih =>
    have none' (id : Nat) (stranded : Stranded id log) : False := none id (stranded.append _)
    have fits := ih none'
    have sound := fresh.sound.run before
    have housed := fresh.housed.run fresh.sound before
    rcases acts_of_step next with
      ⟨handle, clientAddress, rfl, rfl⟩ | ⟨k', mem', answer, rfl, rfl⟩ | ⟨same, idle⟩
    · have idle (id : Nat) (p : (stage : Stage) → stage.Answer → Prop) :
          Did id p (log ++ [.accepted handle clientAddress]) ↔ Did id p log :=
        did_idle fun _ _ own => by cases own
      intro k mem
      rcases mem_accept mem with mem | ⟨new, -, arrives⟩
      · exact (fits k mem).frame (fun c _ there => there) fun p => idle k.id p
      · refine .arriving arrives fun p did => ?_
        have below := fresh.sound.did_below before ((idle k.id p).1 did)
        rw [new] at below
        exact Nat.lt_irrefl _ below
    · intro k mem
      have strands : ¬ k'.stage.Strands answer := fun strands =>
        none k'.id ⟨_, List.mem_append_right _ (.head _), rfl, strands⟩
      rcases (sound.mem_advance mem' answer).1 mem with rfl | ⟨mem, other⟩
      · exact (fits k' mem').advance sound mem' answer strands (housed.insert sound none' mem')
          fun h => housed.link sound none' mem'
      · exact (fits k mem).frame
          (fun c owns => (sound.mem_cells_advance mem' answer (owns.session ▸ other)).1)
          fun p => did_other other.symm
    · intro k mem
      rw [same.sessions] at mem
      exact (fits k mem).frame (fun c _ there => same.table ▸ there) fun p => did_idle idle

/-! ## What the table tells -/

/-- The table is what its live sessions make of it. -/
structure Mirrors (log : List Event) (w : World) : Prop where
  /-- The tracked handles are those of the live sessions. -/
  tracked : ∀ h, h ∈ w.server.trackedHandles ↔
    ∃ k ∈ w.server.sessions, Live k.id log ∧ Uses k log h
  once : w.server.trackedHandles.Nodup
  /-- No handle is that of two sessions. -/
  apart : ∀ k ∈ w.server.sessions, ∀ k' ∈ w.server.sessions, Live k.id log → Live k'.id log →
    ∀ h, Uses k log h → Uses k' log h → k = k'
  /-- Every handle of a session leads to what there is to tell about this session. -/
  reports : ∀ k ∈ w.server.sessions, Live k.id log → ∃ partner s,
    (∀ h, partner = some h ↔ Linked k.id h log) ∧ k.stage.Tells k partner s ∧
      s.clientSocket = k.clientSocket ∧ s.clientAddress = k.clientAddress ∧
        ∀ h, Uses k log h → w.server.table.lookup h = some s
  /-- What is reported under a handle of a session tells of this session: of the phase and the destination
  that it has recorded, of the bytes that it has counted, and of what the system answers about its
  sockets. -/
  stats : ∀ k ∈ w.server.sessions, Live k.id log → ∀ h, Uses k log h → ∀ system, ∃ report,
    w.server.sessionStats system h = some report ∧ report.Tells system k (trail k.id log)
  /-- Nothing is reported under any other handle. -/
  unreported : ∀ h, h ∉ w.server.trackedHandles → ∀ system, w.server.sessionStats system h = none
  /-- The two handles of a linked session are each other's peer. -/
  peers : ∀ k ∈ w.server.sessions, Live k.id log → ∀ h, Linked k.id h log →
    w.server.table.peer k.handle = some h ∧ w.server.table.peer h = some k.handle
  /-- A session that is not linked has no peer. -/
  single : ∀ k ∈ w.server.sessions, Live k.id log → (∀ h, ¬ Linked k.id h log) →
    w.server.table.peer k.handle = none
  inserts : ∀ k ∈ w.server.sessions, k.stage = .entering →
    ∃ table, w.server.table.insert k.handle k.firstState = .ok table
  links : ∀ k ∈ w.server.sessions, ∀ h, k.stage = .linking h →
    ∃ table, w.server.table.link k.handle h = .ok table

/-- A live session has its cell, under the handles that it uses. -/
theorem Fits.exists_cell (fits : w.Fits log k) (sound : w.Sound log) (mem : k ∈ w.server.sessions)
    (live : Live k.id log) : ∃ partner s, w.server.table.Lists k.handle partner s ∧
      k.stage.Tells k partner s ∧ ∀ h, partner = some h ↔ Linked k.id h log := by
  obtain ⟨entered, stays⟩ := live
  have tracked := (fits.inside entered).resolve_right stays
  obtain ⟨⟨s, owner, partner⟩, there, rfl, tells⟩ := sound.listed k mem tracked
  exact ⟨partner, s, there, tells, fits.partner _ there ⟨rfl, tells⟩⟩

/-- Who has a cell is live. -/
theorem Fits.live (fits : w.Fits log k) (tracked : k.stage.tracked = true) : Live k.id log := by
  refine ⟨fits.entered tracked, fun left => ?_⟩
  rw [Stage.tracked_of_hasEnded (fits.left left)] at tracked
  cases tracked

/-- **The table mirrors the live sessions**, however their steps come between one another, as long as the
system gives out no descriptor that is in use and every socket can be duplicated. -/
theorem mirrors_sessions (fresh : w.Fresh) (run : Run division OpensNew w log w')
    (none : ∀ id, ¬ Stranded id log) : w'.Mirrors log := by
  have sound : w'.Sound log := fresh.sound.run run
  have housed := fresh.housed.run fresh.sound run
  have fits := fresh.fits run none
  have cell {k : Session} (mem : k ∈ w'.server.sessions) (live : Live k.id log) :=
    (fits k mem).exists_cell sound mem live
  have leads {owner h : Handle} {partner : Option Handle} {s : SessionState}
      (lists : w'.server.table.Lists owner partner s) (names : h = owner ∨ partner = some h) :
      w'.server.table.lookup h = some s := by
    rw [Registry.lookup, lists.cell? sound.table names]
    rfl
  constructor
  case tracked =>
    intro h
    constructor
    · intro tracked
      obtain ⟨c, there, named⟩ := List.mem_flatMap.1 tracked
      obtain ⟨k, mem, owns⟩ := sound.owned c there
      have going : k.stage.tracked = true := by
        by_contra out
        exact none k.id (sound.left k mem c there owns (Bool.eq_false_iff.2 out))
      refine ⟨k, mem, (fits k mem).live going, ?_⟩
      rw [Cell.handles, List.mem_cons, Option.mem_toList] at named
      exact named.imp (·.trans owns.owner) ((fits k mem).partner c there owns h).1
    · rintro ⟨k, mem, live, uses⟩
      obtain ⟨partner, s, lists, -, beside⟩ := cell mem live
      refine List.mem_flatMap.2 ⟨_, lists, ?_⟩
      rw [Cell.handles, List.mem_cons, Option.mem_toList]
      exact uses.imp_right (beside h).2
  case once => exact sound.table
  case apart =>
    intro k mem k' mem' live live' h uses uses'
    obtain ⟨partner, s, lists, tells, beside⟩ := cell mem live
    obtain ⟨partner', s', lists', tells', beside'⟩ := cell mem' live'
    have found := lists.cell? sound.table (uses.imp_right (beside h).2)
    have found' := lists'.cell? sound.table (uses'.imp_right (beside' h).2)
    -- both are the one cell under the handle, and that tells its session's number
    have same := found.symm.trans found'
    simp only [Option.some_inj, Cell.mk.injEq] at same
    have number := congrArg SessionSocket.session (tells.clientSocket.symm.trans
      ((congrArg SessionState.clientSocket same.1).trans tells'.clientSocket))
    exact sound.eq_of_id mem mem' number
  case reports =>
    intro k mem live
    obtain ⟨partner, s, lists, tells, beside⟩ := cell mem live
    exact ⟨partner, s, beside, tells, tells.clientSocket, tells.records.clientAddress,
      fun h uses => leads lists (uses.imp_right (beside h).2)⟩
  case stats =>
    intro k mem live h uses system
    obtain ⟨partner, s, lists, tells, beside⟩ := cell mem live
    have found := leads lists (uses.imp_right (beside h).2)
    exact (fresh.follows run).report mem found tells.clientSocket system
  case unreported =>
    intro h untracked system
    have out : w'.server.table.cell? h = .none :=
      Option.not_isSome_iff_eq_none.1 fun there => untracked (Registry.mem_handles_iff.2 there)
    rw [Server.sessionStats, Registry.lookup, out]
    rfl
  case peers =>
    intro k mem live h linked
    obtain ⟨partner, s, lists, -, beside⟩ := cell mem live
    obtain rfl := (beside h).2 linked
    exact ⟨lists.peer sound.table, lists.peer_partner sound.table⟩
  case single =>
    intro k mem live unlinked
    obtain ⟨partner, s, lists, -, beside⟩ := cell mem live
    rw [lists.peer sound.table, Option.eq_none_iff_forall_ne_some]
    intro h there
    exact unlinked h ((beside h).1 there)
  case inserts =>
    intro k mem
    exact housed.insert sound none mem
  case links =>
    intro k mem h
    exact housed.link sound none mem

/-- The first session, when its bridge stands, and what is reported of it from its destination's side. -/
theorem mirrors_sessions_bridged :
    let division : Division := ⟨1, fun _ => 0⟩
    let w : World := { server := { config := {} } }
    w.Fresh ∧ ∃ log w', Run division OpensNew w log w' ∧ (∀ id, ¬ Stranded id log) ∧
      w'.server.trackedHandles = [⟨7⟩, ⟨9⟩] ∧
      (∀ system, ∃ report, w'.server.sessionStats system ⟨9⟩ = some report ∧
        report.phase = .bridging ∧ report.destination = some (.v4 ⟨203, 0, 113, 5⟩ 443)) ∧
      w'.Mirrors log := by
  intro division w
  have fresh : w.Fresh := ⟨{}, _, rfl, rfl⟩
  have valid : (Message.request (.v4 ⟨203, 0, 113, 5⟩ 443) none).Valid :=
    ⟨by simp [Message.request], nofun⟩
  have room : 0 < ServerConfig.maxSessions {} := by decide
  have accepted : Run division OpensNew w [.accepted ⟨7⟩ (.v4 ⟨192, 0, 2, 9⟩ 50000)]
      (w.accept ⟨7⟩ (.v4 ⟨192, 0, 2, 9⟩ 50000)) := Run.start.step List.not_mem_nil (.accept ..)
  have bridged : Reaches division OpensNew (w.accept ⟨7⟩ (.v4 ⟨192, 0, 2, 9⟩ 50000)) _ :=
    reaches_bridged room valid rfl _ (show (⟨9⟩ : Handle) ≠ ⟨7⟩ by decide)
  obtain ⟨log, bridged⟩ := bridged
  have run := accepted.append bridged
  have none (id : Nat) (stranded : Stranded id ([.accepted ⟨7⟩ (.v4 ⟨192, 0, 2, 9⟩ 50000)] ++ log)) :
      False := by
    obtain ⟨k, -, mem, ended, -⟩ := fresh.sound.abandons run stranded
    rw [List.mem_singleton.1 mem] at ended
    cases ended
  exact ⟨fresh, _, _, run, none, rfl, fun _ => ⟨_, rfl, rfl, rfl⟩, mirrors_sessions fresh run none⟩

end World

end Server

end TransportConverter
