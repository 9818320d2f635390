import TransportConverter.Proofs.Client.Tracking
/-!
# Handles that are used again

A handle is closed while an operation waits for its socket, and tracked again before the socket
answers. The operation addresses the table by its handle and cannot tell the new entry from the one it
was started on (`not_late_callers_spare`).

What it can do is bounded all the same (`late_caller`). Until the handle is tracked again there is
nothing it could change. From then on it leaves the destination and the cookie of the new entry as they
are, but not the phase, the claim or the bytes that are left to send, and it may take the entry away;
and where it was sending more than the new entry holds, it cannot go on.
-/
namespace TransportConverter

namespace Registry

variable {σ : Type} {r r' : Registry σ} {h : Handle}

theorem names_eq_false_of_untracked (untracked : r.contains h = false) :
    ∀ c ∈ r.cells, c.names h = false := by
  simpa [contains, cell?, Option.isSome_eq_false_iff] using untracked

/-- There is nothing to change or to remove under a handle that is not tracked. -/
theorem Touched.eq_of_untracked (touched : Touched h r r') (untracked : r.contains h = false) :
    r' = r := by
  have unnamed := names_eq_false_of_untracked untracked
  induction touched with
  | refl => rfl
  | update f _ ih =>
    rw [ih, Registry.update]
    congr 1
    refine (List.map_congr_left fun c mem => ?_).trans (List.map_id _)
    rw [unnamed c mem]
    rfl
  | remove _ ih =>
    rw [ih, Registry.remove]
    congr 1
    refine List.filter_eq_self.2 fun c mem => ?_
    rw [unnamed c mem]
    rfl

end Registry

namespace Engine

variable {e e' e'' : Engine} {h : Handle} {result : Engine × Progress}

/-! ## What an answer leaves as it is -/

/-- Where `h` is to be connected to and with which cookie is the same in `e'` as in `e`, unless its
entry is gone. -/
def Keeps (h : Handle) (e e' : Engine) : Prop :=
  ∀ s', e'.table.lookup h = some s' →
    ∃ s, e.table.lookup h = some s ∧ s'.destination = s.destination ∧ s'.cookie = s.cookie

namespace Keeps

theorem refl (e : Engine) (h : Handle) : Keeps h e e := fun s found => ⟨s, found, rfl, rfl⟩

theorem trans (first : Keeps h e e') (second : Keeps h e' e'') : Keeps h e e'' := by
  intro s'' found''
  obtain ⟨s', found', destination', cookie'⟩ := second s'' found''
  obtain ⟨s, found, destination, cookie⟩ := first s' found'
  exact ⟨s, found, destination'.trans destination, cookie'.trans cookie⟩

theorem update {f : RedirectState → RedirectState}
    (keeps : ∀ s, (f s).destination = s.destination ∧ (f s).cookie = s.cookie) :
    Keeps h e (e.update h f) := by
  intro s' found'
  rw [Engine.update, Registry.lookup_update_self, Option.map_eq_some_iff] at found'
  obtain ⟨s, found, rfl⟩ := found'
  exact ⟨s, found, keeps s⟩

theorem remove : Keeps h e (e.remove h) := by
  intro s' found'
  rw [Engine.remove, Registry.lookup_remove_self] at found'
  cases found'

end Keeps

theorem Settled.keeps (settled : Settled e h result) : Keeps h e result.1 := by
  cases settled with
  | notYet => exact .update fun s => ⟨rfl, rfl⟩
  | failed error => exact .update fun s => ⟨rfl, rfl⟩
  | resolved => exact .trans (.update (f := RedirectState.resolve) fun s => ⟨rfl, rfl⟩) .remove

theorem Looked.keeps (looked : Looked e h result) : Keeps h e result.1 := by
  cases looked with
  | further op same reads => exact .refl e h
  | ended settled => exact settled.keeps

theorem Flushed.keeps {pending : Bytes} {sent : Nat} (flushed : Flushed e h pending sent result) :
    Keeps h e result.1 := by
  cases flushed with
  | overrun found short => exact .refl e h
  | out whole looked => exact .trans (.update (f := (·.sent sent)) fun s => ⟨rfl, rfl⟩) looked.keeps
  | short settled => exact .trans (.update (f := (·.sent sent)) fun s => ⟨rfl, rfl⟩) settled.keeps

/-- No answer changes what a redirect is for. -/
theorem keeps_resume (e : Engine) (op : Operation) (answer : op.Answer) :
    Keeps op.handle e (e.resume op answer).1 := by
  by_cases reads : op.reads = true
  · exact (looked_resume e reads answer).keeps
  · cases op with
    | sendingRequest h request =>
      show Keeps h e (e.requestAnswered h request answer).1
      rcases requestAnswered_cases e h request answer with ⟨rest, outcome, -, eq⟩ | eq
      · rw [eq]
        exact .update fun s => ⟨rfl, rfl⟩
      · rw [eq]
        exact .remove
    | flushing h mode pending =>
      obtain ⟨sent, -, -, flushed⟩ := flushed_flushAnswered e h mode pending answer
      exact flushed.keeps
    | armingReset h error => exact .refl e h
    | _ => exact absurd rfl reads

/-! ## Who cannot go on -/

theorem Settled.ne_overrun (settled : Settled e h result) : result.2 ≠ .overrun := by
  cases settled <;> exact nofun

theorem Looked.ne_overrun (looked : Looked e h result) : result.2 ≠ .overrun := by
  cases looked with
  | further op same reads => exact nofun
  | ended settled => exact settled.ne_overrun

theorem Flushed.short_of_overrun {pending : Bytes} {sent : Nat}
    (flushed : Flushed e h pending sent result) (overrun : result.2 = .overrun) :
    ∃ s, e.table.lookup h = some s ∧ s.pending.length < sent := by
  cases flushed with
  | overrun found short => exact ⟨_, found, short⟩
  | out whole looked => exact absurd overrun looked.ne_overrun
  | short settled => exact absurd overrun settled.ne_overrun

/-- Only an operation that was sending cannot go on, and only where the table holds less by now. -/
theorem resume_overrun {op : Operation} {answer : op.Answer}
    (overrun : (e.resume op answer).2 = .overrun) :
    ∃ mode pending s, op = .flushing op.handle mode pending ∧
      e.table.lookup op.handle = some s ∧ s.pending.length < pending.length := by
  by_cases reads : op.reads = true
  · exact absurd overrun (looked_resume e reads answer).ne_overrun
  · cases op with
    | sendingRequest h request =>
      change (e.requestAnswered h request answer).2 = .overrun at overrun
      rcases requestAnswered_cases e h request answer with ⟨rest, outcome, -, eq⟩ | eq
      · rw [eq] at overrun
        cases overrun
      · rw [eq] at overrun
        cases overrun
    | flushing h mode pending =>
      obtain ⟨sent, le, -, flushed⟩ := flushed_flushAnswered e h mode pending answer
      obtain ⟨s, found, short⟩ := flushed.short_of_overrun overrun
      exact ⟨mode, pending, s, rfl, found, by omega⟩
    | armingReset h error => cases overrun
    | _ => exact absurd rfl reads

variable {log : List Event} {w w' : World} {p : Progress} {c : Caller}

/-- Nobody is stopped short in the tracking in which he began. -/
theorem Begun.ne_overrun (begun : Begun h w log w') (flying : c ∈ w'.flying h)
    (current : w'.trackings h = w.trackings h + 1) (answer : c.op.Answer) :
    (w'.engine.resume c.op answer).2 ≠ .overrun := by
  intro overrun
  obtain ⟨mode, pending, s, sending, found, short⟩ := resume_overrun overrun
  have own : c.op.handle = h := of_decide_eq_true (List.mem_filter.1 flying).2
  rw [own] at sending found
  have standing := begun.standing current found
  generalize w'.flying h = callers at flying standing
  cases standing with
  | created unasked nothing => cases flying
  | idle asks written split => cases flying
  | failed asks => cases flying
  | driven asks written due =>
    rw [List.mem_singleton] at flying
    rw [← flying, sending] at due
    rw [due.1] at short
    exact Nat.lt_irrefl _ short
  | resetting asks arms =>
    rw [List.mem_singleton] at flying
    rw [← flying, sending] at arms
    cases arms

/-! ## Late callers -/

theorem request_of_bare (destination : SocketAddress) :
    Engine.request destination none = .ok (Message.request destination none).wire := by
  have valid : (Message.request destination none).Valid := ⟨by simp [Message.request], nofun⟩
  rw [request_eq_encode, Message.encode_of_valid valid]

/-- A handle that is closed while its socket is given a request, and used again for a second request,
of which its new socket has taken nothing when the first one answers. -/
theorem begun_again :
    let h : Handle := ⟨5⟩
    let first : SocketAddress := .v4 ⟨203, 0, 113, 5⟩ 443
    let second : SocketAddress := .v4 ⟨198, 51, 100, 7⟩ 80
    let w : World :=
      { engine := { config := { converter := .v4 ⟨192, 0, 2, 1⟩ 1234 } }
        trackings := fun _ => 0, inFlight := [] }
    let request (destination : SocketAddress) := (Message.request destination none).wire
    ∃ log w', Begun h w log w' ∧ w'.trackings h = 2 ∧
      w'.flying h = [⟨1, .sendingRequest h (request first)⟩] ∧
      w'.engine.table.lookup h = some
        { phase := .awaitingRedirect, destination := some second, cookie := none
          pending := request second } := by
  intro h first second w request
  have asked := Run.step .start (.call h (.connect first)
    (start_of_created (e := (w.track h).engine) rfl rfl (request_of_bare first)))
  have again := (asked.step (.close h)).step (.track h)
  have asked' := again.step (.call h (.connect second)
    (start_of_created rfl rfl (request_of_bare second)))
  have connecting := asked'.step
    (@Step.answer _ [] [⟨1, .sendingRequest h (request first)⟩]
      ⟨2, .sendingRequest h (request second)⟩ rfl (.error (.system 115)) _ _ rfl)
  exact ⟨_, _, ⟨rfl, rfl, connecting⟩, rfl, rfl, rfl⟩

/-- **What a late caller can do.** A caller that waits for its socket goes on in the tracking in which it
began. While the handle is not tracked its answer changes nothing. Where the handle is tracked again, the
new entry keeps its destination and its cookie or is taken away, and the caller cannot go on only if it
was sending more than the new entry holds. -/
theorem late_caller (begun : Begun h w log w') (flying : c ∈ w'.flying h) {answer : c.op.Answer}
    (resumed : w'.engine.resume c.op answer = (e, p)) :
    e.config = w'.engine.config ∧
    (w'.trackings h = w.trackings h + 1 → p ≠ .overrun) ∧
    (w'.engine.table.contains h = false → e = w'.engine ∧ p ≠ .overrun) ∧
    (∀ k s, k ≠ h → w'.engine.table.Alone k s → e.table.Alone k s) ∧
    ∀ s, w'.engine.table.lookup h = some s →
      (∀ s', e.table.lookup h = some s' → s'.destination = s.destination ∧ s'.cookie = s.cookie) ∧
      (p = .overrun → ∃ mode pending, c.op = .flushing h mode pending ∧
        s.pending.length < pending.length) := by
  have own : c.op.handle = h := of_decide_eq_true (List.mem_filter.1 flying).2
  have confined := confined_resume w'.engine c.op answer
  have keeps := keeps_resume w'.engine c.op answer
  have stopped := @resume_overrun w'.engine c.op answer
  have lasting := begun.ne_overrun flying
  rw [resumed, own] at confined keeps
  rw [resumed, own] at stopped
  refine ⟨confined.config, fun current => ?_, fun untracked => ⟨?_, ?_⟩, ?_, fun s found => ⟨?_, ?_⟩⟩
  · have := lasting current answer
    rwa [resumed] at this
  · obtain ⟨config, table⟩ := e
    obtain rfl : config = w'.engine.config := confined.config
    obtain rfl : table = w'.engine.table := confined.touched.eq_of_untracked untracked
    rfl
  · intro overrun
    obtain ⟨mode, pending, s, -, found, -⟩ := stopped overrun
    rw [Registry.lookup_of_untracked untracked] at found
    cases found
  · exact fun k s ne alone => confined.touched.alone ne alone
  · intro s' found'
    obtain ⟨s₀, found₀, same⟩ := keeps s' found'
    rw [found] at found₀
    cases found₀
    exact same
  · intro overrun
    obtain ⟨mode, pending, s₀, sending, found₀, short⟩ := stopped overrun
    rw [found] at found₀
    cases found₀
    exact ⟨mode, pending, sending, short⟩

/-- The first socket says that it took all of its request: the new entry is left with nothing to send,
and its destination. -/
theorem late_caller_connected :
    let h : Handle := ⟨5⟩
    let first : SocketAddress := .v4 ⟨203, 0, 113, 5⟩ 443
    let second : SocketAddress := .v4 ⟨198, 51, 100, 7⟩ 80
    let w : World :=
      { engine := { config := { converter := .v4 ⟨192, 0, 2, 1⟩ 1234 } }
        trackings := fun _ => 0, inFlight := [] }
    let request := (Message.request first none).wire
    ∃ log w' e p s', Begun h w log w' ∧
      ⟨1, .sendingRequest h request⟩ ∈ w'.flying h ∧
      w'.engine.resume (.sendingRequest h request) (.ok 25) = (e, p) ∧ p ≠ .overrun ∧
      e.table.lookup h = some s' ∧ s'.pending = [] ∧ s'.destination = some second := by
  intro h first second w request
  obtain ⟨log, w', begun, again, flying, found⟩ := begun_again
  have member : ⟨1, .sendingRequest h request⟩ ∈ w'.flying h := by
    rw [flying]
    exact List.mem_singleton_self _
  obtain ⟨-, -, -, -, kept⟩ := @late_caller _ _ _ _ _ _ _ begun member (.ok 25) rfl
  have found' : (w'.engine.resume (.sendingRequest h request) (.ok 25)).1.table.lookup h =
      some { phase := .awaitingRedirect, destination := some second, cookie := none } := by
    show (w'.engine.table.update h (·.requested [])).lookup h = _
    rw [Registry.lookup_update_self, found]
    rfl
  obtain ⟨same, stopped⟩ := kept _ found
  refine ⟨log, w', _, _, _, begun, member, rfl, fun overrun => ?_, found', rfl, ?_⟩
  · obtain ⟨mode, pending, sending, -⟩ := stopped overrun
    cases sending
  · exact (same _ found').1

/-- A late caller does not spare the new entry. -/
theorem not_late_callers_spare :
    ¬ ∀ (h : Handle) (w w' : World) (log : List Event) (c : Caller), Begun h w log w' →
      c ∈ w'.flying h → c.tracking < w'.trackings h → ∀ answer : c.op.Answer,
        (w'.engine.resume c.op answer).2 ≠ .overrun ∧
        (w'.engine.resume c.op answer).1.table.lookup h = w'.engine.table.lookup h := by
  intro spare
  obtain ⟨log, w', begun, again, flying, found⟩ := begun_again
  have late := spare ⟨5⟩ _ w' log _ begun (flying ▸ List.mem_singleton_self _)
    (again ▸ Nat.one_lt_two)
  have taken : (w'.engine.table.update ⟨5⟩ (·.requested [])).lookup ⟨5⟩ =
    w'.engine.table.lookup ⟨5⟩ := (late (Except.ok 25 : Except IoError Nat)).2
  rw [Registry.lookup_update_self, found, Option.map_some, Option.some_inj] at taken
  exact absurd (congrArg (fun s => s.pending.length) taken) (by decide)

end Engine

end TransportConverter
