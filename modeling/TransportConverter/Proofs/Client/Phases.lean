import TransportConverter.Proofs.Client.Failing
import TransportConverter.Proofs.Client.Reuse
/-!
# The phases of a redirect

Eight operations rewrite an entry, each with several ways to end, and others see it in the middle of
all of them. What they see is always proper (`RedirectState.Proper`), and what any step does to it
is one of a few moves (`Moves`): created, then awaiting an answer, then failed or gone.

The main result is `phases_advance`, over all runs in which no handle is tracked again while an
operation of an earlier tracking is in flight (`Orderly`): **entries are proper and only move
forward, their destination is set once, only a failed look for the answer makes one failed, and a
failed entry refuses every call and stays as it is until it is closed.**
-/
namespace TransportConverter

/-- What holds of an entry whenever anybody looks at it. -/
structure RedirectState.Proper (cookie : Option Bytes) (s : RedirectState) : Prop where
  cookie : s.cookie = cookie
  unresolved : s.phase ≠ .resolved
  created : s.phase = .created → s.destination = none ∧ s.pending = [] ∧ s.claimed = false
  connected : s.phase ≠ .created → s.destination.isSome = true
  failed : s.phase = .failed → s.pending = [] ∧ s.claimed = false

namespace Engine

variable {config : ClientConfig} {h k : Handle} {log more : List Event} {event : Event}
  {w w' w₀ : World} {e e' : Engine} {s s' : RedirectState} {p : Progress} {call : Call}

/-! ## Runs -/

/-- Runs of an engine that begins with nothing, in which no handle is tracked again while an
operation of an earlier tracking is in flight. -/
inductive Orderly (config : ClientConfig) : List Event → World → Prop
  | start : Orderly config [] { engine := { config }, trackings := fun _ => 0, inFlight := [] }
  | step {log : List Event} {w w' : World} {event : Event} (run : Orderly config log w)
      (step : Step w event w')
      (clear : ∀ h, event = .tracked h → w.engine.table.contains h = false → w.flying h = []) :
      Orderly config (log ++ [event]) w'

theorem Run.append (run : Run w log w') {w'' : World} (rest : Run w' more w'') :
    Run w (log ++ more) w'' := by
  induction rest with
  | start => simpa using run
  | step _ step ih =>
    rw [← List.append_assoc]
    exact ih.step step

theorem Begun.append (begun : Begun h w₀ log w) (run : Run w more w') :
    Begun h w₀ (log ++ more) w' :=
  ⟨begun.untracked, begun.quiet, begun.run.append run⟩

/-- What a step leaves untracked, or tracks. -/
theorem untracked_of_step (step : Step w event w') (untracked : w.engine.table.contains h = false)
    (other : event ≠ .tracked h) : w'.engine.table.contains h = false := by
  cases step with
  | track k =>
    have ne : h ≠ k := by
      rintro rfl
      exact other rfl
    cases inserted : w.engine.table.insert k { cookie := w.engine.config.cookie } with
    | error error => rwa [track_of_refused inserted]
    | ok table =>
      rw [track_of_insert inserted, Registry.contains, Registry.cell?_of_insert inserted ne]
      exact untracked
  | close k => exact Registry.untracked_remove untracked k
  | call k call started =>
    have confined := (started_start w.engine k call).confined
    rw [started] at confined
    exact confined.touched.untracked untracked
  | @answer before after c place answer engine p resumed =>
    have confined := confined_resume w.engine c.op answer
    rw [resumed] at confined
    exact confined.touched.untracked untracked

/-- A handle that is tracked is not tracked again. -/
theorem trackings_of_step (step : Step w event w') (tracked : w.engine.table.contains h = true) :
    w'.trackings h = w.trackings h := by
  cases step with
  | track k =>
    cases inserted : w.engine.table.insert k { cookie := w.engine.config.cookie } with
    | error error => rw [track_of_refused inserted]
    | ok table =>
      have ne : h ≠ k := by
        rintro rfl
        simp [Registry.insert, tracked] at inserted
      rw [track_of_insert inserted]
      exact if_neg ne
  | close k => rfl
  | call k call started => rfl
  | answer place answer resumed => rfl

theorem config_of_step (step : Step w event w') : w'.engine.config = w.engine.config := by
  cases step with
  | track k =>
    cases inserted : w.engine.table.insert k { cookie := w.engine.config.cookie } with
    | error error => rw [track_of_refused inserted]
    | ok table => rw [track_of_insert inserted]
  | close k => rfl
  | call k call started =>
    have confined := (started_start w.engine k call).confined
    rw [started] at confined
    exact confined.config
  | @answer before after c place answer engine p resumed =>
    have confined := confined_resume w.engine c.op answer
    rw [resumed] at confined
    exact confined.config

namespace Orderly

theorem config_eq (orderly : Orderly config log w) : w.engine.config = config := by
  induction orderly with
  | start => rfl
  | step run step clear ih => rw [config_of_step step, ih]

/-- Every entry is that of a tracking which began with nobody in flight. -/
theorem begun (orderly : Orderly config log w) (tracked : w.engine.table.contains h = true) :
    ∃ w₀ log', Begun h w₀ log' w ∧ w.trackings h = w₀.trackings h + 1 := by
  induction orderly with
  | start => cases tracked
  | @step log w w' event run step clear ih =>
    by_cases before : w.engine.table.contains h = true
    · obtain ⟨w₀, log', begun, current⟩ := ih before
      refine ⟨w₀, _, begun.append (.step .start step), ?_⟩
      rw [trackings_of_step step before, current]
    · have untracked : w.engine.table.contains h = false := by simpa using before
      by_cases own : event = .tracked h
      · subst own
        cases step with
        | track =>
          refine ⟨w, [], ⟨untracked, clear h rfl untracked, .start⟩, ?_⟩
          obtain ⟨table, inserted⟩ :=
            Registry.insert_of_untracked untracked { cookie := w.engine.config.cookie }
          rw [track_of_insert inserted]
          exact if_pos rfl
      · rw [untracked_of_step step untracked own] at tracked
        cases tracked

end Orderly

/-! ## What stands in the table -/

/-- `h` is not tracked, or its entry and those in flight on it go together. -/
def World.Stands (w : World) (h : Handle) : Prop :=
  w.engine.table.contains h = false ∨ ∃ asked accepted s, w.engine.table.Alone h s ∧
    Standing w.engine.config asked accepted s (w.flying h)

theorem Begun.stands (begun : Begun h w₀ log w) (current : w.trackings h = w₀.trackings h + 1) :
    w.Stands h := by
  have sound := begun.sound
  rcases sound.current current with untracked | ⟨-, s, alone, standing⟩
  · exact .inl untracked
  · refine .inr ⟨asked h log, accepted h log, s, alone, ?_⟩
    rw [sound.unchanged]
    exact standing

theorem Orderly.stands (orderly : Orderly config log w) (h : Handle) : w.Stands h := by
  by_cases tracked : w.engine.table.contains h = true
  · obtain ⟨w₀, log', begun, current⟩ := orderly.begun tracked
    exact begun.stands current
  · exact .inl (by simpa using tracked)

theorem tracked_of_lookup (found : w.engine.table.lookup h = some s) :
    w.engine.table.contains h = true := by
  cases tracked : w.engine.table.contains h with
  | true => rfl
  | false =>
    rw [Registry.lookup_of_untracked tracked] at found
    cases found

namespace Standing

variable {asked : Option SocketAddress} {accepted : Bytes} {callers : List Caller}

theorem destination_eq (standing : Standing config asked accepted s callers) :
    s.destination = asked := by
  cases standing with
  | created unasked nothing => exact unasked.symm
  | idle asks written split => exact asks.symm
  | driven asks written due => exact asks.symm
  | resetting asks arms => exact asks.symm
  | failed asks => exact asks.symm

theorem proper (standing : Standing config asked accepted s callers) : s.Proper config.cookie := by
  cases standing with
  | created unasked nothing => constructor <;> simp
  | idle asks written split => constructor <;> simp
  | driven asks written due => constructor <;> simp
  | resetting asks arms => constructor <;> simp
  | failed asks => constructor <;> simp

end Standing

/-- Nobody is stopped short in an orderly run. -/
theorem Orderly.ne_overrun (orderly : Orderly config log w) {c : Caller} (flying : c ∈ w.inFlight)
    (answer : c.op.Answer) : (w.engine.resume c.op answer).2 ≠ .overrun := by
  intro overrun
  obtain ⟨mode, pending, s, -, found, -⟩ := resume_overrun overrun
  obtain ⟨w₀, log', begun, current⟩ := orderly.begun (tracked_of_lookup found)
  have own : c ∈ w.flying c.op.handle := List.mem_filter.2 ⟨flying, decide_eq_true rfl⟩
  exact begun.ne_overrun own current answer overrun

/-! ## Moves -/

/-- What a step can do to the entry of `h`. -/
inductive Moves (config : ClientConfig) (h : Handle) :
    Event → Option RedirectState → Option RedirectState → Prop
  | still {event : Event} {entry : Option RedirectState} : Moves config h event entry entry
  | tracked : Moves config h (.tracked h) none (some { cookie := config.cookie })
  | closed {entry : Option RedirectState} : Moves config h (.closed h) entry none
  | connects {n : Nat} {destination : SocketAddress} {request : Bytes} {s : RedirectState}
      (fresh : s.phase = .created) :
      Moves config h (.called h n (.connect destination) (.waiting (.sendingRequest h request)))
        (some s) (some (s.connecting destination))
  /-- There is no request for that destination. -/
  | givesUp {n : Nat} {destination : SocketAddress} {s : RedirectState}
      (fresh : s.phase = .created) :
      Moves config h (.called h n (.connect destination) (.done (.connect (.ok .fallback))))
        (some s) none
  /-- The claim is taken or given up, or more of the request is out. -/
  | proceeds {event : Event} {s s' : RedirectState} (awaits : s.phase = .awaitingRedirect)
      (awaits' : s'.phase = .awaitingRedirect) (destination : s'.destination = s.destination)
      (cookie : s'.cookie = s.cookie) : Moves config h event (some s) (some s')
  /-- The request could not be sent. -/
  | fallsBack {n : Nat} {request : Bytes} {answer : Except IoError Nat} {s : RedirectState}
      (awaits : s.phase = .awaitingRedirect) :
      Moves config h (.answered ⟨n, .sendingRequest h request⟩ answer
        (.done (.connect (.ok .fallback)))) (some s) none
  | resolves {c : Caller} {answer : c.op.Answer} {s : RedirectState} (own : c.handle = h)
      (awaits : s.phase = .awaitingRedirect) :
      Moves config h (.answered c answer (.done (.read (.ok .resolved)))) (some s) none
  | fails {c : Caller} {answer : c.op.Answer} {error : RedirectError} {s : RedirectState}
      (own : c.handle = h) (awaits : s.phase = .awaitingRedirect)
      (fails : c.op.Fails answer error) :
      Moves config h (.answered c answer (.waiting (.armingReset h error))) (some s) (some s.fail)

/-- What happens elsewhere does not move the entry of `h`. -/
theorem World.Stands.lookup_eq (stands : w.Stands h) {table : Registry RedirectState}
    (untracked : w.engine.table.contains h = false → table.contains h = false)
    (alone : ∀ s, w.engine.table.Alone h s → table.Alone h s) :
    table.lookup h = w.engine.table.lookup h := by
  rcases stands with gone | ⟨asked, accepted, s, there, -⟩
  · rw [Registry.lookup_of_untracked (untracked gone), Registry.lookup_of_untracked gone]
  · rw [(alone s there).lookup, there.lookup]

theorem moves_track (w : World) (h k : Handle) :
    Moves w.engine.config h (.tracked k) (w.engine.table.lookup h)
      ((w.track k).engine.table.lookup h) := by
  cases inserted : w.engine.table.insert k { cookie := w.engine.config.cookie } with
  | error error =>
    rw [track_of_refused inserted]
    exact .still
  | ok table =>
    rw [track_of_insert inserted]
    by_cases own : h = k
    · subst own
      have before : w.engine.table.lookup h = none := by
        refine Registry.lookup_of_untracked ?_
        cases tracked : w.engine.table.contains h with
        | true => simp [Registry.insert, tracked] at inserted
        | false => rfl
      rw [before, (Registry.alone_of_insert inserted).lookup]
      exact .tracked
    · have same : table.lookup h = w.engine.table.lookup h := by
        rw [Registry.lookup, Registry.cell?_of_insert inserted own]
        rfl
      show Moves _ h _ _ (table.lookup h)
      rw [same]
      exact .still

theorem moves_close (stands : w.Stands h) (k : Handle) :
    Moves w.engine.config h (.closed k) (w.engine.table.lookup h)
      ((w.close k).engine.table.lookup h) := by
  by_cases own : h = k
  · subst own
    have after : (w.close h).engine.table.lookup h = none :=
      Registry.lookup_remove_self w.engine.table h
    rw [after]
    exact .closed
  · have same : (w.close k).engine.table.lookup h = w.engine.table.lookup h :=
      stands.lookup_eq (fun gone => Registry.untracked_remove gone k)
        (fun s alone => alone.remove_ne own)
    rw [same]
    exact .still

/-- A call gives a handle up only where a new connect has no request. -/
theorem fresh_of_fallback (started : (e.start h call).2 = .done (.connect (.ok .fallback))) :
    ∃ destination s, call = .connect destination ∧ e.table.lookup h = some s ∧
      s.phase = .created := by
  have looks (mode : WaitMode) : (e.drive h mode).2 ≠ .done (.connect (.ok .fallback)) := by
    unfold drive flush readReply
    repeat' split
    all_goals exact nofun
  cases call with
  | connect destination =>
    change (e.tryConnect h destination).2 = _ at started
    unfold tryConnect at started
    split at started
    · cases started
    rename_i s found
    split at started
    · cases started
    rename_i fresh
    exact ⟨destination, s, rfl, found, Decidable.not_not.1 fresh⟩
  | readable => exact absurd started (looks .polling)
  | send => exact absurd started (looks .polling)
  | await => exact absurd started (looks .blocking)

theorem moves_call (stands : w.Stands h) (started : w.engine.start k call = (e, p)) (n : Nat) :
    Moves w.engine.config h (.called k n call p) (w.engine.table.lookup h) (e.table.lookup h) := by
  have spec := started_start w.engine k call
  rw [started] at spec
  by_cases own : h = k
  · subst own
    cases spec with
    | idle calm late => exact .still
    | @connects destination s request asks found fresh written =>
      have connect : call = .connect destination := by
        cases call with
        | connect destination' => rw [Option.some.inj asks]
        | readable | send | await => cases asks
      rw [Engine.update, Registry.lookup_update_self, found, connect]
      exact .connects fresh
    | givesUp =>
      obtain ⟨destination, s, rfl, found, fresh⟩ := fresh_of_fallback (congrArg Prod.snd started)
      rw [Engine.remove, Registry.lookup_remove_self, found]
      exact .givesUp fresh
    | @drives s op found awaits free same next =>
      rw [Engine.update, Registry.lookup_update_self, found]
      exact .proceeds awaits awaits rfl rfl
  · have confined := spec.confined
    rw [stands.lookup_eq confined.touched.untracked fun s => confined.touched.alone own]
    exact .still

section Answer
variable {c : Caller} {answer : c.op.Answer}

/-- A look that has ended moves the entry as far as it should. -/
theorem moves_settled {sent : Nat} (own : c.handle = h) (found : e.table.lookup h = some s)
    (awaits : s.phase = .awaitingRedirect)
    (settled : Settled (e.update h (·.sent sent)) h (e', p))
    (resumed : (e.resume c.op answer).2 = p) :
    Moves config h (.answered c answer p) (some s) (e'.table.lookup h) := by
  cases settled with
  | notYet =>
    simp only [Engine.update, Registry.lookup_update_self, found, Option.map_some]
    exact .proceeds awaits awaits rfl rfl
  | failed error =>
    simp only [Engine.update, Registry.lookup_update_self, found, Option.map_some]
    exact .fails own awaits (fails_of_arms resumed).2
  | resolved =>
    simp only [Engine.remove, Registry.lookup_remove_self]
    exact .resolves own awaits

theorem moves_looked {sent : Nat} (own : c.handle = h) (found : e.table.lookup h = some s)
    (awaits : s.phase = .awaitingRedirect)
    (looked : Looked (e.update h (·.sent sent)) h (e', p))
    (resumed : (e.resume c.op answer).2 = p) :
    Moves config h (.answered c answer p) (some s) (e'.table.lookup h) := by
  cases looked with
  | further op same further =>
    simp only [Engine.update, Registry.lookup_update_self, found, Option.map_some]
    exact .proceeds awaits awaits rfl rfl
  | ended settled => exact moves_settled own found awaits settled resumed

/-- **An answer moves the entry on**, as the caller that was answered has the claim. -/
theorem moves_resume {asked : Option SocketAddress} {accepted : Bytes}
    (standing : Standing w.engine.config asked accepted s [c])
    (found : w.engine.table.lookup c.handle = some s)
    (resumed : w.engine.resume c.op answer = (e, p)) :
    Moves config c.handle (.answered c answer p) (some s) (e.table.lookup c.handle) := by
  obtain ⟨n, op⟩ := c
  have progress : (w.engine.resume op answer).2 = p := congrArg Prod.snd resumed
  cases standing with
  | @resetting destination _ asks arms =>
    cases op with
    | armingReset h error =>
      cases resumed
      rw [found]
      exact .still
    | _ => cases arms
  | @driven destination request pending _ asks written due =>
    by_cases reads : op.reads = true
    · have looked := looked_resume w.engine reads answer
      rw [resumed, ← update_sent_zero w.engine op.handle] at looked
      exact moves_looked rfl found rfl looked progress
    cases op with
    | sendingRequest h request' =>
      rcases requestAnswered_cases w.engine h request' answer with ⟨rest, outcome, -, eq⟩ | eq
      · cases eq.symm.trans resumed
        simp only [Engine.update, Caller.handle, Operation.handle, Registry.lookup_update_self]
        rw [show w.engine.table.lookup h = _ from found]
        exact .proceeds rfl rfl rfl rfl
      · cases eq.symm.trans resumed
        simp only [Engine.remove, Caller.handle, Operation.handle, Registry.lookup_remove_self]
        exact .fallsBack rfl
    | flushing h mode pending' =>
      obtain ⟨sent, -, -, flushed⟩ := flushed_flushAnswered w.engine h mode pending' answer
      change w.engine.flushAnswered h mode pending' answer = (e, p) at resumed
      rw [resumed] at flushed
      cases flushed with
      | overrun found' short =>
        rw [found]
        exact .still
      | out whole looked => exact moves_looked rfl found rfl looked progress
      | short settled => exact moves_settled rfl found rfl settled progress
    | armingReset h error => exact absurd due id
    | _ => exact absurd rfl reads

theorem moves_answer (stands : w.Stands h) {before after : List Caller}
    (place : w.inFlight = before ++ c :: after) (resumed : w.engine.resume c.op answer = (e, p)) :
    Moves w.engine.config h (.answered c answer p) (w.engine.table.lookup h)
      (e.table.lookup h) := by
  have confined := confined_resume w.engine c.op answer
  rw [resumed] at confined
  by_cases own : h = c.handle
  · subst own
    rcases stands with gone | ⟨asked, accepted, s, alone, standing⟩
    · rw [Registry.lookup_of_untracked gone,
        Registry.lookup_of_untracked (confined.touched.untracked gone)]
      exact .still
    · obtain ⟨others, after', flying⟩ :
          ∃ others after', w.flying c.handle = others ++ c :: after' := by
        have flying := flying_answer (p := p) place confined.handle e c.handle
        rw [if_pos rfl] at flying
        obtain ⟨others, after', flying, -⟩ := flying
        exact ⟨others, after', flying⟩
      rw [flying] at standing
      obtain ⟨rfl, rfl⟩ := standing.eq_singleton
      rw [alone.lookup]
      exact moves_resume standing alone.lookup resumed
  · rw [stands.lookup_eq confined.touched.untracked fun s => confined.touched.alone own]
    exact .still

end Answer

/-- **Every step moves every entry on or not at all.** -/
theorem moves_step (stands : w.Stands h) (step : Step w event w') :
    Moves w.engine.config h event (w.engine.table.lookup h) (w'.engine.table.lookup h) := by
  cases step with
  | track k => exact moves_track w h k
  | close k => exact moves_close stands k
  | call k call started => exact moves_call stands started _
  | answer place answer resumed => exact moves_answer stands place resumed

/-- Only closing moves a failed entry. -/
theorem Moves.of_failed {entry : Option RedirectState} (moves : Moves config h event (some s) entry)
    (failed : s.phase = .failed) (kept : event ≠ .closed h) : entry = some s := by
  cases moves with
  | still => rfl
  | closed => exact absurd rfl kept
  | connects fresh => rw [fresh] at failed; cases failed
  | givesUp fresh => rw [fresh] at failed; cases failed
  | proceeds awaits => rw [awaits] at failed; cases failed
  | fallsBack awaits => rw [awaits] at failed; cases failed
  | resolves own awaits => rw [awaits] at failed; cases failed
  | fails own awaits => rw [awaits] at failed; cases failed

/-! ## From failing to closing -/

/-- How every call is answered once the redirect of `h` has failed. -/
def Call.afterFailure (h : Handle) : Call → OperationResult
  | .connect _ => .connect (.error (.alreadyConnecting h))
  | .readable | .send | .await => .read (.error (.failed h))

theorem start_of_failed (found : e.table.lookup h = some s) (failed : s.phase = .failed)
    (call : Call) : e.start h call = (e, .done (call.afterFailure h)) := by
  cases call <;>
    simp [start, tryConnect, onReadable, onSend, awaitReply, drive, found, failed,
      Call.afterFailure]

/-- **A failed entry stays as it is** until its handle is closed, by induction over the steps. -/
theorem Begun.failed_lasts (begun : Begun h w₀ log w)
    (current : w.trackings h = w₀.trackings h + 1) (found : w.engine.table.lookup h = some s)
    (failed : s.phase = .failed) (run : Run w more w') (kept : .closed h ∉ more) :
    w'.engine.table.lookup h = some s ∧ w'.trackings h = w₀.trackings h + 1 := by
  induction run with
  | start => exact ⟨found, current⟩
  | @step more w₁ w₂ event run step ih =>
    simp only [List.mem_append, List.mem_singleton, not_or] at kept
    obtain ⟨there, same⟩ := ih kept.1
    have moves := moves_step ((begun.append run).stands same) step
    rw [there] at moves
    refine ⟨moves.of_failed failed (Ne.symm kept.2), ?_⟩
    rw [trackings_of_step step (tracked_of_lookup there), same]

theorem asked_append (h : Handle) (log more : List Event) :
    asked h (log ++ more) = (asked h log).or (asked h more) := by
  simp [asked, List.findSome?_append]

/-- Where a handle is to be connected to is set once in a tracking. -/
theorem Begun.destination_lasts (begun : Begun h w₀ log w)
    (current : w.trackings h = w₀.trackings h + 1) (found : w.engine.table.lookup h = some s)
    {destination : SocketAddress} (there : s.destination = some destination)
    (run : Run w more w') (same : w'.trackings h = w.trackings h)
    (found' : w'.engine.table.lookup h = some s') : s'.destination = some destination := by
  have first := (begun.standing current found).destination_eq
  have second := ((begun.append run).standing (same.trans current) found').destination_eq
  rw [second, asked_append, ← first, there, Option.some_or]

/-! ## Operations in a run -/

/-- What one operation leaves in the log, and the socket calls in it: it was called, and answered one
socket call after the other. -/
inductive Unfolds (h : Handle) (tracking : Nat) (call : Call) :
    List Event → List ((op : Operation) × op.Answer) → Progress → Prop
  | called (p : Progress) : Unfolds h tracking call [.called h tracking call p] [] p
  | answered {events : List Event} {calls : List ((op : Operation) × op.Answer)} {op : Operation}
      (before : Unfolds h tracking call events calls (.waiting op)) (answer : op.Answer)
      (p : Progress) :
      Unfolds h tracking call (events ++ [.answered ⟨tracking, op⟩ answer p])
        (calls ++ [⟨op, answer⟩]) p

/-- A caller that the log tells of: it was called, and has lived on since. -/
def Lives (log : List Event) (c : Caller) : Prop :=
  ∃ call events calls, Unfolds c.handle c.tracking call events calls (.waiting c.op) ∧
    events.Sublist log ∧ Life c.handle call calls (.waiting c.op)

theorem Lives.later {c : Caller} (lives : Lives log c) (event : Event) :
    Lives (log ++ [event]) c := by
  obtain ⟨call, events, calls, unfolds, told, life⟩ := lives
  exact ⟨call, events, calls, unfolds, told.trans (List.sublist_append_left log [event]), life⟩

/-- Whoever was let in just now lives. -/
theorem lives_call {op : Operation} (started : w.engine.start k call = (e, .waiting op)) :
    Lives (log ++ [.called k (w.trackings k) call (.waiting op)]) ⟨w.trackings k, op⟩ := by
  obtain rfl : op.handle = k := by
    have confined := (started_start w.engine k call).confined
    rw [started] at confined
    exact confined.handle op rfl
  have life : Life op.handle call [] (w.engine.start op.handle call).2 := .called w.engine
  rw [started] at life
  exact ⟨call, _, [], .called (.waiting op), List.sublist_append_right log _, life⟩

/-- Whoever goes on lives on. -/
theorem Lives.answered {c : Caller} (lives : Lives log c) {answer : c.op.Answer} {op : Operation}
    (resumed : w.engine.resume c.op answer = (e, .waiting op)) :
    Lives (log ++ [.answered c answer (.waiting op)]) ⟨c.tracking, op⟩ := by
  have same : op.handle = c.handle := by
    have confined := confined_resume w.engine c.op answer
    rw [resumed] at confined
    exact confined.handle op rfl
  obtain ⟨call, events, calls, unfolds, told, life⟩ := lives
  have goes : (w.engine.resume c.op answer).2 ≠ .overrun := by
    rw [resumed]
    exact nofun
  have onward := life.answered w.engine answer goes
  rw [resumed] at onward
  refine ⟨call, _, calls ++ [⟨c.op, answer⟩], ?_, told.append (List.Sublist.refl _), ?_⟩
  · rw [Caller.handle, same]
    exact unfolds.answered answer _
  · rw [Caller.handle, same]
    exact onward

/-- Whoever is in flight lives. -/
theorem Orderly.lives (orderly : Orderly config log w) {c : Caller} (flying : c ∈ w.inFlight) :
    Lives log c := by
  induction orderly generalizing c with
  | start => cases flying
  | @step log w w' event run step clear ih =>
    cases step with
    | track k =>
      cases inserted : w.engine.table.insert k { cookie := w.engine.config.cookie } with
      | error error =>
        rw [track_of_refused inserted] at flying
        exact (ih flying).later _
      | ok table =>
        rw [track_of_insert inserted] at flying
        exact (ih flying).later _
    | close k => exact (ih flying).later _
    | @call k call engine p started =>
      rcases List.mem_append.1 flying with new | there
      · cases p with
        | waiting op =>
          rw [List.mem_singleton.1 new]
          exact lives_call started
        | done r => cases new
        | overrun => cases new
      · exact (ih there).later _
    | @answer before after c₀ place answer engine p resumed =>
      have there : c₀ ∈ w.inFlight := by simp [place]
      rcases List.mem_append.1 flying with first | last
      · rcases List.mem_append.1 first with earlier | new
        · exact (ih (by simp [place, earlier])).later _
        · cases p with
          | waiting op =>
            rw [List.mem_singleton.1 new]
            exact (ih there).answered resumed
          | done r => cases new
          | overrun => cases new
      · exact (ih (by simp [place, last])).later _

/-- An operation that fails sets its entry to failed, if there is one. -/
theorem Orderly.lookup_of_fails (orderly : Orderly config log w) {c : Caller}
    (flying : c ∈ w.inFlight) {answer : c.op.Answer} {error : RedirectError}
    (fails : c.op.Fails answer error) :
    (w.engine.resume c.op answer).1.table.lookup c.handle =
      (w.engine.table.lookup c.handle).map RedirectState.fail := by
  obtain ⟨sent, eq⟩ := resume_of_fails fails (orderly.ne_overrun flying answer)
  rw [eq]
  simp only [fail, Engine.update, Caller.handle, Registry.lookup_update_self, Option.map_map]
  rfl

/-- **The phases of a redirect.** In every orderly run: entries are proper; a step moves an entry on
or leaves it, and its destination is set once; an operation that is answered by its socket takes its
course, so it fails once or not at all, makes the socket reset exactly once if it does, among all the
calls that the log has of it, and sets the entry to failed if there is one; and a failed entry refuses
every call without a socket call, and stays as it is, until its handle is closed. -/
theorem phases_advance (orderly : Orderly config log w) :
    (∀ h s, w.engine.table.lookup h = some s → s.Proper config.cookie) ∧
    (∀ h event w', Step w event w' →
      Moves config h event (w.engine.table.lookup h) (w'.engine.table.lookup h)) ∧
    (∀ h s destination, w.engine.table.lookup h = some s → s.destination = some destination →
      ∀ more w' s', Run w more w' → w'.trackings h = w.trackings h →
        w'.engine.table.lookup h = some s' → s'.destination = some destination) ∧
    (∀ c ∈ w.inFlight, ∀ answer : c.op.Answer,
      ∃ call events calls, Unfolds c.handle c.tracking call events calls (.waiting c.op) ∧
      events.Sublist log ∧
      Course c.handle call (calls ++ [⟨c.op, answer⟩]) (w.engine.resume c.op answer).2 ∧
      (∀ r, (w.engine.resume c.op answer).2 = .done r →
        List.countP (fun x => x.1.call config = .setAbortiveClose) (calls ++ [⟨c.op, answer⟩]) =
          if r.fails then 1 else 0) ∧
      ∀ error, c.op.Fails answer error →
        (w.engine.resume c.op answer).1.table.lookup c.handle =
          (w.engine.table.lookup c.handle).map RedirectState.fail) ∧
    (∀ h s, w.engine.table.lookup h = some s → s.phase = .failed →
      ∀ more w', Run w more w' → .closed h ∉ more →
        w'.engine.table.lookup h = some s ∧
          ∀ call : Call, w'.engine.start h call = (w'.engine, .done (call.afterFailure h))) := by
  obtain rfl := orderly.config_eq
  refine ⟨?_, ?_, ?_, ?_, ?_⟩
  · intro h s found
    rcases orderly.stands h with gone | ⟨asked, accepted, s', alone, standing⟩
    · rw [Registry.lookup_of_untracked gone] at found
      cases found
    · rw [alone.lookup] at found
      cases found
      exact standing.proper
  · intro h event w' step
    exact moves_step (orderly.stands h) step
  · intro h s destination found there more w' s' run same found'
    obtain ⟨w₀, log', begun, current⟩ := orderly.begun (tracked_of_lookup found)
    exact begun.destination_lasts current found there run same found'
  · intro c flying answer
    obtain ⟨call, events, calls, unfolds, told, life⟩ := orderly.lives flying
    have course := (life.answered w.engine answer (orderly.ne_overrun flying answer)).course
    refine ⟨call, events, calls, unfolds, told, course, fun r ends => ?_, fun error => ?_⟩
    · rw [ends] at course
      rw [← course.count_resets (by simp)]
      refine List.countP_congr fun x mem => ?_
      rw [decide_eq_true_eq, Operation.arms_iff x.1 w.engine.config]
    · exact orderly.lookup_of_fails flying
  · intro h s found failed more w' run kept
    obtain ⟨w₀, log', begun, current⟩ := orderly.begun (tracked_of_lookup found)
    obtain ⟨there, -⟩ := begun.failed_lasts current found failed run kept
    exact ⟨there, start_of_failed there failed⟩

/-- A converter that closes the connection before it answers: the reader who finds out makes the
socket reset once and is told, and everybody after that is refused. -/
theorem phases_advance_to_failed :
    let h : Handle := ⟨5⟩
    let destination : SocketAddress := .v4 ⟨203, 0, 113, 5⟩ 443
    let config : ClientConfig := { converter := .v4 ⟨192, 0, 2, 1⟩ 1234 }
    let request : Bytes :=
      [1, 1, 0, 21, 10, 0, 18, 0, 0, 0, 0, 0, 0, 0, 0, 0, 0, 255, 255, 203, 0, 113, 5, 1, 187]
    let log : List Event :=
      [.tracked h,
        .called h 1 (.connect destination) (.waiting (.sendingRequest h request)),
        .answered ⟨1, .sendingRequest h request⟩ (.ok 25)
          (.done (.connect (.ok (.redirecting 25)))),
        .called h 1 .readable (.waiting (.peekingHeader h)),
        .answered ⟨1, .peekingHeader h⟩ (.ok []) (.waiting (.armingReset h .converterClosed))]
    let s : RedirectState :=
      { phase := .failed, destination := some destination, cookie := none }
    let w : World :=
      { engine := { config, table := ⟨[{ state := s, owner := h }]⟩ }
        trackings := fun k => if k = h then 1 else 0
        inFlight := [⟨1, .armingReset h .converterClosed⟩] }
    let reset : (op : Operation) × op.Answer := ⟨.armingReset h .converterClosed, .ok ()⟩
    Orderly config log w ∧ w.engine.table.lookup h = some s ∧ s.Proper none ∧ s.phase = .failed ∧
      (∃ call events calls,
        Unfolds h 1 call events calls (.waiting (.armingReset h .converterClosed)) ∧
        events.Sublist log ∧
        Course h call (calls ++ [reset]) (.done (.read (.error .converterClosed))) ∧
        ((calls ++ [reset]).countP fun x => x.1.call config = .setAbortiveClose) = 1) ∧
      ∀ more w', Run w more w' → .closed h ∉ more →
        w'.engine.table.lookup h = some s ∧
          ∀ call : Call, w'.engine.start h call = (w'.engine, .done (call.afterFailure h)) := by
  intro h destination config request log s w reset
  let blank : World := { engine := { config }, trackings := fun _ => 0, inFlight := [] }
  have written : Engine.request destination none = .ok request := by
    rw [request_of_bare]
    exact congrArg Except.ok (by decide)
  have tracked : Orderly config _ (blank.track h) :=
    Orderly.start.step (.track h) fun k own untracked => rfl
  have asked := tracked.step (.call h (.connect destination)
    (start_of_created (e := (blank.track h).engine) rfl rfl written)) fun k own => by cases own
  have sent := asked.step
    (@Step.answer _ [] [] ⟨1, .sendingRequest h request⟩ rfl (.ok 25) _ _ rfl)
    fun k own => by cases own
  have looking := sent.step (.call h .readable rfl) fun k own => by cases own
  have orderly : Orderly config log w := looking.step
    (@Step.answer _ [] [] ⟨1, .peekingHeader h⟩ rfl (.ok []) _ _ rfl)
    fun k own => by cases own
  obtain ⟨proper, -, -, courses, lasting⟩ := phases_advance orderly
  obtain ⟨call, events, calls, unfolds, told, course, once, -⟩ :=
    courses ⟨1, .armingReset h .converterClosed⟩ (List.mem_singleton_self _) (.ok ())
  exact ⟨orderly, rfl, proper h s rfl, rfl, ⟨call, events, calls, unfolds, told, course, once _ rfl⟩,
    lasting h s rfl rfl⟩

end Engine

end TransportConverter
