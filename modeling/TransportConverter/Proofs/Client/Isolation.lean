import TransportConverter.Proofs.Client.Locality
import TransportConverter.Proofs.Client.Phases
import TransportConverter.Proofs.Registry.Elsewhere
/-!
# Handles do not interfere

All handles of an engine share one table, and operations on some of them run inside the socket calls of
others. What is seen of one handle is all the same up to its own steps: what is done to it, what the callers
are told and which calls are made on its socket, and its entry after each of these steps (`Recorded`).

The steps on the other handles can be left out of a run, and any two runs that do the same to a handle show
the same of it (`handles_apart`). The others must not share its cell, and nothing else is assumed of them.
-/
namespace TransportConverter

namespace Registry

variable {σ : Type} {r r' : Registry σ} {h k : Handle}

namespace Apart

theorem cell?_update (apart : r.Apart h k) (f : σ → σ) : (r.update k f).cell? h = r.cell? h := by
  rw [Registry.cell?_update]
  cases found : r.cell? h with
  | none => rfl
  | some c => simp [apart c found]

theorem cell?_remove (apart : r.Apart h k) : (r.remove k).cell? h = r.cell? h := by
  cases found : r.cell? h with
  | none =>
    have untracked : r.contains h = false := by simp [contains, found]
    simpa [contains] using untracked_remove untracked k
  | some c =>
    have kept : (!c.names k) = true := by simp [apart c found]
    rw [cell?, List.find?_eq_some_iff_append] at found ⊢
    obtain ⟨named, before, after, cells, first⟩ := found
    refine ⟨named, before.filter (!·.names k), after.filter (!·.names k), ?_, ?_⟩
    · simp only [remove, cells, List.filter_append, List.filter_cons, kept, if_true]
    · intro c mem
      exact first c (List.mem_filter.1 mem).1

end Apart

namespace Touched

/-- What is done through another handle leaves the cell of `h` alone. -/
theorem cell?_of_apart (touched : Touched k r r') (apart : r.Apart h k) :
    r'.cell? h = r.cell? h := by
  have keeps {s : Registry σ} (same : s.cell? h = r.cell? h) : s.Apart h k := by
    rwa [Apart, same]
  induction touched with
  | refl => rfl
  | update f _ ih => rw [(keeps ih).cell?_update, ih]
  | remove _ ih => rw [(keeps ih).cell?_remove, ih]

/-- Nothing that is done through `h` puts another handle into its cell. -/
theorem apart (touched : Touched h r r') (apart : r.Apart h k) : r'.Apart h k := by
  induction touched with
  | refl => exact apart
  | update f _ ih =>
    intro c found
    rw [cell?_update, Option.map_eq_some_iff] at found
    obtain ⟨c, found, rfl⟩ := found
    have apart := ih c found
    split <;> exact apart
  | @remove s _ _ =>
    intro c found
    have gone := contains_remove_self s h
    rw [contains, found] at gone
    cases gone

end Touched

end Registry

namespace Engine

/-! ## What is done, and what comes of it -/

/-- What is done in a step, without what comes of it. -/
inductive Deed where
  | track (h : Handle)
  | close (h : Handle)
  | call (h : Handle) (call : Call)
  /-- The socket answers a caller. -/
  | answer (c : Caller) (answer : c.op.Answer)

/-- What whoever takes a step gets of it. -/
inductive Told where
  | tracked (result : Except RedirectError Unit)
  | closed (last : Option RedirectState)
  | ended (result : OperationResult)
  /-- A call is made on the socket. -/
  | asks (call : SocketCall)
  | overrun

namespace Event

def handle : Event → Handle
  | tracked h | closed h | called h _ _ _ => h
  | answered c _ _ => c.handle

def deed : Event → Deed
  | tracked h => .track h
  | closed h => .close h
  | called h _ call _ => .call h call
  | answered c answer _ => .answer c answer

end Event

end Engine

open Engine

def Progress.told (config : ClientConfig) : Progress → Told
  | done result => .ended result
  | waiting op => .asks (op.call config)
  | overrun => .overrun

namespace Engine

def World.told (w : World) : Event → Told
  | .tracked h => .tracked ((w.engine.track h).map fun _ => ())
  | .closed h => .closed (w.engine.onClose h).2
  | .called _ _ _ p | .answered _ _ p => p.told w.engine.config

/-- What is seen of a handle in a step on it. -/
structure Sight where
  deed : Deed
  told : Told
  /-- What the table holds afterwards. -/
  entry : Option RedirectState

/-- Steps one after the other, with what is seen of `h` in its own. -/
inductive Recorded (h : Handle) : World → List Event → List Sight → World → Prop
  | stop (w : World) : Recorded h w [] [] w
  | own {w w' w'' : World} {event : Event} {log : List Event} {sights : List Sight}
      (step : Step w event w') (own : event.handle = h) (rest : Recorded h w' log sights w'') :
      Recorded h w (event :: log)
        (⟨event.deed, w.told event, w'.engine.table.lookup h⟩ :: sights) w''
  | other {w w' w'' : World} {event : Event} {log : List Event} {sights : List Sight}
      (step : Step w event w') (other : event.handle ≠ h) (rest : Recorded h w' log sights w'') :
      Recorded h w (event :: log) sights w''

/-- The steps on `h`. -/
def steps (h : Handle) (log : List Event) : List Event := log.filter (·.handle = h)

/-- What is done to `h`. -/
def deeds (h : Handle) (log : List Event) : List Deed := (steps h log).map Event.deed

/-- No other handle that something is done to shares the cell of `h`. -/
def Unlinked (h : Handle) (w : World) (log : List Event) : Prop :=
  ∀ event ∈ log, event.handle ≠ h → w.engine.table.Apart h event.handle

variable {h k : Handle} {w w' w'' w₁ w₁' w₂ w₂' : World} {event event₁ event₂ : Event}
  {log log' : List Event} {sights sights' : List Sight}

theorem steps_of_own (own : event.handle = h) (log : List Event) :
    steps h (event :: log) = event :: steps h log := by
  simp [steps, own]

theorem steps_of_other (other : event.handle ≠ h) (log : List Event) :
    steps h (event :: log) = steps h log := by
  simp [steps, other]

namespace Recorded

theorem append (before : Recorded h w log sights w') (after : Recorded h w' log' sights' w'') :
    Recorded h w (log ++ log') (sights ++ sights') w'' := by
  induction before with
  | stop w => exact after
  | own step own _ ih => exact .own step own (ih after)
  | other step other _ ih => exact .other step other (ih after)

end Recorded

/-- Every run shows something of every handle. -/
theorem Run.recorded (run : Run w log w') (h : Handle) : ∃ sights, Recorded h w log sights w' := by
  induction run with
  | start => exact ⟨[], .stop w⟩
  | @step log w' w'' event _ step ih =>
    obtain ⟨sights, before⟩ := ih
    by_cases own : event.handle = h
    · exact ⟨_, before.append (.own step own (.stop w''))⟩
    · exact ⟨_, before.append (.other step own (.stop w''))⟩

/-! ## Tracking -/

namespace World

theorem contains_eq_isSome_lookup (r : Registry RedirectState) (h : Handle) :
    r.contains h = (r.lookup h).isSome := by
  rw [Registry.contains, Registry.lookup, Option.isSome_map]

/-- A handle that is tracked is not tracked again. -/
theorem track_of_found {s : RedirectState} (found : w.engine.table.lookup h = some s) :
    w.track h = w ∧ w.told (.tracked h) = .tracked (.error (.registry (.alreadyTracked h))) := by
  have refused : w.engine.table.insert h { cookie := w.engine.config.cookie } =
      .error (.alreadyTracked h) := by
    rw [Registry.insert, contains_eq_isSome_lookup, found]
    rfl
  exact ⟨track_of_refused refused, by rw [told, Engine.track, refused]; rfl⟩

theorem track_of_missing (missing : w.engine.table.lookup h = none) :
    (w.track h).engine.table.lookup h = some { cookie := w.engine.config.cookie } ∧
      (w.track h).trackings h = w.trackings h + 1 ∧ w.told (.tracked h) = .tracked (.ok ()) := by
  have untracked : w.engine.table.contains h = false := by
    rw [contains_eq_isSome_lookup, missing]
    rfl
  obtain ⟨table, inserted⟩ :=
    Registry.insert_of_untracked untracked { cookie := w.engine.config.cookie }
  rw [track_of_insert inserted]
  refine ⟨Registry.lookup_insert_self inserted, if_pos rfl, ?_⟩
  rw [told, Engine.track, inserted]
  rfl

theorem flying_track (w : World) (h k : Handle) : (w.track h).flying k = w.flying k := by
  cases inserted : w.engine.table.insert h { cookie := w.engine.config.cookie } with
  | error error => rw [track_of_refused inserted]
  | ok table => rw [track_of_insert inserted]; rfl

end World

/-! ## What a step shows of a handle -/

/-- The two worlds look alike from `h`. -/
structure World.Alike (h : Handle) (w w' : World) : Prop where
  engine : Engine.Alike h w.engine w'.engine
  trackings : w'.trackings h = w.trackings h
  flying : (w'.flying h).Perm (w.flying h)

namespace World.Alike

theorem refl (h : Handle) (w : World) : World.Alike h w w := ⟨.refl h _, rfl, .refl _⟩

theorem symm (alike : World.Alike h w w') : World.Alike h w' w :=
  ⟨⟨alike.engine.config.symm, alike.engine.lookup.symm⟩, alike.trackings.symm, alike.flying.symm⟩

theorem trans (first : World.Alike h w w') (second : World.Alike h w' w'') :
    World.Alike h w w'' :=
  ⟨⟨second.engine.config.trans first.engine.config, second.engine.lookup.trans first.engine.lookup⟩,
    second.trackings.trans first.trackings, second.flying.trans first.flying⟩

end World.Alike

/-- A step on another handle leaves the cell of `h` alone. -/
theorem cell?_of_step (step : Step w event w') (other : event.handle ≠ h)
    (apart : w.engine.table.Apart h event.handle) :
    w'.engine.table.cell? h = w.engine.table.cell? h := by
  cases step with
  | track k =>
    cases inserted : w.engine.table.insert k { cookie := w.engine.config.cookie } with
    | error error => rw [track_of_refused inserted]
    | ok table =>
      rw [track_of_insert inserted]
      exact Registry.cell?_of_insert inserted (Ne.symm other)
  | close k => exact apart.cell?_remove
  | call k call started =>
    have confined := (started_start w.engine k call).confined
    rw [started] at confined
    exact confined.touched.cell?_of_apart apart
  | @answer before after c place answer engine p resumed =>
    have confined := confined_resume w.engine c.op answer
    rw [resumed] at confined
    exact confined.touched.cell?_of_apart apart

/-- **A step on another handle shows nothing of `h`.** -/
theorem alike_of_other (step : Step w event w') (other : event.handle ≠ h)
    (apart : w.engine.table.Apart h event.handle) : World.Alike h w w' := by
  have lookup : w'.engine.table.lookup h = w.engine.table.lookup h := by
    rw [Registry.lookup, cell?_of_step step other apart]
    rfl
  refine ⟨⟨config_of_step step, lookup⟩, ?_, ?_⟩
  · cases step with
    | track k =>
      cases inserted : w.engine.table.insert k { cookie := w.engine.config.cookie } with
      | error error => rw [track_of_refused inserted]
      | ok table =>
        rw [track_of_insert inserted]
        exact if_neg (Ne.symm other)
    | close k => rfl
    | call k call started => rfl
    | answer place answer resumed => rfl
  · cases step with
    | track k => rw [World.flying_track]
    | close k => exact .refl _
    | @call k call engine p started =>
      have confined := (started_start w.engine k call).confined
      rw [started] at confined
      rw [flying_call confined.handle w engine (w.trackings k) h,
        if_neg (show ¬ k = h from other)]
      exact .refl _
    | @answer before after c place answer engine p resumed =>
      have confined := confined_resume w.engine c.op answer
      rw [resumed] at confined
      have flying := flying_answer (p := p) place confined.handle engine h
      rw [if_neg (show ¬ c.handle = h from other)] at flying
      rw [flying]

/-- No step puts a handle beside another. -/
theorem apart_of_step (step : Step w event w')
    (unlinked : event.handle ≠ h → w.engine.table.Apart h event.handle) (ne : k ≠ h)
    (apart : w.engine.table.Apart h k) : w'.engine.table.Apart h k := by
  by_cases own : event.handle = h
  · subst own
    cases step with
    | track h =>
      cases inserted : w.engine.table.insert h { cookie := w.engine.config.cookie } with
      | error error => rwa [track_of_refused inserted]
      | ok table =>
        rw [track_of_insert inserted]
        intro c found
        have alone := Registry.alone_of_insert inserted
        rw [Registry.Alone, Event.handle] at *
        cases alone.symm.trans found
        exact Registry.names_eq_false (Ne.symm ne) _
    | close h => exact (Registry.Touched.remove .refl).apart apart
    | call k call started =>
      have confined := (started_start w.engine k call).confined
      rw [started] at confined
      exact confined.touched.apart apart
    | @answer before after c place answer engine p resumed =>
      have confined := confined_resume w.engine c.op answer
      rw [resumed] at confined
      exact confined.touched.apart apart
  · rwa [Registry.Apart, cell?_of_step step own (unlinked own)]

theorem Unlinked.step (unlinked : Unlinked h w (event :: log)) (step : Step w event w') :
    Unlinked h w' log := by
  intro later mem other
  exact apart_of_step step (unlinked event (.head _)) other
    (unlinked later (List.mem_cons_of_mem _ mem) other)

/-! ## The same done twice -/

/-- What can be done to `h` in one world can be done in every world that looks alike. -/
theorem exists_step (alike : World.Alike h w₁ w₂) (step : Step w₁ event w₁')
    (own : event.handle = h) : ∃ event' w₂', Step w₂ event' w₂' ∧ event'.deed = event.deed := by
  cases step with
  | track h => exact ⟨_, _, .track h, rfl⟩
  | close h => exact ⟨_, _, .close h, rfl⟩
  | call h call started => exact ⟨_, _, .call h call rfl, rfl⟩
  | @answer before after c place answer engine p resumed =>
    have there : c ∈ w₁.flying h := by
      simp [World.flying, place, show c.handle = h from own]
    have there' : c ∈ w₂.inFlight := (List.mem_filter.1 (alike.flying.mem_iff.2 there)).1
    obtain ⟨before', after', place'⟩ := List.append_of_mem there'
    exact ⟨_, _, .answer place' answer rfl, rfl⟩

theorem handle_of_deed (same : event₂.deed = event₁.deed) : event₂.handle = event₁.handle := by
  cases event₁ <;> cases event₂ <;> cases same <;> rfl

/-- **The same done to `h` shows the same of it**, in worlds that look alike. -/
theorem World.Alike.step (alike : World.Alike h w₁ w₂) (step₁ : Step w₁ event₁ w₁')
    (step₂ : Step w₂ event₂ w₂') (same : event₂.deed = event₁.deed) (own : event₁.handle = h) :
    event₂ = event₁ ∧ w₂.told event₂ = w₁.told event₁ ∧ World.Alike h w₁' w₂' := by
  have config := alike.engine.config
  cases step₁ with
  | track k =>
    cases step₂ <;> cases same
    subst own
    rw [Event.handle] at *
    cases found : w₁.engine.table.lookup k with
    | some s =>
      obtain ⟨same₁, told₁⟩ := World.track_of_found found
      obtain ⟨same₂, told₂⟩ := World.track_of_found (alike.engine.lookup.trans found)
      rw [same₁, same₂, told₁, told₂]
      exact ⟨rfl, rfl, alike⟩
    | none =>
      obtain ⟨entry₁, number₁, told₁⟩ := World.track_of_missing found
      obtain ⟨entry₂, number₂, told₂⟩ := World.track_of_missing (alike.engine.lookup.trans found)
      refine ⟨rfl, told₂.trans told₁.symm, ⟨?_, ?_⟩, ?_, ?_⟩
      · rw [config_of_step (.track k), config_of_step (.track k), config]
      · rw [entry₁, entry₂, config]
      · rw [number₁, number₂, alike.trackings]
      · rw [World.flying_track, World.flying_track]
        exact alike.flying
  | close k =>
    cases step₂ <;> cases same
    subst own
    exact ⟨rfl, congrArg Told.closed alike.engine.lookup, alike.engine.remove, alike.trackings,
      alike.flying⟩
  | @call k call engine₁ p₁ started₁ =>
    cases step₂ with
    | @call k' call' engine₂ p₂ started₂ =>
      cases same
      subst own
      have agree := alike.engine.start call
      have confined := (started_start w₁.engine k call).confined
      rw [Event.handle, started₁, started₂] at agree
      rw [started₁] at confined
      obtain ⟨progress, engines⟩ := agree
      obtain rfl : p₂ = p₁ := progress
      have handle : ∀ op, p₂ = .waiting op → op.handle = k := confined.handle
      have trackings : w₂.trackings k = w₁.trackings k := alike.trackings
      have flying : (w₂.flying k).Perm (w₁.flying k) := alike.flying
      refine ⟨by rw [trackings], congrArg (Progress.told · p₂) config, engines, trackings, ?_⟩
      rw [Event.handle, flying_call handle, flying_call handle, if_pos rfl, if_pos rfl, trackings]
      exact flying.append_left _
    | _ => cases same
  | @answer before₁ after₁ c place₁ answer engine₁ p₁ resumed₁ =>
    cases step₂ with
    | @answer before₂ after₂ c' place₂ answer' engine₂ p₂ resumed₂ =>
      cases same
      subst own
      have agree := alike.engine.resume answer
      have confined := confined_resume w₁.engine c.op answer
      rw [resumed₁, resumed₂] at agree
      rw [resumed₁] at confined
      obtain ⟨progress, engines⟩ := agree
      obtain rfl : p₂ = p₁ := progress
      refine ⟨rfl, congrArg (Progress.told · p₂) config, engines, alike.trackings, ?_⟩
      have flying₁ := flying_answer place₁ confined.handle engine₁ c.handle
      have flying₂ := flying_answer place₂ confined.handle engine₂ c.handle
      rw [if_pos rfl] at flying₁ flying₂
      obtain ⟨others₁, left₁, before₁, after₁⟩ := flying₁
      obtain ⟨others₂, left₂, before₂, after₂⟩ := flying₂
      -- the caller that was answered makes room for itself in both
      have flying : (others₂ ++ c :: left₂).Perm (others₁ ++ c :: left₁) := by
        rw [← before₁, ← before₂]
        exact alike.flying
      have others : (others₂ ++ left₂).Perm (others₁ ++ left₁) :=
        ((List.perm_middle.symm.trans flying).trans List.perm_middle).cons_inv
      have insert (xs ys : List Caller) : (xs ++ p₂.callers c.tracking ++ ys).Perm
          (p₂.callers c.tracking ++ (xs ++ ys)) := by
        rw [← List.append_assoc]
        exact List.perm_append_comm.append_right ys
      show List.Perm (World.flying _ c.handle) (World.flying _ c.handle)
      rw [after₁, after₂]
      exact ((insert _ _).trans (others.append_left _)).trans (insert _ _).symm
    | _ => cases same

namespace Recorded

/-- The steps on other handles are left out. -/
theorem solo (seen : Recorded h w₁ log sights w₁') (unlinked : Unlinked h w₁ log)
    (alike : World.Alike h w₁ w₂) :
    ∃ w₂', Recorded h w₂ (steps h log) sights w₂' ∧ World.Alike h w₁' w₂' := by
  induction seen generalizing w₂ with
  | stop w => exact ⟨w₂, .stop w₂, alike⟩
  | @own w w' w'' event log sights step own _ ih =>
    obtain ⟨event', w₃, step', same⟩ := exists_step alike step own
    obtain ⟨rfl, told, alike'⟩ := alike.step step step' same own
    obtain ⟨w₂', rest, last⟩ := ih (unlinked.step step) alike'
    refine ⟨w₂', ?_, last⟩
    rw [steps_of_own own, ← told, ← alike'.engine.lookup]
    exact .own step' own rest
  | @other w w' w'' event log sights step other _ ih =>
    have apart := unlinked event (.head _) other
    rw [steps_of_other other]
    exact ih (unlinked.step step) ((alike_of_other step other apart).symm.trans alike)

/-- Two runs on `h` alone that do the same to it show the same. -/
theorem unique (seen : Recorded h w₁ log sights w₁') (seen' : Recorded h w₂ log' sights' w₂')
    (alike : World.Alike h w₁ w₂) (own : ∀ event ∈ log, event.handle = h)
    (same : log'.map Event.deed = log.map Event.deed) :
    sights' = sights ∧ World.Alike h w₁' w₂' := by
  induction seen generalizing w₂ log' sights' with
  | stop w =>
    obtain rfl := List.map_eq_nil_iff.1 same
    cases seen'
    exact ⟨rfl, alike⟩
  | @own w w' w'' event log sights step mine _ ih =>
    obtain ⟨event', log', rfl, deed, others⟩ := List.map_eq_cons_iff.1 same
    cases seen' with
    | own step' mine' rest' =>
      obtain ⟨rfl, told, alike'⟩ := alike.step step step' deed mine
      obtain ⟨rfl, last⟩ := ih rest' alike' (fun event mem => own event (.tail _ mem)) others
      rw [told, alike'.engine.lookup]
      exact ⟨rfl, last⟩
    | other step' other rest' => exact absurd ((handle_of_deed deed).trans mine) other
  | other step other _ _ => exact absurd (own _ (.head _)) other

end Recorded

/-- **Handles do not interfere.** In every run of an engine, whatever is done to other handles that do not
share the cell of `h` and however their steps come between, what is seen of `h` is what is seen in a run of
its own steps alone, with the same answers of its socket; and every other run in which the same is done to
`h` shows the same of it and leads to the same entry. -/
theorem handles_apart (run : Run w log w') (unlinked : Unlinked h w log) :
    ∃ sights, Recorded h w log sights w' ∧
      (∃ alone, Recorded h w (steps h log) sights alone ∧
        alone.engine.table.lookup h = w'.engine.table.lookup h) ∧
      ∀ log' sights' w'', Recorded h w log' sights' w'' → Unlinked h w log' →
        deeds h log' = deeds h log →
        sights' = sights ∧ w''.engine.table.lookup h = w'.engine.table.lookup h := by
  obtain ⟨sights, seen⟩ := run.recorded h
  obtain ⟨alone, solo, last⟩ := seen.solo unlinked (.refl h w)
  refine ⟨sights, seen, ⟨alone, solo, last.engine.lookup⟩, fun log' sights' w'' seen' unlinked' same => ?_⟩
  obtain ⟨alone', solo', last'⟩ := seen'.solo unlinked' (.refl h w)
  have own : ∀ event ∈ steps h log, event.handle = h :=
    fun event mem => of_decide_eq_true (List.mem_filter.1 mem).2
  obtain ⟨rfl, alike⟩ := solo.unique solo' (.refl h w) own same
  exact ⟨rfl, ((last.trans alike).trans last'.symm).engine.lookup⟩

/-- While a request is sent on one handle another is tracked, connected and given up, and the first shows
what it shows alone. -/
theorem handles_apart_nested :
    let h : Handle := ⟨5⟩
    let k : Handle := ⟨6⟩
    let destination : SocketAddress := .v4 ⟨203, 0, 113, 5⟩ 443
    let config : ClientConfig := { converter := .v4 ⟨192, 0, 2, 1⟩ 1234 }
    let request := (Message.request destination none).wire
    let sent : RedirectState :=
      { phase := .awaitingRedirect, destination := some destination, cookie := none }
    let w : World := { engine := { config }, trackings := fun _ => 0, inFlight := [] }
    let log : List Event :=
      [.tracked h,
        .called h 1 (.connect destination) (.waiting (.sendingRequest h request)),
        .tracked k,
        .called k 1 (.connect destination) (.waiting (.sendingRequest k request)),
        .answered ⟨1, .sendingRequest k request⟩ (.error (.system 104))
          (.done (.connect (.ok .fallback))),
        .answered ⟨1, .sendingRequest h request⟩ (.ok 40)
          (.done (.connect (.ok (.redirecting 25))))]
    let sights : List Sight :=
      [⟨.track h, .tracked (.ok ()), some { cookie := none }⟩,
        ⟨.call h (.connect destination), .asks (.sendRedirect request config.converter true),
          some { sent with claimed := true }⟩,
        ⟨.answer ⟨1, .sendingRequest h request⟩ (.ok 40),
          .ended (.connect (.ok (.redirecting 25))), some sent⟩]
    ∃ w' alone, Run w log w' ∧ Unlinked h w log ∧ Recorded h w (steps h log) sights alone ∧
      Recorded h w log sights w' ∧ w'.engine.table.lookup h = some sent := by
  intro h k destination config request sent w log sights
  have written : Engine.request destination none = .ok request := request_of_bare destination
  have tracked := Run.step (w := w) .start (.track h)
  have asked := tracked.step (.call h (.connect destination)
    (start_of_created (e := (w.track h).engine) rfl rfl written))
  have nested := (asked.step (.track k)).step (.call k (.connect destination)
    (start_of_created rfl rfl written))
  have gone := nested.step
    (@Step.answer _ [] [⟨1, .sendingRequest h request⟩] ⟨1, .sendingRequest k request⟩ rfl
      (.error (.system 104)) _ _ rfl)
  have run := gone.step
    (@Step.answer _ [] [] ⟨1, .sendingRequest h request⟩ rfl (.ok 40) _ _ rfl)
  have unlinked : Unlinked h w log := fun event mem other c found => by cases found
  have solo : Recorded h w (steps h log) sights _ :=
    .own (.track h) rfl (.own (.call h (.connect destination)
      (start_of_created (e := (w.track h).engine) rfl rfl written)) rfl
      (.own (@Step.answer _ [] [] ⟨1, .sendingRequest h request⟩ rfl (.ok 40) _ _ rfl) rfl
        (.stop _)))
  obtain ⟨_, seen, -, same⟩ := handles_apart run unlinked
  obtain ⟨rfl, entry⟩ := same _ _ _ solo (fun event mem => unlinked event (List.mem_filter.1 mem).1) rfl
  exact ⟨_, _, run, unlinked, solo, seen, entry.symm⟩

end Engine

end TransportConverter
