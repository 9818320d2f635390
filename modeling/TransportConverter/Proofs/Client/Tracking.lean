import TransportConverter.Proofs.Client.Standing
/-!
# One tracking in a run

`Sound` is what a run keeps of one tracking of a handle. While that tracking lasts, the entry, the
callers in flight and the bytes taken stand as they should; once the entry is gone no new caller joins
those in flight, and later trackings have callers of their own. Steps on other handles are no matter
(`Sound.frame`), and every step on the handle itself keeps it (`Sound.step`).
-/
namespace TransportConverter

namespace Engine

variable {h k : Handle} {n : Nat} {config : ClientConfig} {log : List Event} {event : Event}
  {w w' : World} {e : Engine} {p : Progress}

/-! ## Who is in flight -/

theorem flying_call (same : ∀ op, p = .waiting op → op.handle = k) (w : World) (e : Engine)
    (n : Nat) (h : Handle) :
    World.flying { w with engine := e, inFlight := p.callers n ++ w.inFlight } h =
      (if k = h then p.callers n else []) ++ w.flying h := by
  rw [World.flying, List.filter_append, Progress.filter_callers same]
  rfl

/-- The caller that is answered gives up its place to what it waits for next. -/
theorem flying_answer {before after : List Caller} {c : Caller}
    (place : w.inFlight = before ++ c :: after)
    (same : ∀ op, p = .waiting op → op.handle = c.handle) (e : Engine) (h : Handle) :
    if c.handle = h then
      ∃ others after', w.flying h = others ++ c :: after' ∧
        World.flying { w with engine := e, inFlight := before ++ p.callers c.tracking ++ after } h =
          others ++ p.callers c.tracking ++ after'
    else
      World.flying { w with engine := e, inFlight := before ++ p.callers c.tracking ++ after } h =
        w.flying h := by
  simp only [World.flying, place, List.filter_append, Progress.filter_callers same,
    List.filter_cons, decide_eq_true_eq]
  split
  · exact ⟨_, _, rfl, rfl⟩
  · rw [List.append_nil]

theorem countP_callers (p : Progress) (m n : Nat) :
    (p.callers m).countP (·.tracking = n) = if m = n then (p.callers m).length else 0 := by
  cases p with
  | waiting op => simp [Progress.callers, List.countP_cons]
  | done result => simp [Progress.callers]
  | overrun => simp [Progress.callers]

/-! ## What a run keeps -/

/-- The tracking of `h` numbered `n`, after the steps `log` since it began. -/
structure Sound (h : Handle) (n : Nat) (config : ClientConfig) (log : List Event) (w : World) :
    Prop where
  unchanged : w.engine.config = config
  reached : n ≤ w.trackings h
  /-- One caller at most is told that the redirect is done, and until then one at most is in flight. -/
  once : log.countP (Event.resolves h n) + (w.flying h).countP (·.tracking = n) ≤ 1
  current : w.trackings h = n → w.engine.table.contains h = false ∨
    log.countP (Event.resolves h n) = 0 ∧ ∃ s, w.engine.table.Alone h s ∧
      Standing config (asked h log) (accepted h log) s (w.flying h)

/-- What happens elsewhere, or to no effect, is no matter. -/
theorem Sound.frame (sound : Sound h n config log w) (same : w'.engine.config = w.engine.config)
    (untracked : w.engine.table.contains h = false → w'.engine.table.contains h = false)
    (alone : ∀ s, w.engine.table.Alone h s → w'.engine.table.Alone h s)
    (flying : w'.flying h = w.flying h) (trackings : w'.trackings h = w.trackings h)
    (taken : event.taken h = []) (asks : event.destination? h = none)
    (resolves : event.resolves h n = false) : Sound h n config (log ++ [event]) w' := by
  have count : (log ++ [event]).countP (Event.resolves h n) = log.countP (Event.resolves h n) := by
    rw [countP_resolves_snoc, resolves]
    rfl
  refine ⟨same.trans sound.unchanged, trackings ▸ sound.reached, ?_, ?_⟩
  · rw [count, flying]
    exact sound.once
  · intro current
    rw [count, flying, accepted_snoc, taken, List.append_nil, asked_snoc, asks, Option.or_none]
    rcases sound.current (trackings ▸ current) with gone | ⟨none, s, found, standing⟩
    · exact .inl (untracked gone)
    · exact .inr ⟨none, s, alone s found, standing⟩

/-! ## Tracking and closing -/

theorem track_of_insert {table : Registry RedirectState}
    (inserted : w.engine.table.insert k { cookie := w.engine.config.cookie } = .ok table) :
    w.track k =
      { w with
        engine := { w.engine with table }
        trackings := fun m => if m = k then w.trackings m + 1 else w.trackings m } := by
  rw [World.track, Engine.track, inserted]

theorem track_of_refused {error : RegistryError}
    (refused : w.engine.table.insert k { cookie := w.engine.config.cookie } = .error error) :
    w.track k = w := by
  rw [World.track, Engine.track, refused]

theorem Sound.track (sound : Sound h n config log w) (k : Handle) :
    Sound h n config (log ++ [.tracked k]) (w.track k) := by
  cases inserted : w.engine.table.insert k { cookie := w.engine.config.cookie } with
  | error error =>
    rw [track_of_refused inserted]
    exact sound.frame rfl id (fun _ => id) rfl rfl rfl rfl rfl
  | ok table =>
    rw [track_of_insert inserted]
    by_cases own : h = k
    · -- a tracking after this one, so nothing is left to say about the entry
      subst own
      have count : (log ++ [Event.tracked h]).countP (Event.resolves h n) =
          log.countP (Event.resolves h n) := countP_resolves_snoc h n log _
      have reached := sound.reached
      refine ⟨sound.unchanged, ?_, ?_, ?_⟩
      · show n ≤ if h = h then w.trackings h + 1 else w.trackings h
        rw [if_pos rfl]
        omega
      · rw [count]
        exact sound.once
      · intro (current : (if h = h then w.trackings h + 1 else w.trackings h) = n)
        rw [if_pos rfl] at current
        omega
    · have cell := Registry.cell?_of_insert inserted own
      refine sound.frame rfl ?_ ?_ rfl (if_neg own) rfl rfl rfl
      · intro untracked
        rw [Registry.contains, cell]
        exact untracked
      · intro s alone
        rw [Registry.Alone, cell]
        exact alone

theorem Sound.close (sound : Sound h n config log w) (k : Handle) :
    Sound h n config (log ++ [.closed k]) (w.close k) := by
  by_cases own : h = k
  · subst own
    have count : (log ++ [Event.closed h]).countP (Event.resolves h n) =
        log.countP (Event.resolves h n) := countP_resolves_snoc h n log _
    refine ⟨sound.unchanged, sound.reached, ?_, fun _ => .inl ?_⟩
    · rw [count]
      exact sound.once
    · exact Registry.contains_remove_self w.engine.table h
  · refine sound.frame rfl ?_ ?_ rfl rfl rfl rfl rfl
    · exact fun untracked => Registry.untracked_remove untracked k
    · exact fun s alone => alone.remove_ne own

/-- **A tracking begins sound.** -/
theorem sound_begin (untracked : w.engine.table.contains h = false) (quiet : w.flying h = []) :
    Sound h (w.trackings h + 1) w.engine.config [] (w.track h) := by
  obtain ⟨table, inserted⟩ :=
    Registry.insert_of_untracked untracked { cookie := w.engine.config.cookie }
  rw [track_of_insert inserted]
  refine ⟨rfl, ?_, ?_, fun _ => .inr ⟨rfl, _, Registry.alone_of_insert inserted, ?_⟩⟩
  · exact Nat.le_of_eq (if_pos rfl).symm
  · show 0 + (w.flying h).countP _ ≤ 1
    rw [quiet]
    exact Nat.zero_le 1
  · show Standing w.engine.config none [] _ (w.flying h)
    rw [quiet]
    exact .created rfl rfl

/-! ## Calls and answers -/

/-- Whoever has to wait after a call is alone on the handle, and the first to be told anything. -/
theorem Sound.first (sound : Sound h n config log w) (current : w.trackings h = n) {call : Call}
    {op : Operation} (started : Started w.engine h call (e, .waiting op)) :
    log.countP (Event.resolves h n) = 0 ∧ w.flying h = [] := by
  obtain ⟨s, found, free⟩ := started.free
  rcases sound.current current with untracked | ⟨none, s', alone, standing⟩
  · rw [Registry.lookup_of_untracked untracked] at found
    cases found
  · rw [alone.lookup] at found
    cases found
    exact ⟨none, standing.eq_nil free⟩

theorem Sound.call (sound : Sound h n config log w) {call : Call}
    (started : w.engine.start k call = (e, p)) :
    Sound h n config (log ++ [.called k (w.trackings k) call p])
      { w with engine := e, inFlight := p.callers (w.trackings k) ++ w.inFlight } := by
  have spec := started_start w.engine k call
  rw [started] at spec
  have confined := spec.confined
  have flying := flying_call (p := p) confined.handle w e (w.trackings k) h
  have calm : p.resolves = false := spec.not_resolves
  by_cases own : k = h
  · subst own
    rw [if_pos rfl] at flying
    obtain rfl := sound.unchanged
    have count : (log ++ [Event.called k (w.trackings k) call p]).countP (Event.resolves k n) =
        log.countP (Event.resolves k n) := by
      rw [countP_resolves_snoc, Event.resolves, calm, Bool.and_false]
      rfl
    refine ⟨confined.config, sound.reached, ?_, fun current => ?_⟩
    · rw [count, flying, List.countP_append, countP_callers]
      have once := sound.once
      by_cases current : w.trackings k = n
      · rw [if_pos current]
        cases p with
        | waiting op =>
          obtain ⟨none, nobody⟩ := sound.first current spec
          rw [none, nobody]
          exact Nat.le_refl 1
        | done result => simpa [Progress.callers] using once
        | overrun => simpa [Progress.callers] using once
      · rw [if_neg current]
        omega
    · have asks : (Event.called k (w.trackings k) call p).destination? k = call.destination? :=
        if_pos rfl
      have taken : (Event.called k (w.trackings k) call p).taken k = [] := rfl
      rw [count, flying, accepted_snoc, taken, List.append_nil, asked_snoc, asks]
      rcases sound.current current with untracked | ⟨none, s, alone, standing⟩
      · exact .inl (confined.touched.untracked untracked)
      · rcases standing.start alone spec (w.trackings k) with untracked | ⟨-, rest⟩
        · exact .inl untracked
        · exact .inr ⟨none, rest⟩
  · rw [if_neg own, List.nil_append] at flying
    refine sound.frame confined.config ?_ ?_ flying rfl rfl ?_ ?_
    · exact confined.touched.untracked
    · exact fun s => confined.touched.alone (Ne.symm own)
    · rw [Event.destination?, if_neg own]
    · simp [Event.resolves, own]

theorem Sound.answer (sound : Sound h n config log w) {before after : List Caller} {c : Caller}
    (place : w.inFlight = before ++ c :: after) {answer : c.op.Answer}
    (resumed : w.engine.resume c.op answer = (e, p)) :
    Sound h n config (log ++ [.answered c answer p])
      { w with engine := e, inFlight := before ++ p.callers c.tracking ++ after } := by
  have confined := confined_resume w.engine c.op answer
  rw [resumed] at confined
  have flying := flying_answer (p := p) place confined.handle e h
  by_cases own : c.handle = h
  · rw [if_pos own] at flying
    obtain ⟨others, after', flying, flying'⟩ := flying
    subst own
    obtain rfl := sound.unchanged
    have count := countP_resolves_snoc c.handle n log (.answered c answer p)
    refine ⟨confined.config, sound.reached, ?_, fun current => ?_⟩
    · have once := sound.once
      have leaves := p.resolves_add_length_le c.tracking
      rw [flying, List.countP_append, List.countP_cons] at once
      rw [count, flying', List.countP_append, List.countP_append, countP_callers, Event.resolves,
        beq_self_eq_true, Bool.true_and]
      by_cases mine : c.tracking = n
      · rw [if_pos (decide_eq_true mine)] at once
        rw [if_pos mine, beq_iff_eq.2 mine, Bool.true_and]
        omega
      · rw [if_neg (by simpa using mine)] at once
        rw [if_neg mine, beq_eq_false_iff_ne.2 mine, Bool.false_and, if_neg Bool.false_ne_true]
        omega
    · have asks : (Event.answered c answer p).destination? c.handle = none := rfl
      have taken : (Event.answered c answer p).taken c.handle = c.op.taken answer := if_pos rfl
      rw [count, flying', accepted_snoc, taken, asked_snoc, asks, Option.or_none]
      rcases sound.current current with untracked | ⟨none, s, alone, standing⟩
      · exact .inl (confined.touched.untracked untracked)
      · rw [flying] at standing
        obtain ⟨rfl, rfl⟩ := standing.eq_singleton
        rw [List.nil_append, List.append_nil]
        rcases standing.resume alone resumed with untracked | ⟨calm, rest⟩
        · exact .inl untracked
        · refine .inr ⟨?_, rest⟩
          rw [none, Event.resolves, calm, Bool.and_false]
          rfl
  · rw [if_neg own] at flying
    refine sound.frame confined.config ?_ ?_ flying rfl ?_ rfl ?_
    · exact confined.touched.untracked
    · exact fun s => confined.touched.alone (Ne.symm own)
    · rw [Event.taken, if_neg own]
    · simp [Event.resolves, own]

theorem Sound.step (sound : Sound h n config log w) (step : Step w event w') :
    Sound h n config (log ++ [event]) w' := by
  cases step with
  | track k => exact sound.track k
  | close k => exact sound.close k
  | call k call started => exact sound.call started
  | answer place answer resumed => exact sound.answer place resumed

/-- **A tracking stays sound**, whatever happens and for however long. -/
theorem Begun.sound (begun : Begun h w log w') :
    Sound h (w.trackings h + 1) w.engine.config log w' := by
  obtain ⟨untracked, quiet, run⟩ := begun
  induction run with
  | start => exact sound_begin untracked quiet
  | step run step ih => exact ih.step step

/-- As long as it lasts, its entry stands as it should. -/
theorem Begun.standing (begun : Begun h w log w') (current : w'.trackings h = w.trackings h + 1)
    {s : RedirectState} (found : w'.engine.table.lookup h = some s) :
    Standing w.engine.config (asked h log) (accepted h log) s (w'.flying h) := by
  rcases begun.sound.current current with untracked | ⟨-, s', alone, standing⟩
  · rw [Registry.lookup_of_untracked untracked] at found
    cases found
  · rw [alone.lookup] at found
    cases found
    exact standing

end Engine

end TransportConverter
