import TransportConverter.Proofs.Registry.Shards
/-!
# Pairs

A pair is noted in two entries that may be in two shards. Here is what a caller may rely on in every
table that calls can lead to: the two name each other and show one state (`Mates`), what is done
through one is seen through the other and through no third handle, both are gone when one is removed
and nothing else is (`Parted`), and an insertion or a link is refused for a stated reason only, and
then without effect. The main result is `ShardedRegistry.pairs_symmetric`.

That two entries with one cell name each other is kept by every operation (`Ties`), so what is left
is to say it of what is seen: `View.Paired` turns being together into a symmetric relation, and each
answer after an operation is the answer before it or one change of it (`Sound.lookup_update`,
`Sound.lookup_remove`).
-/
namespace TransportConverter

/-! ## Pairs as they are seen -/

namespace View

variable {σ : Type} {v : View σ} {h p k : Handle}

/-- Whoever is named as a partner is another handle, names the first one and shows its state. -/
def Paired (v : View σ) : Prop :=
  ∀ h p, v.partner h = some p →
    p ≠ h ∧ ∃ state, v h = some ⟨state, some p⟩ ∧ v p = some ⟨state, some h⟩

namespace Paired

theorem partner_comm (paired : v.Paired) : v.partner h = some p ↔ v.partner p = some h := by
  constructor
  · intro beside
    obtain ⟨-, state, -, there⟩ := paired h p beside
    simp [partner, there]
  · intro beside
    obtain ⟨-, state, -, there⟩ := paired p h beside
    simp [partner, there]

theorem together_iff (beside : v.partner h = some p) : v.Together h k ↔ k = h ∨ k = p := by
  simp [Together, beside, eq_comm]

/-- The same two handles are together with either of a pair. -/
theorem together_iff_of_partner (paired : v.Paired) (beside : v.partner h = some p) :
    v.Together p k ↔ k = h ∨ k = p := by
  rw [together_iff (paired.partner_comm.1 beside), or_comm]

/-- A third handle is together with neither of a pair. -/
theorem not_together (paired : v.Paired) (beside : v.partner h = some p) (other : k ≠ h)
    (other' : k ≠ p) : ¬ v.Together h k ∧ ¬ v.Together p k ∧ ¬ v.Together k h := by
  refine ⟨?_, ?_, ?_⟩
  · simp [together_iff beside, other, other']
  · simp [paired.together_iff_of_partner beside, other, other']
  · rintro (own | beside')
    · exact other own.symm
    · rw [paired.partner_comm, beside, Option.some_inj] at beside'
      exact other' beside'.symm

end Paired

end View

namespace ShardedRegistry

variable {σ : Type} {t t' : ShardedRegistry σ} {h k p : Handle}

namespace Sound

theorem paired (sound : t.Sound) : t.view.Paired := by
  intro h p beside
  rw [View.partner] at beside
  cases found : t.entry? h with
  | none => simp [view_of_untracked found] at beside
  | some e =>
    obtain ⟨state, stored, seen⟩ := sound.view_of_entry found
    have beside : e.partner = some p := by simpa [seen] using beside
    obtain ⟨ne, there⟩ := sound.ties.paired found beside
    obtain ⟨state', stored', seen'⟩ := sound.view_of_entry there
    have same : state' = state := Option.some.inj (stored'.symm.trans stored)
    subst same
    exact ⟨ne, state', by rw [seen, beside], seen'⟩

/-! ## Every answer after an operation -/

theorem peer_eq (sound : t.Sound) (h : Handle) : t.peer h = t.view.partner h :=
  implements.peer sound h

/-- A change is seen through the handles together with the one it was made through. -/
theorem lookup_update (sound : t.Sound) (h k : Handle) (f : σ → σ) :
    (t.update h f).lookup k = if t.view.Together h k then (t.lookup k).map f else t.lookup k := by
  obtain ⟨sound', shown⟩ := sound.update h f
  rw [sound'.lookup_eq, shown, sound.lookup_eq, View.update]
  split
  · simp only [Option.map_map]
    rfl
  · rfl

/-- A removal takes the handles together with the one removed, and leaves all others as they are. -/
theorem view_remove (sound : t.Sound) (h k : Handle) :
    (t.remove h).view k = if t.view.Together h k then none else t.view k := by
  rw [(sound.remove h).2]
  rfl

theorem view_insert (sound : t.Sound) (untracked : t.contains h = false) (state : σ) :
    ∃ t', t.insert h state = .ok t' ∧ t'.Sound ∧ t'.view h = some { state } ∧
      ∀ k, k ≠ h → t'.view k = t.view k := by
  obtain ⟨t', inserted, sound', shown⟩ := sound.insert untracked state
  refine ⟨t', inserted, sound', ?_, ?_⟩
  · rw [shown, Function.update_self]
  · intro k other
    rw [shown, Function.update_of_ne other]

end Sound

/-! ## What holds of a pair -/

/-- `h` and `p` are a pair that shows `state`. -/
structure Mates (t : ShardedRegistry σ) (h p : Handle) (state : σ) : Prop where
  distinct : p ≠ h
  tracked : t.contains h = true ∧ t.contains p = true
  peers : t.peer h = some p ∧ t.peer p = some h
  shown : t.lookup h = some state ∧ t.lookup p = some state
  updated : ∀ f, (t.update h f).lookup p = some (f state) ∧ (t.update p f).lookup h = some (f state)
  /-- No third handle leads to their cell. -/
  unshared : ∀ k, k ≠ h → k ≠ p → ∀ e e', (t.entry? h = some e ∨ t.entry? p = some e) →
    t.entry? k = some e' → e'.cell ≠ e.cell
  /-- What is done through a third handle is not seen through theirs, nor the other way round. -/
  alone : ∀ k, k ≠ h → k ≠ p → ∀ f, (t.update h f).lookup k = t.lookup k ∧
    (t.update p f).lookup k = t.lookup k ∧ (t.update k f).lookup h = some state ∧
      (t.update k f).lookup p = some state

/-- Neither `h` nor `p` is tracked any more, nothing else has changed, and both can be tracked
again, each by itself. -/
structure Parted (t t' : ShardedRegistry σ) (h p : Handle) : Prop where
  untracked : t'.contains h = false ∧ t'.contains p = false
  others : ∀ k, k ≠ h → k ≠ p →
    t'.lookup k = t.lookup k ∧ t'.peer k = t.peer k ∧ t'.contains k = t.contains k
  afresh : ∀ a b, ∃ t₁ t₂, t'.insert h a = .ok t₁ ∧ t₁.insert p b = .ok t₂ ∧
    t₂.lookup h = some a ∧ t₂.lookup p = some b ∧ t₂.peer h = none ∧ t₂.peer p = none

namespace Sound

theorem mates (sound : t.Sound) (beside : t.peer h = some p) : ∃ state, t.Mates h p state := by
  rw [sound.peer_eq] at beside
  have beside' := sound.paired.partner_comm.1 beside
  obtain ⟨distinct, state, seen, seen'⟩ := sound.paired h p beside
  have shown : t.lookup h = some state := by simp [sound.lookup_eq, seen]
  have shown' : t.lookup p = some state := by simp [sound.lookup_eq, seen']
  refine ⟨state, distinct, ?_, ?_, ⟨shown, shown'⟩, ?_, ?_, ?_⟩
  · simp [← sound.isSome_view, seen, seen']
  · simp [sound.peer_eq, beside, beside']
  · intro f
    simp [sound.lookup_update, View.Together, beside, beside', shown, shown']
  · intro k other other' e e' found found'
    obtain ⟨apart, apart', -⟩ := sound.paired.not_together beside other other'
    rcases found with found | found
    · exact mt (sound.together_iff found found').2 apart
    · exact mt (sound.together_iff found found').2 apart'
  · intro k other other' f
    obtain ⟨apart, apart', apart''⟩ := sound.paired.not_together beside other other'
    obtain ⟨-, -, apart'''⟩ := sound.paired.not_together beside' other' other
    simp [sound.lookup_update, apart, apart', apart'', apart''', shown, shown']

/-- Whichever side of a pair is removed, the same is left. -/
theorem parted (sound : t.Sound) (beside : t.peer h = some p) {side : Handle}
    (either : side = h ∨ side = p) : Parted t (t.remove side) h p := by
  rw [sound.peer_eq] at beside
  obtain ⟨distinct, -⟩ := sound.paired h p beside
  obtain ⟨sound', -⟩ := sound.remove side
  have left (k : Handle) : (t.remove side).view k = if k = h ∨ k = p then none else t.view k := by
    rw [sound.view_remove]
    rcases either with rfl | rfl
    · simp only [View.Paired.together_iff beside]
    · simp only [sound.paired.together_iff_of_partner beside]
  have gone : (t.remove side).contains h = false := by simp [← sound'.isSome_view, left]
  have gone' : (t.remove side).contains p = false := by simp [← sound'.isSome_view, left]
  refine ⟨⟨gone, gone'⟩, ?_, ?_⟩
  · intro k other other'
    have same : (t.remove side).view k = t.view k := by simp [left, other, other']
    refine ⟨?_, ?_, ?_⟩
    · rw [sound'.lookup_eq, sound.lookup_eq, same]
    · rw [sound'.peer_eq, sound.peer_eq, View.partner, View.partner, same]
    · rw [← sound'.isSome_view, ← sound.isSome_view, same]
  · intro a b
    obtain ⟨t₁, inserted, sound₁, seen₁, kept₁⟩ := sound'.view_insert gone a
    have free : t₁.contains p = false := by
      rw [← sound₁.isSome_view, kept₁ p distinct, sound'.isSome_view, gone']
    obtain ⟨t₂, inserted', sound₂, seen₂, kept₂⟩ := sound₁.view_insert free b
    have seen : t₂.view h = some { state := a } := by rw [kept₂ h distinct.symm, seen₁]
    refine ⟨t₁, t₂, inserted, inserted', ?_⟩
    simp [sound₂.lookup_eq, sound₂.peer_eq, View.partner, seen, seen₂]

end Sound

/-! ## Refusals -/

/-- Why `h` cannot be linked with `p`, if there is a reason. -/
def linkRefusal? (t : ShardedRegistry σ) (h p : Handle) : Option RegistryError :=
  if t.contains p then some (.alreadyTracked p)
  else if t.contains h = false then some (.notTracked h)
  else if (t.peer h).isSome then some (.alreadyTracked h)
  else none

theorem insert_of_tracked (tracked : t.contains h = true) (state : σ) :
    t.insert h state = .error (.alreadyTracked h) := by
  rw [insert, if_pos tracked]

theorem link_of_refusal {e : RegistryError} (refused : t.linkRefusal? h p = some e) :
    t.link h p = .error e := by
  unfold linkRefusal? at refused
  unfold link
  split at refused
  · rename_i tracked
    rw [if_pos tracked, ← Option.some.inj refused]
  rename_i new
  rw [if_neg new]
  split at refused
  · rename_i untracked
    rw [contains, Option.isSome_eq_false_iff, Option.isNone_iff_eq_none] at untracked
    rw [untracked, ← Option.some.inj refused]
  split at refused
  · rename_i tracked paired
    rw [contains, Bool.not_eq_false, Option.isSome_iff_exists] at tracked
    obtain ⟨entry, found⟩ := tracked
    rw [peer, found, Option.bind_some] at paired
    simp [found, paired, ← Option.some.inj refused]
  · cases refused

/-- A handle cannot be linked with itself. -/
theorem linkRefusal?_self (t : ShardedRegistry σ) (h : Handle) : (t.linkRefusal? h h).isSome := by
  unfold linkRefusal?
  by_cases tracked : t.contains h <;> simp [tracked]

theorem Sound.link_of_free (sound : t.Sound) (free : t.linkRefusal? h p = none) :
    ∃ t', t.link h p = .ok t' ∧ t'.peer h = some p ∧ t'.lookup p = t.lookup h := by
  unfold linkRefusal? at free
  split at free
  · cases free
  rename_i new
  split at free
  · cases free
  rename_i tracked
  split at free
  · cases free
  rename_i single
  rw [contains, Bool.not_eq_false, Option.isSome_iff_exists] at tracked
  obtain ⟨e, found⟩ := tracked
  rw [peer, found, Option.bind_some, Option.isSome_iff_ne_none, not_not] at single
  obtain ⟨t', linked, sound', shown⟩ := sound.link found single (by simpa using new)
  obtain ⟨state, stored, seen⟩ := sound.view_of_entry found
  have shown := shown state stored
  have ne : h ≠ p := by
    rintro rfl
    simp [contains, found] at new
  refine ⟨t', linked, ?_, ?_⟩
  · simp [sound'.peer_eq, View.partner, shown, Function.update_of_ne ne]
  · simp [sound'.lookup_eq, sound.lookup_eq, shown, seen]

theorem serve_of_refused {ρ : Type} {call : TableCall σ ρ} {e : RegistryError}
    (refused : ((store σ).serve t call).1 = .entered (.error e)) :
    ((store σ).serve t call).2 = t := by
  have enter_refused {result : Except RegistryError (ShardedRegistry σ)}
      (refused : (Store.enter t result : TableAnswer σ ρ × _).1 = .entered (.error e)) :
      (Store.enter t result : TableAnswer σ ρ × _).2 = t := by
    cases result with
    | ok changed => simp [Store.enter] at refused
    | error error => rfl
  cases call with
  | insert h state => exact enter_refused refused
  | link h partner => exact enter_refused refused
  | lookup | update | peer | contains | remove => simp [Store.serve] at refused

theorem serve_remove {ρ : Type} (t : ShardedRegistry σ) (h : Handle) :
    (store σ).serve t (.remove h) = ((.state (t.lookup h) : TableAnswer σ ρ), t.remove h) := by
  simp only [Store.serve, store, take_eq]
  rfl

/-- **Pairs stay symmetric and refusals change nothing.** Whatever was called before: if `p` is the
peer of `h`, they are a pair in every respect, and the removal of either gives their state back and
leaves neither; a handle is inserted unless it is tracked, and linked unless there is a reason not
to, of which the first is given; after a refusal all further calls are answered as without it. -/
theorem pairs_symmetric {ρ : Type} (hash : Handle → Nat) (count : Nat)
    (calls : List (TableCall σ ρ)) :
    let serve := (store σ).serve (ρ := ρ)
    let t := ((store σ).serveAll (withShards hash count) calls).2
    (∀ h p, t.peer h = some p → ∃ state, t.Mates h p state ∧
      ∀ side, side = h ∨ side = p →
        (serve t (.remove side)).1 = .state (some state) ∧
          Parted t (serve t (.remove side)).2 h p) ∧
    (∀ h state, if t.contains h then t.insert h state = .error (.alreadyTracked h)
      else ∃ t', t.insert h state = .ok t' ∧ t'.lookup h = some state ∧ t'.peer h = none) ∧
    (∀ h p, match t.linkRefusal? h p with
      | some reason => t.link h p = .error reason
      | none => ∃ t', t.link h p = .ok t' ∧ t'.peer h = some p ∧ t'.lookup p = t.lookup h) ∧
    (∀ h t', t.link h h ≠ .ok t') ∧
    ∀ call e, (serve t call).1 = .entered (.error e) →
      ∀ later : List (TableCall σ ρ),
        ((store σ).serveAll (serve t call).2 later).1 = ((store σ).serveAll t later).1 := by
  intro serve t
  have sound : t.Sound := (implements.serveAll_map (sound_withShards hash count) calls).2
  refine ⟨?_, ?_, ?_, ?_, ?_⟩
  · intro h p beside
    obtain ⟨state, mates⟩ := sound.mates beside
    refine ⟨state, mates, fun side either => ?_⟩
    rw [show serve t (.remove side) = _ from serve_remove t side]
    refine ⟨?_, sound.parted beside either⟩
    rcases either with rfl | rfl
    · exact congrArg TableAnswer.state mates.shown.1
    · exact congrArg TableAnswer.state mates.shown.2
  · intro h state
    by_cases tracked : t.contains h = true
    · rw [if_pos tracked, insert_of_tracked tracked]
    · rw [if_neg tracked]
      obtain ⟨t', inserted, sound', seen, -⟩ := sound.view_insert (by simpa using tracked) state
      refine ⟨t', inserted, ?_⟩
      simp [sound'.lookup_eq, sound'.peer_eq, View.partner, seen]
  · intro h p
    cases refusal : t.linkRefusal? h p with
    | some reason => exact link_of_refusal refusal
    | none => exact sound.link_of_free refusal
  · intro h t' linked
    obtain ⟨reason, refusal⟩ := Option.isSome_iff_exists.1 (t.linkRefusal?_self h)
    rw [link_of_refusal refusal] at linked
    cases linked
  · intro call e refused later
    rw [serve_of_refused refused]

/-- A pair in two shards, of which the second is removed: the first is gone with it. A link of one
of them with itself was refused before, and what was asked next was answered as without it. -/
theorem pairs_symmetric_across_shards :
    let serve := (store Nat).serve (ρ := Unit)
    let calls : List (TableCall Nat Unit) := [.insert ⟨1⟩ 7, .link ⟨1⟩ ⟨2⟩]
    let t := ((store Nat).serveAll (withShards (fun h => h.raw.toNat) 2) calls).2
    t.shardIndex ⟨1⟩ ≠ t.shardIndex ⟨2⟩ ∧ t.peer ⟨1⟩ = some ⟨2⟩ ∧
    (∃ state, t.Mates ⟨1⟩ ⟨2⟩ state ∧ (serve t (.remove ⟨2⟩)).1 = .state (some state) ∧
      Parted t (serve t (.remove ⟨2⟩)).2 ⟨1⟩ ⟨2⟩) ∧
    (serve t (.link ⟨2⟩ ⟨2⟩)).1 = .entered (.error (.alreadyTracked ⟨2⟩)) ∧
    ((store Nat).serveAll (serve t (.link ⟨2⟩ ⟨2⟩)).2 [.peer ⟨2⟩]).1 =
      ((store Nat).serveAll t [.peer ⟨2⟩] : List (TableAnswer Nat Unit) × _).1 := by
  intro serve calls t
  have apart : t.shardIndex ⟨1⟩ ≠ t.shardIndex ⟨2⟩ := by decide
  have beside : t.peer ⟨1⟩ = some ⟨2⟩ := by decide
  have tracked : t.contains ⟨2⟩ = true := by decide
  have refused : (serve t (.link ⟨2⟩ ⟨2⟩)).1 = .entered (.error (.alreadyTracked ⟨2⟩)) := by
    simp [serve, Store.serve, store, Store.enter, link, tracked]
  obtain ⟨pairs, -, -, -, refusals⟩ := pairs_symmetric (fun h => h.raw.toNat) 2 calls
  obtain ⟨state, mates, removed⟩ := pairs ⟨1⟩ ⟨2⟩ beside
  exact ⟨apart, beside, ⟨state, mates, removed ⟨2⟩ (.inr rfl)⟩, refused, refusals _ _ refused _⟩

end ShardedRegistry

end TransportConverter
