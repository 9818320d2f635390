import Mathlib.Data.List.Flatten
import Mathlib.Data.List.Nodup
import Mathlib.Data.List.Pairwise
import TransportConverter.Proofs.Registry.View
/-!
# Cells show what a table should

In a registry that grew from an empty one no handle is named twice (`Registry.Sound`), so the first
cell that names a handle is the only one, and the operations on cells are the operations on what is
seen (`Registry.implements`).
-/
namespace TransportConverter

namespace Cell

variable {σ : Type} {c : Cell σ} {h k : Handle}

theorem names_iff : c.names h = true ↔ h ∈ c.handles := by
  simp only [names, Bool.or_eq_true, beq_iff_eq, handles, List.mem_cons, Option.mem_toList]
  rw [eq_comm]

/-- Of the handles that a cell names one is asked for, and the other is beside it. -/
theorem mem_handles_iff (named : c.names h = true) :
    k ∈ c.handles ↔ k = h ∨ c.otherThan h = some k := by
  rw [names_iff, handles, List.mem_cons, Option.mem_toList] at named
  rw [handles, List.mem_cons, Option.mem_toList, otherThan]
  by_cases own : c.owner = h
  · rw [if_pos own, own]
  · have second : c.partner = some h := named.resolve_left (Ne.symm own)
    rw [if_neg own, second, Option.some_inj, Option.some_inj]
    constructor
    · rintro (rfl | rfl)
      · exact .inr rfl
      · exact .inl rfl
    · rintro (rfl | rfl)
      · exact .inr rfl
      · exact .inl rfl

end Cell

namespace Registry

variable {σ : Type} {r r' : Registry σ} {h k partner : Handle} {c : Cell σ} {state : σ}

/-- What a registry shows of its cells. -/
def view (r : Registry σ) : View σ := fun h =>
  (r.cell? h).map fun c => { state := c.state, partner := c.otherThan h }

/-- Registries as tables. -/
def store (σ : Type) : Store σ (Registry σ) where
  insert := Registry.insert
  link := Registry.link
  change := Registry.change
  take := Registry.take
  lookup := Registry.lookup
  peer := Registry.peer
  contains := Registry.contains

/-- No handle is named twice. -/
def Sound (r : Registry σ) : Prop := r.handles.Nodup

theorem contains_eq_view (r : Registry σ) (h : Handle) : r.contains h = (r.view h).isSome := by
  rw [contains, view, Option.isSome_map]

theorem mem_handles_iff : h ∈ r.handles ↔ r.contains h = true := by
  simp only [handles, List.mem_flatMap, contains, cell?, List.find?_isSome, Cell.names_iff]

namespace Sound

/-- The first cell that names a handle is the only one. -/
theorem cell?_eq_some_iff (sound : r.Sound) :
    r.cell? h = some c ↔ c ∈ r.cells ∧ c.names h = true := by
  constructor
  · intro found
    exact ⟨List.mem_of_find?_eq_some found, by simpa using List.find?_some found⟩
  · rintro ⟨mem, named⟩
    obtain ⟨first, found⟩ : ∃ first, r.cell? h = some first :=
      Option.isSome_iff_exists.1 (List.find?_isSome.2 ⟨c, mem, named⟩)
    have named' : first.names h = true := by simpa using List.find?_some found
    rw [found, Option.some_inj]
    by_contra distinct
    have : Std.Symm (Function.onFun List.Disjoint (Cell.handles (σ := σ))) :=
      ⟨fun _ _ apart => List.disjoint_symm apart⟩
    have disjoint :=
      (List.nodup_flatMap.1 sound).2.forall (List.mem_of_find?_eq_some found) mem distinct
    exact disjoint (Cell.names_iff.1 named') (Cell.names_iff.1 named)

/-- Which other handles lead to the cell of `h`. -/
theorem names_iff_together (sound : r.Sound) (found : r.cell? k = some c) :
    c.names h = true ↔ r.view.Together h k := by
  have named := (sound.cell?_eq_some_iff.1 found).2
  constructor
  · intro named'
    have found' := sound.cell?_eq_some_iff.2 ⟨(sound.cell?_eq_some_iff.1 found).1, named'⟩
    rw [View.Together, View.partner, view, found', Option.map_some, Option.bind_some,
      ← Cell.mem_handles_iff named']
    exact Cell.names_iff.1 named
  · intro together
    rw [View.Together, View.partner, view] at together
    rcases together with rfl | beside
    · exact named
    · obtain ⟨seen, shown, other⟩ := Option.bind_eq_some_iff.1 beside
      obtain ⟨c', found', rfl⟩ := Option.map_eq_some_iff.1 shown
      have own := sound.cell?_eq_some_iff.1 found'
      have named' : c'.names k = true :=
        Cell.names_iff.2 ((Cell.mem_handles_iff own.2).2 (.inr other))
      have same : c = c' :=
        Option.some.inj (found.symm.trans (sound.cell?_eq_some_iff.2 ⟨own.1, named'⟩))
      exact same ▸ own.2

/-! ## Every operation keeps handles apart -/

theorem empty : (Registry.empty : Registry σ).Sound := List.nodup_nil

theorem insert (sound : r.Sound) (inserted : r.insert h state = .ok r') : r'.Sound := by
  unfold Registry.insert at inserted
  split at inserted
  · cases inserted
  · rename_i untracked
    cases inserted
    refine List.nodup_cons.2 ⟨fun mem => untracked (mem_handles_iff.1 mem), sound⟩

theorem link (sound : r.Sound) (linked : r.link h partner = .ok r') : r'.Sound := by
  unfold Registry.link at linked
  split at linked
  · cases linked
  · rename_i untracked
    split at linked
    · cases linked
    · rename_i c found
      split at linked
      · cases linked
      · rename_i single
        cases linked
        obtain ⟨each, apart⟩ := List.nodup_flatMap.1 sound
        have new : ∀ c ∈ r.cells, partner ∉ c.handles := fun c mem in_c =>
          untracked (mem_handles_iff.1 (List.mem_flatMap.2 ⟨c, mem, in_c⟩))
        refine List.nodup_flatMap.2 ⟨?_, ?_⟩
        · intro c' mem
          obtain ⟨c₀, mem₀, rfl⟩ := List.mem_map.1 mem
          split
          · have ne : partner ≠ c₀.owner := fun eq => new c₀ mem₀ (by simp [Cell.handles, eq])
            simpa [Cell.handles] using ne.symm
          · exact each c₀ mem₀
        · rw [List.pairwise_map]
          refine apart.imp_of_mem fun {a b} mem_a mem_b disjoint => ?_
          -- the cell that is linked gains a handle that no other cell has
          have grown : ∀ c₀ ∈ r.cells, ∀ x,
              x ∈ (if c₀.names h then { c₀ with partner := some partner } else c₀).handles →
                x ∈ c₀.handles ∨ x = partner ∧ c₀.names h = true := by
            intro c₀ mem₀ x
            split
            · rename_i named
              simp only [Cell.handles, List.mem_cons, Option.mem_toList, Option.some_inj]
              rintro (rfl | rfl)
              · exact .inl (.inl rfl)
              · exact .inr ⟨rfl, named⟩
            · exact .inl
          intro x in_a in_b
          rcases grown a mem_a x in_a with old_a | ⟨rfl, named_a⟩
          · rcases grown b mem_b x in_b with old_b | ⟨rfl, -⟩
            · exact disjoint old_a old_b
            · exact new a mem_a old_a
          · rcases grown b mem_b x in_b with old_b | ⟨-, named_b⟩
            · exact new b mem_b old_b
            · exact disjoint (Cell.names_iff.1 named_a) (Cell.names_iff.1 named_b)

theorem update (sound : r.Sound) (h : Handle) (f : σ → σ) : (r.update h f).Sound := by
  have same : (r.update h f).handles = r.handles := by
    simp only [handles, Registry.update, List.flatMap_map]
    congr 1
    funext c
    split <;> rfl
  rw [Sound, same]
  exact sound

theorem remove (sound : r.Sound) (h : Handle) : (r.remove h).Sound :=
  List.Nodup.sublist (List.filter_sublist.flatMap _) sound

end Sound

/-! ## Every operation shows what it should -/

theorem view_insert (r : Registry σ) (h : Handle) (state : σ) :
    (r.insert h state).map view = r.view.insert h state := by
  rw [insert, View.insert, contains_eq_view]
  split
  · rfl
  · refine congrArg Except.ok (funext fun k => ?_)
    by_cases own : k = h
    · subst own
      rw [Function.update_self]
      simp [view, cell?, Cell.names, Cell.otherThan]
    · rw [Function.update_of_ne own]
      simp [view, cell?, Cell.names, Ne.symm own]

/-- All that a link does: the cell of `h`, which had no other handle, is found under its partner
too, and all other cells are found where they were. -/
theorem cell?_link (sound : r.Sound) (linked : r.link h partner = .ok r') :
    ∃ c : Cell σ, r.cell? h = some c ∧ c.partner = none ∧ r.contains partner = false ∧
      ∀ k, r'.cell? k =
        if k = h ∨ k = partner then some { c with partner := some partner } else r.cell? k := by
  have sound' := sound.link linked
  unfold link at linked
  split at linked
  · cases linked
  rename_i new
  split at linked
  · cases linked
  rename_i c found
  split at linked
  · cases linked
  rename_i single
  cases linked
  rw [Bool.not_eq_true, Option.isSome_eq_false_iff, Option.isNone_iff_eq_none] at single
  rw [Bool.not_eq_true] at new
  refine ⟨c, found, single, new, fun k => ?_⟩
  obtain ⟨mem, named⟩ := sound.cell?_eq_some_iff.1 found
  have owner : c.owner = h := by simpa [Cell.names, single] using named
  have linked_mem : ∀ d ∈ r.cells, (if d.names h then { d with partner := some partner } else d) ∈
      r.cells.map fun c => if c.names h then { c with partner := some partner } else c :=
    fun d mem => List.mem_map_of_mem mem
  by_cases own : k = h ∨ k = partner
  · rw [if_pos own, sound'.cell?_eq_some_iff]
    refine ⟨by simpa [named] using linked_mem c mem, ?_⟩
    rw [Cell.names_iff, Cell.handles, owner]
    simpa using own
  · rw [if_neg own]
    rw [not_or] at own
    -- the other cells are not linked, and the linked one is not found under `k`
    cases found_k : r.cell? k with
    | some d =>
      obtain ⟨mem_d, named_d⟩ := sound.cell?_eq_some_iff.1 found_k
      have apart : ¬ d.names h = true := by
        intro named_h
        have same := found.symm.trans (sound.cell?_eq_some_iff.2 ⟨mem_d, named_h⟩)
        cases same
        simp [Cell.names, single, owner, Ne.symm own.1] at named_d
      refine sound'.cell?_eq_some_iff.2 ⟨?_, named_d⟩
      simpa [apart] using linked_mem d mem_d
    | none =>
      rw [cell?, List.find?_eq_none] at found_k ⊢
      intro d' mem_d'
      obtain ⟨d, mem_d, rfl⟩ := List.mem_map.1 mem_d'
      have unnamed := found_k d mem_d
      split
      · simp only [Cell.names, Bool.or_eq_true, beq_iff_eq, not_or] at unnamed ⊢
        exact ⟨unnamed.1, fun eq => own.2 (Option.some.inj eq).symm⟩
      · exact unnamed

theorem view_link (sound : r.Sound) (h partner : Handle) :
    (r.link h partner).map view = r.view.link h partner := by
  cases linked : r.link h partner with
  | ok r' =>
    obtain ⟨c, found, single, new, after⟩ := cell?_link sound linked
    have named := (sound.cell?_eq_some_iff.1 found).2
    have owner : c.owner = h := by simpa [Cell.names, single] using named
    have ne : h ≠ partner := by
      rintro rfl
      simp [contains, found] at new
    have seen : r.view h = some { state := c.state } := by
      simp [view, found, Cell.otherThan, single, owner]
    rw [contains_eq_view] at new
    simp only [Except.map, View.link, new, seen, Bool.false_eq_true, if_false, Option.isSome_none]
    refine congrArg Except.ok (funext fun k => ?_)
    rw [view, after]
    by_cases beside : k = partner
    · subst beside
      simp [Cell.otherThan, owner, ne]
    · rw [Function.update_of_ne beside]
      by_cases own : k = h
      · subst own
        simp [Cell.otherThan, owner]
      · rw [Function.update_of_ne own, if_neg (not_or.2 ⟨own, beside⟩), view]
  | error error =>
    unfold link at linked
    rw [View.link, ← contains_eq_view]
    split at linked
    · rename_i tracked
      cases linked
      rw [if_pos tracked]
      rfl
    · rename_i new
      rw [if_neg new]
      split at linked
      · rename_i untracked
        cases linked
        rw [view, untracked]
        rfl
      · rename_i c found
        split at linked
        · rename_i paired
          cases linked
          have other : (c.otherThan h).isSome = true := by
            rw [Cell.otherThan]
            split
            · exact paired
            · rfl
          simp only [view, found, Option.map_some, other, if_true]
          rfl
        · cases linked

theorem view_update (sound : r.Sound) (h : Handle) (f : σ → σ) :
    (r.update h f).view = r.view.update h f := by
  funext k
  rw [view, cell?_update, View.update]
  cases found : r.cell? k with
  | none =>
    have unseen : r.view k = none := by rw [view, found]; rfl
    rw [unseen]
    split <;> rfl
  | some c =>
    have seen : r.view k = some { state := c.state, partner := c.otherThan k } := by
      rw [view, found]
      rfl
    rw [seen, Option.map_some, Option.map_some]
    by_cases together : r.view.Together h k
    · rw [if_pos together, if_pos ((sound.names_iff_together found).2 together)]
      rfl
    · rw [if_neg together, if_neg (mt (sound.names_iff_together found).1 together)]

theorem view_remove (sound : r.Sound) (h : Handle) : (r.remove h).view = r.view.remove h := by
  have sound' := sound.remove h
  funext k
  rw [View.remove]
  cases left : (r.remove h).cell? k with
  | some c =>
    obtain ⟨mem, named⟩ := sound'.cell?_eq_some_iff.1 left
    obtain ⟨mem, kept⟩ := List.mem_filter.1 mem
    have found := sound.cell?_eq_some_iff.2 ⟨mem, named⟩
    have apart : ¬ r.view.Together h k := by
      rw [← sound.names_iff_together found]
      simpa using kept
    rw [if_neg apart, view, view, left, found]
  | none =>
    rw [view, left, Option.map_none]
    split
    · rfl
    · rename_i apart
      cases found : r.cell? k with
      | none => rw [view, found, Option.map_none]
      | some c =>
        obtain ⟨mem, named⟩ := sound.cell?_eq_some_iff.1 found
        rw [← sound.names_iff_together found] at apart
        have mem' : c ∈ (r.remove h).cells := List.mem_filter.2 ⟨mem, by simpa using apart⟩
        rw [sound'.cell?_eq_some_iff.2 ⟨mem', named⟩] at left
        cases left

/-- **Cells show what a table should.** -/
theorem implements : (store σ).Implements Sound view where
  insert _ h state := view_insert _ h state
  link sound h partner := view_link sound h partner
  change {r} sound ρ h f := by
    simp only [store, change, Prod.map_apply, view_update sound, View.change, lookup, view,
      Option.map_map]
    rfl
  take {r} sound h := by
    simp only [store, take, Prod.map_apply, view_remove sound, View.take, lookup, view,
      Option.map_map]
    rfl
  lookup _ h := by
    simp [store, lookup, view, Function.comp_def]
  peer _ h := by
    simp only [store, peer, View.partner, view, Option.bind_map]
    rfl
  contains _ h := contains_eq_view _ h
  sound_insert sound _ _ := sound.insert
  sound_link sound _ _ := sound.link
  sound_change sound _ h _ := sound.update h _
  sound_take sound := sound.remove

end Registry

end TransportConverter
