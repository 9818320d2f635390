import TransportConverter.Proofs.Registry.Elsewhere
/-!
# What an operation does to the cells

Every operation on a handle puts another cell in the place of the one that the handle leads to, or takes
that one away, and leaves all others as they are (`Registry.Swaps`).
-/
namespace TransportConverter

namespace Registry

variable {σ : Type} {r r' : Registry σ} {h k : Handle} {partner : Option Handle} {s : σ}
  {new : Option (Cell σ)}

/-- `r'` comes of `r` by putting `new` where `h` led to. -/
def Swaps (h : Handle) (new : Option (Cell σ)) (r r' : Registry σ) : Prop :=
  ∀ c, c ∈ r'.cells ↔ new = some c ∨ c ∈ r.cells ∧ c.names h = false

theorem names_eq_false_of_mem (untracked : r.contains h = false) {c : Cell σ} (mem : c ∈ r.cells) :
    c.names h = false := by
  by_contra named
  simp only [contains, cell?, Option.isSome_eq_false_iff, Option.isNone_iff_eq_none,
    List.find?_eq_none] at untracked
  exact untracked c mem (by simpa using named)

/-- The cell that is listed under a handle is the only one that names it. -/
theorem Lists.eq_of_names (lists : r.Lists h partner s) (sound : r.Sound) {c : Cell σ}
    (mem : c ∈ r.cells) (named : c.names h = true) : c = { state := s, owner := h, partner } :=
  Option.some.inj
    ((sound.cell?_eq_some_iff.2 ⟨mem, named⟩).symm.trans (lists.cell? sound (.inl rfl)))

theorem swaps_insert (inserted : r.insert h s = .ok r') :
    Swaps h (some { state := s, owner := h }) r r' := by
  unfold insert at inserted
  split at inserted
  · cases inserted
  · rename_i untracked
    cases inserted
    intro c
    have others (mem : c ∈ r.cells) : c.names h = false :=
      names_eq_false_of_mem (by simpa using untracked) mem
    simp only [List.mem_cons, Option.some_inj]
    constructor
    · rintro (rfl | mem)
      · exact .inl rfl
      · exact .inr ⟨mem, others mem⟩
    · rintro (rfl | ⟨mem, -⟩)
      · exact .inl rfl
      · exact .inr mem

/-- Changes that are made to the cell of `h` alone. -/
theorem swaps_map (sound : r.Sound) (lists : r.Lists h partner s) (f : Cell σ → Cell σ) :
    Swaps h (some (f { state := s, owner := h, partner })) r
      ⟨r.cells.map fun c => if c.names h then f c else c⟩ := by
  have own : Cell.names { state := s, owner := h, partner } h = true := by simp [Cell.names]
  intro c
  simp only [List.mem_map, Option.some_inj]
  constructor
  · rintro ⟨c, mem, rfl⟩
    by_cases named : c.names h = true
    · rw [if_pos named, lists.eq_of_names sound mem named]
      exact .inl rfl
    · rw [if_neg named]
      exact .inr ⟨mem, by simpa using named⟩
  · rintro (rfl | ⟨mem, apart⟩)
    · exact ⟨_, lists, if_pos own⟩
    · exact ⟨c, mem, by simp [apart]⟩

theorem swaps_update (sound : r.Sound) (lists : r.Lists h partner s) (f : σ → σ) :
    Swaps h (some { state := f s, owner := h, partner }) r (r.update h f) :=
  swaps_map sound lists fun c => { c with state := f c.state }

theorem swaps_link (sound : r.Sound) (lists : r.Lists h none s) (linked : r.link h k = .ok r') :
    Swaps h (some { state := s, owner := h, partner := some k }) r r' := by
  unfold link at linked
  split at linked
  · cases linked
  · split at linked
    · cases linked
    · split at linked
      · cases linked
      · cases linked
        exact swaps_map sound lists fun c => { c with partner := some k }

theorem swaps_remove (r : Registry σ) (h : Handle) : Swaps h none r (r.remove h) := by
  intro c
  simp [remove]

end Registry

end TransportConverter
