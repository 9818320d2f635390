import TransportConverter.Proofs.Registry.Cells
/-!
# One cell among many

Where a registry lists a state under its handles (`Registry.Lists`), and what others do to their own
cells (`Registry.Elsewhere`) leaves it there.
-/
namespace TransportConverter

namespace Registry

variable {σ : Type} {r r' : Registry σ} {h k : Handle} {partner : Option Handle} {s : σ}

/-- `s` is listed under `h`, and under its partner if there is one. -/
def Lists (r : Registry σ) (h : Handle) (partner : Option Handle) (s : σ) : Prop :=
  { state := s, owner := h, partner } ∈ r.cells

/-- `k` does not lead to the cell of `h`. -/
def Apart (r : Registry σ) (h k : Handle) : Prop := ∀ c, r.cell? h = some c → c.names k = false

/-- `r'` comes of `r` by changes that leave the cell of `h` alone. -/
inductive Elsewhere (h : Handle) (r : Registry σ) : Registry σ → Prop
  | refl : Elsewhere h r r
  | insert {k : Handle} {state : σ} {r' : Registry σ} (inserted : r.insert k state = .ok r') :
      Elsewhere h r r'
  | link {k partner : Handle} {r' : Registry σ} (apart : r.Apart h k)
      (linked : r.link k partner = .ok r') : Elsewhere h r r'
  | update {k : Handle} (apart : r.Apart h k) (f : σ → σ) : Elsewhere h r (r.update k f)
  | remove {k : Handle} (apart : r.Apart h k) : Elsewhere h r (r.remove k)

theorem Elsewhere.sound (elsewhere : Elsewhere h r r') (sound : r.Sound) : r'.Sound := by
  cases elsewhere with
  | refl => exact sound
  | insert inserted => exact sound.insert inserted
  | link apart linked => exact sound.link linked
  | update apart f => exact sound.update _ f
  | remove apart => exact sound.remove _

theorem lists_of_insert (inserted : r.insert h s = .ok r') : r'.Lists h none s := by
  unfold insert at inserted
  split at inserted <;> cases inserted
  exact List.mem_cons_self

namespace Lists

theorem cell? (lists : r.Lists h partner s) (sound : r.Sound) (named : k = h ∨ partner = some k) :
    r.cell? k = some { state := s, owner := h, partner } := by
  refine sound.cell?_eq_some_iff.2 ⟨lists, Cell.names_iff.2 ?_⟩
  rw [Cell.handles, List.mem_cons, Option.mem_toList]
  exact named

theorem lookup (lists : r.Lists h partner s) (sound : r.Sound) : r.lookup h = some s := by
  rw [Registry.lookup, lists.cell? sound (.inl rfl)]
  rfl

theorem contains (lists : r.Lists h partner s) (sound : r.Sound)
    (named : k = h ∨ partner = some k) : r.contains k = true := by
  rw [Registry.contains, lists.cell? sound named]
  rfl

theorem ne (lists : r.Lists h (some k) s) (sound : r.Sound) : h ≠ k := by
  have := (List.nodup_flatMap.1 sound).1 _ lists
  simpa [Cell.handles] using this

theorem peer (lists : r.Lists h partner s) (sound : r.Sound) : r.peer h = partner := by
  rw [Registry.peer, lists.cell? sound (.inl rfl)]
  simp [Cell.otherThan]

/-- The partner leads back. -/
theorem peer_partner (lists : r.Lists h (some k) s) (sound : r.Sound) : r.peer k = some h := by
  rw [Registry.peer, lists.cell? sound (.inr rfl)]
  simp [Cell.otherThan, lists.ne sound]

theorem update (lists : r.Lists h partner s) (f : σ → σ) : (r.update h f).Lists h partner (f s) := by
  have := List.mem_map_of_mem (f := fun c => if c.names h then { c with state := f c.state } else c)
    lists
  simpa [Lists, Registry.update, Cell.names] using this

theorem link (lists : r.Lists h none s) (sound : r.Sound) (linked : r.link h k = .ok r') :
    r'.Lists h (some k) s := by
  obtain ⟨c, found, -, -, after⟩ := cell?_link sound linked
  rw [lists.cell? sound (.inl rfl)] at found
  cases found
  have found' := after h
  rw [if_pos (.inl rfl)] at found'
  exact ((sound.link linked).cell?_eq_some_iff.1 found').1

/-- **A cell stays where it is**, whatever others do to theirs. -/
theorem elsewhere (lists : r.Lists h partner s) (sound : r.Sound) (elsewhere : Elsewhere h r r') :
    r'.Lists h partner s := by
  have found := lists.cell? sound (.inl rfl)
  cases elsewhere with
  | refl => exact lists
  | insert inserted =>
    unfold Registry.insert at inserted
    split at inserted <;> cases inserted
    exact List.mem_cons_of_mem _ lists
  | @link k k' r' apart linked =>
    obtain ⟨c, found', single, new, after⟩ := cell?_link sound linked
    have own := apart _ found
    have ne : h ≠ k := by
      rintro rfl
      simp [Cell.names] at own
    have ne' : h ≠ k' := by
      rintro rfl
      rw [lists.contains sound (.inl rfl)] at new
      cases new
    have found'' := after h
    rw [if_neg (not_or.2 ⟨ne, ne'⟩), found] at found''
    exact ((sound.link linked).cell?_eq_some_iff.1 found'').1
  | update apart f =>
    refine List.mem_map.2 ⟨_, lists, ?_⟩
    rw [apart _ found]
    rfl
  | remove apart => exact List.mem_filter.2 ⟨lists, by rw [apart _ found]; rfl⟩

/-- Both handles of a cell are given up at once. -/
theorem contains_remove (lists : r.Lists h partner s) (sound : r.Sound)
    (named : k = h ∨ partner = some k) : (r.remove h).contains k = false := by
  by_contra tracked
  rw [Bool.not_eq_false, Registry.contains, Option.isSome_iff_exists] at tracked
  obtain ⟨c, found⟩ := tracked
  obtain ⟨mem, names⟩ := (sound.remove h).cell?_eq_some_iff.1 found
  obtain ⟨mem, kept⟩ := List.mem_filter.1 mem
  have same := (lists.cell? sound named).symm.trans (sound.cell?_eq_some_iff.2 ⟨mem, names⟩)
  cases same
  simp [Cell.names] at kept

end Lists

end Registry

end TransportConverter
