import TransportConverter.Registry
/-!
# What work on one handle leaves alone

A handle that was never paired is alone in its cell (`Registry.Alone`), so changes made through other
handles do not reach its state, whatever pairs those are in. `Registry.Touched` is all that an
operation on one handle does to a registry, and its frame lemmas are what is left to the others.
-/
namespace TransportConverter

namespace Registry

variable {σ : Type} {r r' : Registry σ} {h k : Handle} {state s : σ}

/-- `h` leads to `s` and shares its cell with no other handle. -/
def Alone (r : Registry σ) (h : Handle) (s : σ) : Prop :=
  r.cell? h = some { state := s, owner := h }

theorem Alone.lookup (alone : r.Alone h s) : r.lookup h = some s := by
  rw [Registry.lookup, alone]
  rfl

theorem lookup_of_untracked (untracked : r.contains h = false) : r.lookup h = none := by
  rw [contains, Option.isSome_eq_false_iff, Option.isNone_iff_eq_none] at untracked
  rw [lookup, untracked]
  rfl

theorem alone_of_insert (inserted : r.insert h state = .ok r') : r'.Alone h state := by
  unfold insert at inserted
  split at inserted <;> cases inserted
  simp [Alone, cell?, Cell.names]

theorem insert_of_untracked (untracked : r.contains h = false) (state : σ) :
    ∃ r', r.insert h state = .ok r' :=
  ⟨_, by rw [insert, untracked]; rfl⟩

/-- Tracking one handle leaves the cells of all others where they are. -/
theorem cell?_of_insert (inserted : r.insert k state = .ok r') (ne : h ≠ k) :
    r'.cell? h = r.cell? h := by
  unfold insert at inserted
  split at inserted <;> cases inserted
  simp [cell?, Cell.names, ne.symm]

theorem names_eq_false (ne : h ≠ k) (s : σ) : Cell.names { state := s, owner := h } k = false := by
  simpa [Cell.names] using ne

namespace Alone

theorem update_self (alone : r.Alone h s) (f : σ → σ) : (r.update h f).Alone h (f s) := by
  rw [Alone, cell?_update, alone]
  simp [Cell.names]

theorem update_ne (alone : r.Alone h s) (ne : h ≠ k) (f : σ → σ) : (r.update k f).Alone h s := by
  rw [Alone, cell?_update, alone, Option.map_some, names_eq_false ne]
  rfl

theorem remove_ne (alone : r.Alone h s) (ne : h ≠ k) : (r.remove k).Alone h s := by
  rw [Alone, cell?, List.find?_eq_some_iff_append] at alone
  obtain ⟨names, before, after, cells, first⟩ := alone
  have kept : (!Cell.names { state := s, owner := h } k) = true := by rw [names_eq_false ne]; rfl
  rw [Alone, cell?, List.find?_eq_some_iff_append]
  refine ⟨names, before.filter fun c => !c.names k, after.filter fun c => !c.names k, ?_, ?_⟩
  · simp only [remove, cells, List.filter_append, List.filter_cons, kept, if_true]
  · exact fun c mem => first c (List.mem_filter.1 mem).1

end Alone

theorem contains_remove_self (r : Registry σ) (h : Handle) : (r.remove h).contains h = false := by
  have := lookup_remove_self r h
  rw [lookup, Option.map_eq_none_iff] at this
  rw [contains, this]
  rfl

theorem untracked_remove (untracked : r.contains h = false) (k : Handle) :
    (r.remove k).contains h = false := by
  simp only [contains, cell?, remove, Option.isSome_eq_false_iff, Option.isNone_iff_eq_none,
    List.find?_eq_none] at untracked ⊢
  exact fun c mem => untracked c (List.mem_filter.1 mem).1

/-! ## Changes made through one handle -/

/-- `r'` comes of `r` by changes made through `h`, and by no others. -/
inductive Touched (h : Handle) (r : Registry σ) : Registry σ → Prop
  | refl : Touched h r r
  | update (f : σ → σ) {s : Registry σ} : Touched h r s → Touched h r (s.update h f)
  | remove {s : Registry σ} : Touched h r s → Touched h r (s.remove h)

namespace Touched

theorem alone (touched : Touched k r r') (ne : h ≠ k) (alone : r.Alone h s) : r'.Alone h s := by
  induction touched with
  | refl => exact alone
  | update f _ ih => exact ih.update_ne ne f
  | remove _ ih => exact ih.remove_ne ne

theorem untracked (touched : Touched k r r') (untracked : r.contains h = false) :
    r'.contains h = false := by
  induction touched with
  | refl => exact untracked
  | update f _ ih => rwa [contains_update]
  | remove _ ih => exact untracked_remove ih k

theorem trans {r'' : Registry σ} (first : Touched h r r') (second : Touched h r' r'') :
    Touched h r r'' := by
  induction second with
  | refl => exact first
  | update f _ ih => exact .update f ih
  | remove _ ih => exact .remove ih

end Touched

end Registry

end TransportConverter
