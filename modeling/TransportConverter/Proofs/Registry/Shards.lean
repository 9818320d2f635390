import Mathlib.Data.List.Nodup
import TransportConverter.Proofs.Registry.Cells
import TransportConverter.Registry.Sharded
/-!
# Shards show what a table should

Entries are spread over shards by the hash of their handle, and paired entries, in one shard or in two,
share a state by the number of its cell. Two things keep that together: every entry is where its hash
says (`ShardedRegistry.Layout`), and two handles lead to one cell exactly when each names the other
(`ShardedRegistry.Sound`). So the shards show what a table should (`ShardedRegistry.implements`), and
nobody can tell them from a registry without shards.
-/
namespace TransportConverter

/-! ## Association lists -/

section Lookup

variable {α β : Type} [BEq α] [LawfulBEq α]

theorem lookup_filter_fst (l : List (α × β)) (p : α → Bool) (k : α) :
    (l.filter fun e => p e.1).lookup k = if p k then l.lookup k else none := by
  induction l with
  | nil => simp
  | cons e l ih =>
    obtain ⟨a, b⟩ := e
    by_cases same : k = a
    · subst same
      by_cases kept : p k = true
      · simp [kept]
      · simp [kept, ih]
    · have differs : (k == a) = false := by simpa using same
      by_cases kept : p a = true
      · simp [kept, List.lookup_cons, differs, ih]
      · simp [kept, List.lookup_cons, differs, ih]

theorem lookup_map_at (l : List (Nat × β)) (n m : Nat) (f : β → β) :
    (l.map fun c => if c.1 = n then (c.1, f c.2) else c).lookup m =
      if m = n then (l.lookup m).map f else l.lookup m := by
  induction l with
  | nil => simp
  | cons c l ih =>
    obtain ⟨a, b⟩ := c
    by_cases same : m = a
    · subst same
      by_cases changed : m = n
      · simp [changed]
      · simp [changed]
    · have differs : (m == a) = false := by simpa using same
      by_cases changed : a = n
      · simp [changed ▸ differs, changed, List.lookup_cons, ih]
      · simp [changed, List.lookup_cons, differs, ih]

end Lookup

namespace Shard

theorem find_put (s : Shard) (h k : Handle) (e : ShardEntry) :
    (s.put h e).find k = if k = h then some e else s.find k := by
  by_cases own : k = h
  · subst own
    simp [find, put]
  · have differs : (k == h) = false := by simpa using own
    have others := lookup_filter_fst s (fun a => decide (a ≠ h)) k
    simp only [find, put, List.lookup_cons, differs, if_neg own]
    simpa [own] using others

theorem find_erase (s : Shard) (h k : Handle) :
    (s.erase h).find k = if k = h then none else s.find k := by
  have others := lookup_filter_fst s (fun a => decide (a ≠ h)) k
  by_cases own : k = h
  · simpa [find, erase, own] using others
  · simpa [find, erase, own] using others

theorem mem_fst_of_find {s : Shard} {h : Handle} {e : ShardEntry} (found : s.find h = some e) :
    (h, e) ∈ s := by
  obtain ⟨before, after, eq, -⟩ := List.lookup_eq_some_iff.1 found
  rw [eq]
  exact List.mem_append_right _ (List.mem_cons_self ..)

end Shard

namespace ShardedRegistry

variable {σ : Type} {t t' : ShardedRegistry σ} {h k partner : Handle} {e : ShardEntry}

/-! ## Where entries are -/

theorem entry?_eq (t : ShardedRegistry σ) (h : Handle) : t.entry? h = (t.shard h).find h := rfl

/-- There is a shard, every entry is in the shard that its hash picks, and no handle is twice in
one. -/
structure Layout (t : ShardedRegistry σ) : Prop where
  inhabited : 0 < t.shards.length
  placed : ∀ i s, t.shards[i]? = some s → ∀ e ∈ s, t.shardIndex e.1 = i
  keys : ∀ s ∈ t.shards, (s.map Prod.fst).Nodup

@[simp] theorem shardIndex_onShard (t : ShardedRegistry σ) (h k : Handle) (f : Shard → Shard) :
    (t.onShard h f).shardIndex k = t.shardIndex k := by
  simp [shardIndex, onShard]

namespace Layout

theorem shards_shardIndex (layout : t.Layout) (h : Handle) :
    t.shards[t.shardIndex h]? = some (t.shard h) := by
  have inside : t.shardIndex h < t.shards.length := Nat.mod_lt _ layout.inhabited
  rw [shard, List.getElem?_eq_getElem inside]
  rfl

theorem entry?_onShard (layout : t.Layout) (h k : Handle) (f : Shard → Shard) :
    entry? (t.onShard h f) k =
      if t.shardIndex k = t.shardIndex h then (f (t.shard h)).find k else t.entry? k := by
  have found : (t.onShard h f).shards[t.shardIndex k]? =
      some (if t.shardIndex h = t.shardIndex k then f (t.shard k) else t.shard k) := by
    rw [onShard, List.getElem?_modify, layout.shards_shardIndex]
    rfl
  rw [entry?_eq, shard, shardIndex_onShard, found, Option.getD_some]
  by_cases same : t.shardIndex h = t.shardIndex k
  · rw [if_pos same, if_pos same.symm, shard, shard, same]
  · rw [if_neg same, if_neg (Ne.symm same), entry?]

theorem entry?_put (layout : t.Layout) (h k : Handle) (e : ShardEntry) :
    entry? (t.onShard h (·.put h e)) k = if k = h then some e else t.entry? k := by
  rw [layout.entry?_onShard, Shard.find_put]
  by_cases own : k = h
  · simp [own]
  · rw [if_neg own]
    split
    · rename_i same
      rw [entry?_eq, shard, shard, same]
    · rfl

theorem entry?_erase (layout : t.Layout) (h k : Handle) :
    entry? (t.onShard h (·.erase h)) k = if k = h then none else t.entry? k := by
  rw [layout.entry?_onShard, Shard.find_erase]
  by_cases own : k = h
  · simp [own]
  · rw [if_neg own]
    split
    · rename_i same
      rw [entry?_eq, shard, shard, same]
    · rfl

/-- A change of one shard that keeps its entries apart and brings in none but one of `h`. -/
theorem onShard (layout : t.Layout) (h : Handle) {f : Shard → Shard}
    (keys : ∀ s, (s.map Prod.fst).Nodup → ((f s).map Prod.fst).Nodup)
    (new : ∀ s, ∀ e ∈ f s, e.1 = h ∨ e ∈ s) : (t.onShard h f).Layout := by
  refine ⟨by simpa [ShardedRegistry.onShard] using layout.inhabited, ?_, ?_⟩
  · intro i s found e mem
    rw [shardIndex_onShard]
    rw [ShardedRegistry.onShard, List.getElem?_modify] at found
    obtain ⟨s₀, found₀, rfl⟩ := Option.map_eq_some_iff.1 found
    by_cases same : t.shardIndex h = i
    · rw [if_pos same] at mem
      rcases new s₀ e mem with own | old
      · rw [own, same]
      · exact layout.placed i s₀ found₀ e old
    · rw [if_neg same] at mem
      exact layout.placed i s₀ found₀ e mem
  · intro s mem
    obtain ⟨i, found⟩ := List.mem_iff_getElem?.1 mem
    rw [ShardedRegistry.onShard, List.getElem?_modify] at found
    obtain ⟨s₀, found₀, rfl⟩ := Option.map_eq_some_iff.1 found
    have apart := layout.keys s₀ (List.mem_of_getElem? found₀)
    split
    · exact keys s₀ apart
    · exact apart

theorem put (layout : t.Layout) (h : Handle) (e : ShardEntry) :
    (t.onShard h (·.put h e)).Layout := by
  refine layout.onShard h (fun s apart => ?_) (fun s e' mem => ?_)
  · refine List.nodup_cons.2 ⟨by simp, ?_⟩
    exact apart.sublist (List.filter_sublist.map _)
  · rcases List.mem_cons.1 mem with rfl | old
    · exact .inl rfl
    · exact .inr (List.mem_filter.1 old).1

theorem erase (layout : t.Layout) (h : Handle) : (t.onShard h (·.erase h)).Layout :=
  layout.onShard h (fun _ apart => apart.sublist (List.filter_sublist.map _))
    (fun _ _ mem => .inr (List.mem_filter.1 mem).1)

/-! ### Listing -/

theorem mem_handles_iff (layout : t.Layout) : h ∈ t.handles ↔ t.contains h = true := by
  rw [handles, List.mem_flatMap, contains, Option.isSome_iff_exists]
  constructor
  · rintro ⟨s, mem, listed⟩
    obtain ⟨⟨k, e⟩, mem_e, rfl⟩ := List.mem_map.1 listed
    obtain ⟨i, found⟩ := List.mem_iff_getElem?.1 mem
    have place := layout.placed i s found _ mem_e
    have there : t.shard k = s := by rw [shard, place, found]; rfl
    rw [entry?_eq, there]
    cases lookup : s.find k with
    | some e' => exact ⟨e', rfl⟩
    | none =>
      have := List.lookup_eq_none_iff.1 lookup _ mem_e
      simp at this
  · rintro ⟨e, found⟩
    exact ⟨t.shard h, List.mem_of_getElem? (layout.shards_shardIndex h),
      List.mem_map.2 ⟨_, Shard.mem_fst_of_find found, rfl⟩⟩

/-- A handle is in one shard only, and once there. -/
theorem nodup_handles (layout : t.Layout) : t.handles.Nodup := by
  refine List.nodup_flatMap.2 ⟨layout.keys, List.pairwise_iff_getElem.2 ?_⟩
  intro i j inside_i inside_j lt k in_i in_j
  obtain ⟨a, mem_a, rfl⟩ := List.mem_map.1 in_i
  obtain ⟨b, mem_b, eq⟩ := List.mem_map.1 in_j
  have place_a := layout.placed i _ (List.getElem?_eq_getElem inside_i) a mem_a
  have place_b := layout.placed j _ (List.getElem?_eq_getElem inside_j) b mem_b
  rw [eq, place_a] at place_b
  omega

end Layout

theorem size_eq_length (t : ShardedRegistry σ) : t.size = t.handles.length := by
  have from_start : ∀ (shards : List Shard) (n : Nat),
      shards.foldl (fun n s => n + s.length) n =
        n + (shards.flatMap fun s => s.map Prod.fst).length := by
    intro shards
    induction shards with
    | nil => exact fun n => rfl
    | cons s shards ih =>
      intro n
      rw [List.foldl_cons, ih, List.flatMap_cons, List.length_append, List.length_map]
      omega
  rw [size, from_start, Nat.zero_add, handles]

theorem isEmpty_iff (t : ShardedRegistry σ) : t.isEmpty = true ↔ t.handles = [] := by
  simp [isEmpty, handles, List.flatMap_eq_nil_iff]

/-! ## Which entries share a cell -/

/-- Entries and cells belong together: each entry has its cell, two handles have the same cell only
when they are partners, and partners name each other. -/
structure Ties (entry : Handle → Option ShardEntry) (cells : List (Nat × σ)) (fresh : Nat) :
    Prop where
  numbered : ∀ c ∈ cells, c.1 < fresh
  stored : ∀ {h e}, entry h = some e → ∃ state, cells.lookup e.cell = some state
  shared : ∀ {h k e e'}, entry h = some e → entry k = some e' → e'.cell = e.cell →
    k = h ∨ e.partner = some k
  paired : ∀ {h k e}, entry h = some e → e.partner = some k →
    k ≠ h ∧ entry k = some { cell := e.cell, partner := some h }

namespace Ties

variable {entry : Handle → Option ShardEntry} {cells : List (Nat × σ)} {fresh : Nat}

theorem cell_lt (ties : Ties entry cells fresh) (found : entry h = some e) : e.cell < fresh := by
  obtain ⟨state, stored⟩ := ties.stored found
  obtain ⟨before, after, eq, -⟩ := List.lookup_eq_some_iff.1 stored
  exact ties.numbered (e.cell, state) (by simp [eq])

/-- The handles that share the cell of `h`. -/
theorem cell_eq_iff (ties : Ties entry cells fresh) {e' : ShardEntry} (found : entry h = some e)
    (found' : entry k = some e') : e'.cell = e.cell ↔ k = h ∨ e.partner = some k := by
  constructor
  · exact ties.shared found found'
  · rintro (rfl | beside)
    · rw [found, Option.some_inj] at found'
      rw [found']
    · rw [(ties.paired found beside).2, Option.some_inj] at found'
      rw [← found']

theorem insert (ties : Ties entry cells fresh) (untracked : entry h = none) (state : σ) :
    Ties (Function.update entry h (some { cell := fresh })) ((fresh, state) :: cells)
      (fresh + 1) := by
  refine ⟨?_, ?_, ?_, ?_⟩
  · intro c mem
    rcases List.mem_cons.1 mem with rfl | old
    · exact Nat.lt_succ_self _
    · exact Nat.lt_succ_of_lt (ties.numbered c old)
  · intro k e found
    rw [Function.update_apply] at found
    split at found
    · cases found
      exact ⟨state, List.lookup_cons_self⟩
    · have differs : (e.cell == fresh) = false := by
        simpa using Nat.ne_of_lt (ties.cell_lt found)
      rw [List.lookup_cons, differs]
      exact ties.stored found
  · intro k l e e' found found' same
    rw [Function.update_apply] at found found'
    split at found <;> split at found'
    · rename_i own own'
      exact .inl (own'.trans own.symm)
    · cases found
      exact absurd same (Nat.ne_of_lt (ties.cell_lt found'))
    · cases found'
      exact absurd same (Nat.ne_of_gt (ties.cell_lt found))
    · exact ties.shared found found' same
  · intro k l e found beside
    rw [Function.update_apply] at found
    split at found
    · cases found
      cases beside
    · obtain ⟨ne, there⟩ := ties.paired found beside
      refine ⟨ne, ?_⟩
      rw [Function.update_of_ne, there]
      rintro rfl
      rw [untracked] at there
      cases there

theorem link (ties : Ties entry cells fresh) (found : entry h = some e) (single : e.partner = none)
    (untracked : entry partner = none) :
    Ties (Function.update (Function.update entry h (some { e with partner := some partner })) partner
      (some { cell := e.cell, partner := some h })) cells fresh := by
  have ne : h ≠ partner := by
    rintro rfl
    rw [untracked] at found
    cases found
  -- the two that are linked have the cell of `h`, and nobody else has it
  have cases_of : ∀ {k e'}, Function.update (Function.update entry h
      (some { e with partner := some partner })) partner
      (some { cell := e.cell, partner := some h }) k = some e' →
      k = partner ∧ e' = { cell := e.cell, partner := some h } ∨
      k = h ∧ e' = { e with partner := some partner } ∨
      k ≠ partner ∧ k ≠ h ∧ entry k = some e' ∧ e'.cell ≠ e.cell := by
    intro k e' found'
    rw [Function.update_apply, Function.update_apply] at found'
    split at found'
    · rename_i own
      exact .inl ⟨own, (Option.some.inj found').symm⟩
    · rename_i other
      split at found'
      · rename_i own
        exact .inr (.inl ⟨own, (Option.some.inj found').symm⟩)
      · rename_i other'
        refine .inr (.inr ⟨other, other', found', fun same => ?_⟩)
        rcases ties.shared found found' same with own | beside
        · exact other' own
        · rw [single] at beside
          cases beside
  refine ⟨ties.numbered, ?_, ?_, ?_⟩
  · intro k e' found'
    obtain ⟨state, stored⟩ := ties.stored found
    rcases cases_of found' with ⟨-, rfl⟩ | ⟨-, rfl⟩ | ⟨-, -, old, -⟩
    · exact ⟨state, stored⟩
    · exact ⟨state, stored⟩
    · exact ties.stored old
  · intro k l e₁ e₂ found₁ found₂ same
    rcases cases_of found₁ with ⟨rfl, rfl⟩ | ⟨rfl, rfl⟩ | ⟨-, -, old₁, apart₁⟩ <;>
      rcases cases_of found₂ with ⟨rfl, rfl⟩ | ⟨rfl, rfl⟩ | ⟨-, -, old₂, apart₂⟩
    · exact .inl rfl
    · exact .inr rfl
    · exact absurd same apart₂
    · exact .inr rfl
    · exact .inl rfl
    · exact absurd same apart₂
    · exact absurd same.symm apart₁
    · exact absurd same.symm apart₁
    · exact ties.shared old₁ old₂ same
  · intro k l e' found' beside
    rcases cases_of found' with ⟨rfl, rfl⟩ | ⟨rfl, rfl⟩ | ⟨other, other', old, apart⟩
    · cases beside
      exact ⟨ne, by rw [Function.update_of_ne ne, Function.update_self]⟩
    · cases beside
      exact ⟨ne.symm, by rw [Function.update_self]⟩
    · obtain ⟨ne', there⟩ := ties.paired old beside
      refine ⟨ne', ?_⟩
      rw [Function.update_of_ne, Function.update_of_ne, there]
      · rintro rfl
        rw [found] at there
        cases there
        cases single
      · rintro rfl
        rw [untracked] at there
        cases there

theorem update (ties : Ties entry cells fresh) (n : Nat) (f : σ → σ) :
    Ties entry (cells.map fun c => if c.1 = n then (c.1, f c.2) else c) fresh := by
  refine ⟨?_, ?_, ties.shared, ties.paired⟩
  · intro c mem
    obtain ⟨c₀, mem₀, rfl⟩ := List.mem_map.1 mem
    have := ties.numbered c₀ mem₀
    split <;> exact this
  · intro k e found
    obtain ⟨state, stored⟩ := ties.stored found
    rw [lookup_map_at, stored]
    split
    · exact ⟨_, rfl⟩
    · exact ⟨_, rfl⟩

/-- Where a cell goes, all entries that share it go too. -/
theorem remove {entry' : Handle → Option ShardEntry} (ties : Ties entry cells fresh)
    (found : entry h = some e)
    (left : ∀ k, entry' k = if k = h ∨ e.partner = some k then none else entry k) :
    Ties entry' (cells.filter fun c => c.1 ≠ e.cell) fresh := by
  have others : ∀ {k e'}, entry' k = some e' → entry k = some e' ∧ e'.cell ≠ e.cell := by
    intro k e' found'
    rw [left] at found'
    split at found'
    · cases found'
    · rename_i apart
      exact ⟨found', fun same => apart (ties.shared found found' same)⟩
  refine ⟨fun c mem => ties.numbered c (List.mem_filter.1 mem).1, ?_, ?_, ?_⟩
  · intro k e' found'
    obtain ⟨old, apart⟩ := others found'
    rw [lookup_filter_fst cells (fun n => decide (n ≠ e.cell)), if_pos (by simpa using apart)]
    exact ties.stored old
  · intro k l e₁ e₂ found₁ found₂ same
    exact ties.shared (others found₁).1 (others found₂).1 same
  · intro k l e' found' beside
    obtain ⟨old, apart⟩ := others found'
    obtain ⟨ne, there⟩ := ties.paired old beside
    refine ⟨ne, ?_⟩
    rw [left, if_neg, there]
    intro gone
    exact apart ((ties.cell_eq_iff found there).2 gone)

end Ties

/-! ## What is seen -/

structure Sound (t : ShardedRegistry σ) : Prop where
  layout : t.Layout
  ties : Ties t.entry? t.cells t.fresh

/-- What shards show of their entries and cells. -/
def view (t : ShardedRegistry σ) : View σ := fun h =>
  (t.entry? h).bind fun e => (t.state? e.cell).map fun state => { state, partner := e.partner }

theorem view_of_untracked (untracked : t.entry? h = none) : t.view h = none := by
  rw [view, untracked]
  rfl

/-- Sharded registries as tables. -/
def store (σ : Type) : Store σ (ShardedRegistry σ) where
  insert := ShardedRegistry.insert
  link := ShardedRegistry.link
  change := ShardedRegistry.change
  take := ShardedRegistry.take
  lookup := ShardedRegistry.lookup
  peer := ShardedRegistry.peer
  contains := ShardedRegistry.contains

theorem sound_withShards (hash : Handle → Nat) (count : Nat) :
    (withShards hash count : ShardedRegistry σ).Sound := by
  have empty : ∀ h, entry? (withShards hash count : ShardedRegistry σ) h = none := by
    intro h
    rw [entry?_eq, shard, withShards, List.getElem?_replicate]
    split <;> rfl
  refine ⟨⟨?_, ?_, ?_⟩, ⟨by simp [withShards], ?_, ?_, ?_⟩⟩
  · simp only [withShards, List.length_replicate]
    omega
  · intro i s found e mem
    simp only [withShards, List.getElem?_replicate, Option.ite_none_right_eq_some] at found
    rw [← Option.some.inj found.2] at mem
    cases mem
  · intro s mem
    rw [List.eq_of_mem_replicate mem]
    exact List.nodup_nil
  · intro h e found
    rw [empty] at found
    cases found
  · intro h k e e' found
    rw [empty] at found
    cases found
  · intro h k e found
    rw [empty] at found
    cases found

namespace Sound

theorem view_of_entry (sound : t.Sound) (found : t.entry? h = some e) :
    ∃ state, t.state? e.cell = some state ∧
      t.view h = some { state, partner := e.partner } := by
  obtain ⟨state, stored⟩ := sound.ties.stored found
  refine ⟨state, stored, ?_⟩
  have stored : t.state? e.cell = some state := stored
  rw [view, found, Option.bind_some, stored, Option.map_some]

theorem isSome_view (sound : t.Sound) (h : Handle) : (t.view h).isSome = t.contains h := by
  rw [contains]
  cases found : t.entry? h with
  | none => rw [view, found]; rfl
  | some e =>
    obtain ⟨state, -, seen⟩ := sound.view_of_entry found
    rw [seen]
    rfl

/-- The handles that share the cell of `h` are seen together with it. -/
theorem together_iff (sound : t.Sound) {e' : ShardEntry} (found : t.entry? h = some e)
    (found' : t.entry? k = some e') : t.view.Together h k ↔ e'.cell = e.cell := by
  obtain ⟨state, -, seen⟩ := sound.view_of_entry found
  rw [sound.ties.cell_eq_iff found found', View.Together, View.partner, seen]
  rfl

/-- A new entry has a cell of its own. -/
theorem insert (sound : t.Sound) (untracked : t.contains h = false) (state : σ) :
    ∃ t', t.insert h state = .ok t' ∧ t'.Sound ∧
      t'.view = Function.update t.view h (some { state }) := by
  have none : t.entry? h = none := by simpa [contains] using untracked
  let grown : ShardedRegistry σ :=
    { t with cells := (t.fresh, state) :: t.cells, fresh := t.fresh + 1 }
  have layout : grown.Layout := ⟨sound.layout.inhabited, sound.layout.placed, sound.layout.keys⟩
  let t' := grown.onShard h (·.put h { cell := t.fresh })
  have entries : t'.entry? = Function.update t.entry? h (some { cell := t.fresh }) := by
    funext k
    rw [Function.update_apply]
    exact layout.entry?_put h k _
  have sound' : t'.Sound := by
    refine ⟨layout.put h _, ?_⟩
    rw [entries]
    exact sound.ties.insert none state
  refine ⟨t', by rw [ShardedRegistry.insert, untracked]; rfl, sound', funext fun k => ?_⟩
  rw [view, entries]
  by_cases own : k = h
  · subst own
    rw [Function.update_self, Function.update_self, Option.bind_some]
    show (List.lookup t.fresh ((t.fresh, state) :: t.cells)).map _ = _
    rw [List.lookup_cons_self]
    rfl
  · rw [Function.update_of_ne own, Function.update_of_ne own, view]
    cases found : t.entry? k with
    | none => rfl
    | some e =>
      have differs : (e.cell == t.fresh) = false := by
        simpa using Nat.ne_of_lt (sound.ties.cell_lt found)
      show (List.lookup e.cell ((t.fresh, state) :: t.cells)).map _ = _
      rw [List.lookup_cons, differs]
      rfl

/-- Linked entries, in one shard or in two, have the same cell. -/
theorem link (sound : t.Sound) (found : t.entry? h = some e) (single : e.partner = none)
    (new : t.contains partner = false) : ∃ t', t.link h partner = .ok t' ∧ t'.Sound ∧
      ∀ state, t.state? e.cell = some state → t'.view =
        Function.update (Function.update t.view h (some { state, partner := some partner }))
          partner (some { state, partner := some h }) := by
  have none : t.entry? partner = none := by simpa [contains] using new
  let t₁ := t.onShard h (·.put h { e with partner := some partner })
  let t₂ := t₁.onShard partner (·.put partner { cell := e.cell, partner := some h })
  have layout₁ : t₁.Layout := sound.layout.put h _
  have entries : t₂.entry? = Function.update (Function.update t.entry? h
      (some { e with partner := some partner })) partner
      (some { cell := e.cell, partner := some h }) := by
    funext k
    rw [layout₁.entry?_put, sound.layout.entry?_put, Function.update_apply, Function.update_apply]
  have sound₂ : t₂.Sound := by
    refine ⟨layout₁.put partner _, ?_⟩
    rw [entries]
    exact sound.ties.link found single none
  refine ⟨t₂, ?_, sound₂, fun state stored => funext fun k => ?_⟩
  · simp only [ShardedRegistry.link, new, found, single, Bool.false_eq_true, if_false,
      Option.isSome_none]
    rfl
  · rw [view, entries]
    simp only [Function.update_apply]
    have cell : t₂.state? e.cell = some state := stored
    split
    · simp [cell]
    · split
      · simp [cell]
      · rfl

theorem update (sound : t.Sound) (h : Handle) (f : σ → σ) :
    (t.update h f).Sound ∧ (t.update h f).view = t.view.update h f := by
  unfold ShardedRegistry.update
  split
  · rename_i untracked
    rw [View.update_of_unseen (view_of_untracked untracked)]
    exact ⟨sound, rfl⟩
  · rename_i e found
    let changed : ShardedRegistry σ :=
      { t with cells := t.cells.map fun c => if c.1 = e.cell then (c.1, f c.2) else c }
    have layout : changed.Layout := ⟨sound.layout.inhabited, sound.layout.placed, sound.layout.keys⟩
    refine ⟨⟨layout, sound.ties.update e.cell f⟩, funext fun k => ?_⟩
    show changed.view k = _
    have entries : changed.entry? k = t.entry? k := rfl
    have states (n : Nat) : changed.state? n =
        if n = e.cell then (t.state? n).map f else t.state? n := lookup_map_at t.cells e.cell n f
    rw [view, entries, View.update]
    cases found' : t.entry? k with
    | none =>
      rw [view_of_untracked found']
      split <;> rfl
    | some e' =>
      obtain ⟨state, stored, seen⟩ := sound.view_of_entry found'
      rw [Option.bind_some, states, seen, stored]
      by_cases same : e'.cell = e.cell
      · rw [if_pos same, if_pos ((sound.together_iff found found').2 same)]
        rfl
      · rw [if_neg same, if_neg (mt (sound.together_iff found found').1 same)]
        rfl

/-- The entries of `h` and of its peer are gone, wherever they were. -/
theorem entry?_erased (sound : t.Sound) (h : Handle) (beside : Option Handle) :
    let t₁ := match beside with
      | none => t
      | some partner => t.onShard partner (·.erase partner)
    (t₁.onShard h (·.erase h)).Layout ∧ ∀ k, entry? (t₁.onShard h (·.erase h)) k =
      if k = h ∨ beside = some k then none else t.entry? k := by
  cases beside with
  | none =>
    refine ⟨sound.layout.erase h, fun k => ?_⟩
    rw [sound.layout.entry?_erase]
    simp
  | some partner =>
    have layout := sound.layout.erase partner
    refine ⟨layout.erase h, fun k => ?_⟩
    rw [layout.entry?_erase, sound.layout.entry?_erase]
    by_cases own : k = h
    · simp [own]
    · simp [own, eq_comm]

theorem remove (sound : t.Sound) (h : Handle) :
    (t.remove h).Sound ∧ (t.remove h).view = t.view.remove h := by
  unfold ShardedRegistry.remove
  split
  · rename_i untracked
    rw [View.remove_of_unseen (view_of_untracked untracked)]
    exact ⟨sound, rfl⟩
  · rename_i e found
    obtain ⟨layout, left⟩ := sound.entry?_erased h e.partner
    set erased := (match e.partner with
      | none => t
      | some partner => t.onShard partner (·.erase partner)).onShard h (·.erase h) with erased_eq
    have cells : erased.cells = t.cells := by
      rw [erased_eq]
      cases e.partner <;> rfl
    have fresh : erased.fresh = t.fresh := by
      rw [erased_eq]
      cases e.partner <;> rfl
    let gone : ShardedRegistry σ :=
      { erased with cells := erased.cells.filter fun c => c.1 ≠ e.cell }
    have layout' : gone.Layout := ⟨layout.inhabited, layout.placed, layout.keys⟩
    have ties : Ties gone.entry? gone.cells gone.fresh := by
      have := sound.ties.remove found left
      rwa [← cells, ← fresh] at this
    have sound' : gone.Sound := ⟨layout', ties⟩
    refine ⟨sound', funext fun k => ?_⟩
    show gone.view k = _
    rw [View.remove]
    cases found' : t.entry? k with
    | none =>
      have unseen : gone.entry? k = none := by
        rw [show gone.entry? k = _ from left k, found', ite_self]
      rw [view_of_untracked unseen, view_of_untracked found', ite_self]
    | some e' =>
      by_cases together : t.view.Together h k
      · have shared := (sound.ties.cell_eq_iff found found').1
          ((sound.together_iff found found').1 together)
        have unseen : gone.entry? k = none := by
          rw [show gone.entry? k = _ from left k, if_pos shared]
        rw [if_pos together, view_of_untracked unseen]
      · have apart := mt (sound.together_iff found found').2 together
        have kept : gone.entry? k = some e' := by
          rw [show gone.entry? k = _ from left k,
            if_neg (mt (sound.ties.cell_eq_iff found found').2 apart), found']
        obtain ⟨state, stored, seen⟩ := sound.view_of_entry found'
        have stored' : gone.state? e'.cell = some state := by
          show (erased.cells.filter fun c => c.1 ≠ e.cell).lookup e'.cell = _
          rw [lookup_filter_fst erased.cells (fun n => decide (n ≠ e.cell)),
            if_pos (by simpa using apart), cells]
          exact stored
        rw [if_neg together, seen, view, kept, Option.bind_some, stored', Option.map_some]

theorem map_view_insert (sound : t.Sound) (h : Handle) (state : σ) :
    (t.insert h state).map view = t.view.insert h state := by
  rw [View.insert, sound.isSome_view]
  cases tracked : t.contains h with
  | true =>
    rw [ShardedRegistry.insert, tracked]
    rfl
  | false =>
    obtain ⟨t', eq, -, shown⟩ := sound.insert tracked state
    rw [eq, ← shown]
    rfl

theorem map_view_link (sound : t.Sound) (h partner : Handle) :
    (t.link h partner).map view = t.view.link h partner := by
  rw [View.link, sound.isSome_view]
  cases tracked : t.contains partner with
  | true =>
    rw [ShardedRegistry.link, tracked]
    rfl
  | false =>
    rw [if_neg Bool.false_ne_true]
    cases found : t.entry? h with
    | none =>
      rw [view_of_untracked found, ShardedRegistry.link, tracked, found]
      rfl
    | some e =>
      obtain ⟨state, stored, seen⟩ := sound.view_of_entry found
      rw [seen]
      cases beside : e.partner with
      | some other =>
        simp only [ShardedRegistry.link, tracked, found, beside, Option.isSome_some]
        rfl
      | none =>
        obtain ⟨t', eq, -, shown⟩ := sound.link found beside tracked
        rw [eq]
        exact congrArg Except.ok (shown state stored)

theorem of_insert (sound : t.Sound) {state : σ} (inserted : t.insert h state = .ok t') :
    t'.Sound := by
  cases tracked : t.contains h with
  | true =>
    rw [ShardedRegistry.insert, tracked] at inserted
    cases inserted
  | false =>
    obtain ⟨t₁, eq, sound', -⟩ := sound.insert tracked state
    cases eq.symm.trans inserted
    exact sound'

theorem of_link (sound : t.Sound) (linked : t.link h partner = .ok t') : t'.Sound := by
  have whole := linked
  unfold ShardedRegistry.link at linked
  split at linked
  · cases linked
  rename_i new
  split at linked
  · cases linked
  rename_i e found
  split at linked
  · cases linked
  rename_i single
  obtain ⟨t₁, eq, sound', -⟩ := sound.link found (by simpa using single) (by simpa using new)
  cases eq.symm.trans whole
  exact sound'

end Sound

theorem Sound.lookup_eq (sound : t.Sound) (h : Handle) : t.lookup h = (t.view h).map Seen.state := by
  rw [lookup]
  cases found : t.entry? h with
  | none => rw [view_of_untracked found]; rfl
  | some e =>
    obtain ⟨state, stored, seen⟩ := sound.view_of_entry found
    rw [seen]
    exact stored

/-- **Shards show what a table should.** -/
theorem implements : (store σ).Implements Sound view where
  insert sound h state := sound.map_view_insert h state
  link sound h partner := sound.map_view_link h partner
  change {t} sound ρ h f := by
    simp only [store, change_eq, Prod.map_apply, (sound.update h _).2, sound.lookup_eq, View.change,
      Option.map_map]
    rfl
  take {t} sound h := by
    simp only [store, take_eq, Prod.map_apply, (sound.remove h).2, sound.lookup_eq, View.take]
    rfl
  lookup sound h := sound.lookup_eq h
  peer {t} sound h := by
    show t.peer h = _
    rw [peer, View.partner]
    cases found : t.entry? h with
    | none => rw [view_of_untracked found]; rfl
    | some e =>
      obtain ⟨state, -, seen⟩ := sound.view_of_entry found
      rw [seen]
      rfl
  contains sound h := (sound.isSome_view h).symm
  sound_insert sound _ _ := sound.of_insert
  sound_link sound _ _ := sound.of_link
  sound_change {t} sound ρ h f := by
    simp only [store, change_eq]
    exact (sound.update h _).1
  sound_take {t} sound h := by
    simp only [store, take_eq]
    exact (sound.remove h).1

/-! ## No call tells shards from cells -/

theorem view_withShards (hash : Handle → Nat) (count : Nat) :
    (withShards hash count : ShardedRegistry σ).view = (Registry.empty : Registry σ).view := by
  funext h
  refine view_of_untracked ?_
  rw [entry?_eq, shard, withShards, List.getElem?_replicate]
  split <;> rfl

/-- **A table with shards is a table without.** However many shards there are and wherever the hash
puts handles, every sequence of calls is answered as a registry of cells answers it. After each call the
handles listed are those that the registry tracks, each once; their number is the size, and there is
none exactly when the table says it is empty. So neither the number of shards nor the hash is seen in any
answer. -/
theorem answers_as_cells {ρ : Type} (hash : Handle → Nat) (count : Nat)
    (calls : List (TableCall σ ρ)) :
    let run := (store σ).serveAll (withShards hash count) calls
    let reference := (Registry.store σ).serveAll Registry.empty calls
    run.1 = reference.1 ∧
      run.2.handles.Nodup ∧ (∀ h, h ∈ run.2.handles ↔ reference.2.contains h = true) ∧
      run.2.size = run.2.handles.length ∧ (run.2.isEmpty = true ↔ run.2.handles = []) ∧
      ∀ (hash' : Handle → Nat) (count' : Nat),
        ((store σ).serveAll (withShards hash' count') calls).1 = run.1 := by
  intro run reference
  have alike (hash : Handle → Nat) (count : Nat) :=
    implements.serveAll_eq Registry.implements (sound_withShards (σ := σ) hash count)
      Registry.Sound.empty (view_withShards hash count) calls
  obtain ⟨same, shown⟩ := alike hash count
  have sound : run.2.Sound := (implements.serveAll_map (sound_withShards hash count) calls).2
  refine ⟨same, sound.layout.nodup_handles, fun h => ?_, size_eq_length _, isEmpty_iff _, ?_⟩
  · rw [sound.layout.mem_handles_iff, ← sound.isSome_view, Registry.contains_eq_view]
    exact iff_of_eq (congrArg (fun v : View σ => (v h).isSome = true) shown)
  · intro hash' count'
    exact (alike hash' count').1.trans same.symm

end ShardedRegistry

end TransportConverter
