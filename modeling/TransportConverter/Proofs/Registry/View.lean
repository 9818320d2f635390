import Mathlib.Logic.Function.Basic
import TransportConverter.Registry
/-!
# What a table shows

However a table keeps its states, a caller sees no more of it than this: which handles are tracked,
the state that each leads to, and the handle beside it (`View`). The operations of a table are stated
on views here, and a table is correct when looking at it turns its operations into those
(`Store.Implements`). Two correct tables that show the same give the same answers to every sequence of
calls (`Store.Implements.serveAll_eq`), whatever they are made of.
-/
namespace TransportConverter

/-- What a tracked handle leads to. -/
structure Seen (σ : Type) where
  state : σ
  partner : Option Handle := none
  deriving DecidableEq, Repr

/-- What each handle leads to, if it is tracked. -/
abbrev View (σ : Type) : Type := Handle → Option (Seen σ)

namespace View

variable {σ : Type}

def partner (v : View σ) (h : Handle) : Option Handle := (v h).bind Seen.partner

/-- The handles that share a state with `h`. -/
def Together (v : View σ) (h k : Handle) : Prop := k = h ∨ v.partner h = some k

instance (v : View σ) (h k : Handle) : Decidable (v.Together h k) :=
  inferInstanceAs (Decidable (_ ∨ _))

def insert (v : View σ) (h : Handle) (state : σ) : Except RegistryError (View σ) :=
  if (v h).isSome then .error (.alreadyTracked h)
  else .ok (Function.update v h (some { state }))

def link (v : View σ) (h partner : Handle) : Except RegistryError (View σ) :=
  if (v partner).isSome then .error (.alreadyTracked partner)
  else match v h with
    | none => .error (.notTracked h)
    | some seen =>
      if seen.partner.isSome then .error (.alreadyTracked h)
      else .ok (Function.update (Function.update v h (some { seen with partner := some partner }))
        partner (some { seen with partner := some h }))

def update (v : View σ) (h : Handle) (f : σ → σ) : View σ := fun k =>
  if v.Together h k then (v k).map fun seen => { seen with state := f seen.state } else v k

def remove (v : View σ) (h : Handle) : View σ := fun k => if v.Together h k then none else v k

/-- A change of a state, with what it gives back. -/
def change {ρ : Type} (v : View σ) (h : Handle) (f : σ → ρ × σ) : Option ρ × View σ :=
  ((v h).map fun seen => (f seen.state).1, v.update h fun state => (f state).2)

/-- A removal, with the state that it gives back. -/
def take (v : View σ) (h : Handle) : Option σ × View σ := ((v h).map Seen.state, v.remove h)

variable {v : View σ} {h : Handle}

theorem together_iff_of_unseen (unseen : v h = none) {k : Handle} : v.Together h k ↔ k = h := by
  simp [Together, partner, unseen]

theorem update_of_unseen (unseen : v h = none) (f : σ → σ) : v.update h f = v := by
  funext k
  rw [update]
  split
  · rename_i together
    rw [(together_iff_of_unseen unseen).1 together, unseen]
    rfl
  · rfl

theorem remove_of_unseen (unseen : v h = none) : v.remove h = v := by
  funext k
  rw [remove]
  split
  · rename_i together
    rw [(together_iff_of_unseen unseen).1 together, unseen]
  · rfl

end View

/-! ## Calls -/

/-- A call of a table. A change gives something back to its caller. -/
inductive TableCall (σ ρ : Type) where
  | insert (h : Handle) (state : σ)
  | link (h partner : Handle)
  | lookup (h : Handle)
  | update (h : Handle) (f : σ → ρ × σ)
  | peer (h : Handle)
  | contains (h : Handle)
  | remove (h : Handle)

/-- What a table answers. -/
inductive TableAnswer (σ ρ : Type) where
  | entered (result : Except RegistryError Unit)
  | state (found : Option σ)
  | changed (given : Option ρ)
  | peer (other : Option Handle)
  | tracked (yes : Bool)

/-- The operations of tables of one kind. -/
structure Store (σ τ : Type) where
  insert : τ → Handle → σ → Except RegistryError τ
  link : τ → Handle → Handle → Except RegistryError τ
  change : {ρ : Type} → τ → Handle → (σ → ρ × σ) → Option ρ × τ
  take : τ → Handle → Option σ × τ
  lookup : τ → Handle → Option σ
  peer : τ → Handle → Option Handle
  contains : τ → Handle → Bool

namespace Store

variable {σ τ ρ : Type}

/-- A change that can be refused. -/
def enter (t : τ) : Except RegistryError τ → TableAnswer σ ρ × τ
  | .ok changed => (.entered (.ok ()), changed)
  | .error error => (.entered (.error error), t)

/-- The answer to a call, and the table afterwards. -/
def serve (s : Store σ τ) (t : τ) : TableCall σ ρ → TableAnswer σ ρ × τ
  | .insert h state => enter t (s.insert t h state)
  | .link h partner => enter t (s.link t h partner)
  | .lookup h => (.state (s.lookup t h), t)
  | .update h f => (s.change t h f).map .changed id
  | .peer h => (.peer (s.peer t h), t)
  | .contains h => (.tracked (s.contains t h), t)
  | .remove h => (s.take t h).map .state id

/-- The answers to a sequence of calls, and the table after the last of them. -/
def serveAll (s : Store σ τ) (t : τ) : List (TableCall σ ρ) → List (TableAnswer σ ρ) × τ
  | [] => ([], t)
  | call :: calls =>
    let (answer, after) := s.serve t call
    let (answers, last) := s.serveAll after calls
    (answer :: answers, last)

end Store

/-- Views themselves, as the simplest tables that there are. -/
def View.store (σ : Type) : Store σ (View σ) where
  insert := View.insert
  link := View.link
  change := View.change
  take := View.take
  lookup v h := (v h).map Seen.state
  peer := View.partner
  contains v h := (v h).isSome

/-! ## Correct tables -/

namespace Store

variable {σ τ τ' ρ : Type}

/-- Operations that do to what a table shows what is done to views, and keep tables sound. -/
structure Implements (s : Store σ τ) (Sound : τ → Prop) (view : τ → View σ) : Prop where
  insert : ∀ {t}, Sound t → ∀ h state, (s.insert t h state).map view = (view t).insert h state
  link : ∀ {t}, Sound t → ∀ h partner, (s.link t h partner).map view = (view t).link h partner
  change : ∀ {t}, Sound t → ∀ {ρ : Type} h (f : σ → ρ × σ),
    (s.change t h f).map id view = (view t).change h f
  take : ∀ {t}, Sound t → ∀ h, (s.take t h).map id view = (view t).take h
  lookup : ∀ {t}, Sound t → ∀ h, s.lookup t h = (view t h).map Seen.state
  peer : ∀ {t}, Sound t → ∀ h, s.peer t h = (view t).partner h
  contains : ∀ {t}, Sound t → ∀ h, s.contains t h = (view t h).isSome
  sound_insert : ∀ {t t'}, Sound t → ∀ h state, s.insert t h state = .ok t' → Sound t'
  sound_link : ∀ {t t'}, Sound t → ∀ h partner, s.link t h partner = .ok t' → Sound t'
  sound_change : ∀ {t}, Sound t → ∀ {ρ : Type} h (f : σ → ρ × σ), Sound (s.change t h f).2
  sound_take : ∀ {t}, Sound t → ∀ h, Sound (s.take t h).2

namespace Implements

variable {s : Store σ τ} {Sound : τ → Prop} {view : τ → View σ} {t : τ}

theorem enter_eq {result : Except RegistryError τ} {v' : Except RegistryError (View σ)}
    (sound : Sound t) (keeps : ∀ t', result = .ok t' → Sound t') (same : result.map view = v') :
    ((enter t result : TableAnswer σ ρ × τ).map id view) = enter (view t) v' ∧
      Sound (enter t result : TableAnswer σ ρ × τ).2 := by
  subst same
  cases result with
  | ok changed => exact ⟨rfl, keeps changed rfl⟩
  | error error => exact ⟨rfl, sound⟩

/-- **One call**: a correct table answers as what it shows does, and shows afterwards what that has
become. -/
theorem serve_eq (correct : s.Implements Sound view) (sound : Sound t) (call : TableCall σ ρ) :
    (s.serve t call).map id view = (View.store σ).serve (view t) call ∧
      Sound (s.serve t call).2 := by
  cases call with
  | insert h state =>
    exact enter_eq sound (fun _ => correct.sound_insert sound h state)
      (correct.insert sound h state)
  | link h partner =>
    exact enter_eq sound (fun _ => correct.sound_link sound h partner)
      (correct.link sound h partner)
  | lookup h =>
    simp only [serve, Prod.map_apply, id, correct.lookup sound]
    exact ⟨rfl, sound⟩
  | update h f =>
    refine ⟨?_, correct.sound_change sound h f⟩
    simp only [serve, View.store, ← correct.change sound, Prod.map_map]
    rfl
  | peer h =>
    simp only [serve, Prod.map_apply, id, correct.peer sound]
    exact ⟨rfl, sound⟩
  | contains h =>
    simp only [serve, Prod.map_apply, id, correct.contains sound]
    exact ⟨rfl, sound⟩
  | remove h =>
    refine ⟨?_, correct.sound_take sound h⟩
    simp only [serve, View.store, ← correct.take sound, Prod.map_map]
    rfl

/-- **All calls**: by induction, a correct table goes on answering as what it shows does. -/
theorem serveAll_map (correct : s.Implements Sound view) (sound : Sound t)
    (calls : List (TableCall σ ρ)) :
    (s.serveAll t calls).map id view = (View.store σ).serveAll (view t) calls ∧
      Sound (s.serveAll t calls).2 := by
  induction calls generalizing t with
  | nil => exact ⟨rfl, sound⟩
  | cons call calls ih =>
    obtain ⟨same, kept⟩ := correct.serve_eq sound call
    obtain ⟨others, last⟩ := ih kept
    refine ⟨?_, last⟩
    simp only [serveAll, ← same, Prod.map_apply, id, Prod.map_fst, Prod.map_snd, ← others]

/-- Two correct tables that show the same answer alike, and go on showing the same. -/
theorem serveAll_eq {s' : Store σ τ'} {Sound' : τ' → Prop} {view' : τ' → View σ} {t' : τ'}
    (correct : s.Implements Sound view) (correct' : s'.Implements Sound' view') (sound : Sound t)
    (sound' : Sound' t') (same : view t = view' t') (calls : List (TableCall σ ρ)) :
    (s.serveAll t calls).1 = (s'.serveAll t' calls).1 ∧
      view (s.serveAll t calls).2 = view' (s'.serveAll t' calls).2 := by
  have left := (correct.serveAll_map sound calls).1
  have right := (correct'.serveAll_map sound' calls).1
  rw [same, ← right] at left
  exact ⟨congrArg Prod.fst left, congrArg Prod.snd left⟩

end Implements

end Store

end TransportConverter
