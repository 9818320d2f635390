import TransportConverter.Handle
/-!
# Registry of tracked handles

What is known about each open socket, under its handle. A state can be registered under two handles
at once: both then lead to the same state, and removing either removes both.

A registry is a list of cells. A cell holds one state and the one or two handles that lead to it; a
handle leads to the first cell that names it, so every operation is an operation on that cell. The
operations are those of `StateTable`, without its shards (`ShardedRegistry`).
-/
namespace TransportConverter

inductive RegistryError where
  | alreadyTracked (handle : Handle)
  | notTracked (handle : Handle)
  deriving DecidableEq, Repr

def RegistryError.message : RegistryError → String
  | .alreadyTracked handle => s!"Handle {handle.text} is already tracked"
  | .notTracked handle => s!"Handle {handle.text} is not tracked"

/-- A word for the kind of error. -/
def RegistryError.kind : RegistryError → String
  | .alreadyTracked _ => "AlreadyTracked"
  | .notTracked _ => "NotTracked"

/-- A state and the handles it is registered under. -/
structure Cell (σ : Type) where
  state : σ
  owner : Handle
  partner : Option Handle := none
  deriving DecidableEq, Repr

namespace Cell

variable {σ : Type}

def names (c : Cell σ) (h : Handle) : Bool := c.owner == h || c.partner == some h

def handles (c : Cell σ) : List Handle := c.owner :: c.partner.toList

/-- The handle registered beside `h`. -/
def otherThan (c : Cell σ) (h : Handle) : Option Handle :=
  if c.owner = h then c.partner else some c.owner

end Cell

structure Registry (σ : Type) where
  cells : List (Cell σ) := []
  deriving DecidableEq, Repr

namespace Registry

variable {σ : Type}

def empty : Registry σ := {}

def cell? (r : Registry σ) (h : Handle) : Option (Cell σ) := r.cells.find? (·.names h)

/-- A handle is tracked (`contains`). -/
def contains (r : Registry σ) (h : Handle) : Bool := (r.cell? h).isSome

/-- The state that `h` leads to (`lookup`). -/
def lookup (r : Registry σ) (h : Handle) : Option σ := (r.cell? h).map Cell.state

/-- The other handle of a pair (`peer`). -/
def peer (r : Registry σ) (h : Handle) : Option Handle := (r.cell? h).bind (·.otherThan h)

/-- All tracked handles (`handles`). -/
def handles (r : Registry σ) : List Handle := r.cells.flatMap Cell.handles

/-- How many handles are tracked (`len`). -/
def size (r : Registry σ) : Nat := r.handles.length

/-- No handle is tracked (`is_empty`). -/
def isEmpty (r : Registry σ) : Bool := r.cells.isEmpty

/-- Starts tracking a handle (`insert`). -/
def insert (r : Registry σ) (h : Handle) (state : σ) : Except RegistryError (Registry σ) :=
  if r.contains h then .error (.alreadyTracked h)
  else .ok { cells := { state, owner := h } :: r.cells }

/-- Registers the state of `h` under `partner` as well (`link`). -/
def link (r : Registry σ) (h partner : Handle) : Except RegistryError (Registry σ) :=
  if r.contains partner then .error (.alreadyTracked partner)
  else match r.cell? h with
    | none => .error (.notTracked h)
    | some c =>
      if c.partner.isSome then .error (.alreadyTracked h)
      else
        let linked (c : Cell σ) := if c.names h then { c with partner := some partner } else c
        .ok { cells := r.cells.map linked }

/-- What `update` makes of the table: changes the state that `h` leads to; a handle that is not tracked
changes nothing. -/
def update (r : Registry σ) (h : Handle) (f : σ → σ) : Registry σ where
  cells := r.cells.map fun c => if c.names h then { c with state := f c.state } else c

/-- What `remove` makes of the table: stops tracking a handle and its peer. -/
def remove (r : Registry σ) (h : Handle) : Registry σ where
  cells := r.cells.filter fun c => !c.names h

/-- Changes the state that `h` leads to, and gives back what the change gives (`update`). -/
def change {ρ : Type} (r : Registry σ) (h : Handle) (f : σ → ρ × σ) : Option ρ × Registry σ :=
  ((r.lookup h).map fun state => (f state).1, r.update h fun state => (f state).2)

/-- Stops tracking a handle and its peer, and gives back their state (`remove`). -/
def take (r : Registry σ) (h : Handle) : Option σ × Registry σ := (r.lookup h, r.remove h)

/-! ## What is seen after a change -/

@[simp] theorem lookup_empty (h : Handle) : (empty : Registry σ).lookup h = none := rfl

theorem cell?_update (r : Registry σ) (h k : Handle) (f : σ → σ) :
    (r.update h f).cell? k =
      (r.cell? k).map fun c => if c.names h then { c with state := f c.state } else c := by
  simp only [cell?, update, List.find?_map]
  congr 2
  funext c
  simp only [Function.comp_apply]
  split <;> simp [Cell.names]

@[simp] theorem lookup_update_self (r : Registry σ) (h : Handle) (f : σ → σ) :
    (r.update h f).lookup h = (r.lookup h).map f := by
  simp only [lookup, cell?_update, Option.map_map]
  cases found : r.cell? h with
  | none => rfl
  | some c =>
    have : c.names h = true := by simpa using List.find?_some found
    simp [this]

@[simp] theorem contains_update (r : Registry σ) (h k : Handle) (f : σ → σ) :
    (r.update h f).contains k = r.contains k := by
  simp [contains, cell?_update]

@[simp] theorem lookup_remove_self (r : Registry σ) (h : Handle) :
    (r.remove h).lookup h = none := by
  simp only [lookup, cell?, remove, Option.map_eq_none_iff, List.find?_eq_none, List.mem_filter]
  intro c found
  simpa using found.2

theorem lookup_insert_self {r s : Registry σ} {h : Handle} {state : σ}
    (inserted : r.insert h state = .ok s) : s.lookup h = some state := by
  unfold insert at inserted
  split at inserted
  · cases inserted
  · cases inserted
    simp [lookup, cell?, Cell.names]

end Registry

end TransportConverter
