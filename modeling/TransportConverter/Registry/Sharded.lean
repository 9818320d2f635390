import TransportConverter.Registry
/-!
# A registry spread over shards

The same store of states under handles, spread over a number of shards so that work on one handle
leaves the shards of the others alone. A handle's hash picks its shard. The two handles of a pair
may fall into different shards, so an entry does not hold the state but the number of the cell that
does, and paired entries hold the same number. This is `StateTable`, with a shared cell for each
state in place of its lock.
-/
namespace TransportConverter

structure ShardEntry where
  cell : Nat
  partner : Option Handle := none
  deriving DecidableEq, Repr

abbrev Shard := List (Handle × ShardEntry)

namespace Shard

def find (s : Shard) (h : Handle) : Option ShardEntry := s.lookup h

def put (s : Shard) (h : Handle) (entry : ShardEntry) : Shard :=
  (h, entry) :: s.filter fun e => e.1 ≠ h

def erase (s : Shard) (h : Handle) : Shard := s.filter fun e => e.1 ≠ h

end Shard

structure ShardedRegistry (σ : Type) where
  hash : Handle → Nat
  shards : List Shard
  /-- States by the number of their cell. -/
  cells : List (Nat × σ) := []
  /-- A number that no cell has yet. -/
  fresh : Nat := 0

namespace ShardedRegistry

variable {σ : Type}

/-- How many shards there are unless another number is asked for (`DEFAULT_SHARDS`). -/
def defaultShards : Nat := 64

/-- An empty registry (`with_shards`); no shards at all count as one. -/
def withShards (hash : Handle → Nat) (count : Nat) : ShardedRegistry σ where
  hash
  shards := List.replicate (max count 1) []

/-- The shard of a handle (`shard_index`). -/
def shardIndex (t : ShardedRegistry σ) (h : Handle) : Nat := t.hash h % t.shards.length

def shard (t : ShardedRegistry σ) (h : Handle) : Shard := (t.shards[t.shardIndex h]?).getD []

def entry? (t : ShardedRegistry σ) (h : Handle) : Option ShardEntry := (t.shard h).find h

/-- Changes the shard of a handle. -/
def onShard (t : ShardedRegistry σ) (h : Handle) (f : Shard → Shard) : ShardedRegistry σ :=
  { t with shards := t.shards.modify (t.shardIndex h) f }

def state? (t : ShardedRegistry σ) (cell : Nat) : Option σ := t.cells.lookup cell

def contains (t : ShardedRegistry σ) (h : Handle) : Bool := (t.entry? h).isSome

def lookup (t : ShardedRegistry σ) (h : Handle) : Option σ :=
  (t.entry? h).bind fun e => t.state? e.cell

def peer (t : ShardedRegistry σ) (h : Handle) : Option Handle :=
  (t.entry? h).bind ShardEntry.partner

def handles (t : ShardedRegistry σ) : List Handle := t.shards.flatMap fun s => s.map Prod.fst

def size (t : ShardedRegistry σ) : Nat := t.shards.foldl (fun n shard => n + shard.length) 0

def isEmpty (t : ShardedRegistry σ) : Bool := t.shards.all List.isEmpty

/-- Starts tracking a handle, in a new cell (`insert`). -/
def insert (t : ShardedRegistry σ) (h : Handle) (state : σ) :
    Except RegistryError (ShardedRegistry σ) :=
  if t.contains h then .error (.alreadyTracked h)
  else
    let grown := { t with cells := (t.fresh, state) :: t.cells, fresh := t.fresh + 1 }
    .ok (grown.onShard h (·.put h { cell := t.fresh }))

/-- Puts a second entry for the cell of `h` into the shard of `partner` (`link`). -/
def link (t : ShardedRegistry σ) (h partner : Handle) : Except RegistryError (ShardedRegistry σ) :=
  if t.contains partner then .error (.alreadyTracked partner)
  else match t.entry? h with
    | none => .error (.notTracked h)
    | some e =>
      if e.partner.isSome then .error (.alreadyTracked h)
      else
        let t := t.onShard h (·.put h { e with partner := some partner })
        .ok (t.onShard partner (·.put partner { cell := e.cell, partner := some h }))

/-- Changes the state that `h` leads to, if it is tracked. -/
def update (t : ShardedRegistry σ) (h : Handle) (f : σ → σ) : ShardedRegistry σ :=
  match t.entry? h with
  | none => t
  | some e =>
    { t with cells := t.cells.map fun c => if c.1 = e.cell then (c.1, f c.2) else c }

/-- Forgets a handle, its peer and their state. -/
def remove (t : ShardedRegistry σ) (h : Handle) : ShardedRegistry σ :=
  match t.entry? h with
  | none => t
  | some e =>
    let t := match e.partner with
      | none => t
      | some partner => t.onShard partner (·.erase partner)
    let t := t.onShard h (·.erase h)
    { t with cells := t.cells.filter fun c => c.1 ≠ e.cell }

/-- Changes the state that `h` leads to, and gives back what the change gives (`update`). -/
def change {ρ : Type} (t : ShardedRegistry σ) (h : Handle) (f : σ → ρ × σ) :
    Option ρ × ShardedRegistry σ :=
  match t.entry? h with
  | none => (none, t)
  | some e =>
    ((t.state? e.cell).map fun state => (f state).1, t.update h fun state => (f state).2)

/-- Forgets a handle and its peer, and gives back the state of the entry that was removed (`remove`). -/
def take (t : ShardedRegistry σ) (h : Handle) : Option σ × ShardedRegistry σ :=
  match t.entry? h with
  | none => (none, t)
  | some e => (t.state? e.cell, t.remove h)

theorem change_eq {ρ : Type} (t : ShardedRegistry σ) (h : Handle) (f : σ → ρ × σ) :
    t.change h f =
      ((t.lookup h).map fun state => (f state).1, t.update h fun state => (f state).2) := by
  cases found : t.entry? h with
  | none => simp [change, lookup, update, found]
  | some e => simp [change, lookup, found]

theorem take_eq (t : ShardedRegistry σ) (h : Handle) : t.take h = (t.lookup h, t.remove h) := by
  cases found : t.entry? h with
  | none => simp [take, lookup, remove, found]
  | some e => simp [take, lookup, found]

end ShardedRegistry

end TransportConverter
