import TransportConverter.Proofs.Registry.Shards
import TransportConverter.Storage.Tree
/-!
# What is written to a file is read from it

A path that takes a file (`FileTree.TakesFile`) names a place in a directory at which there is nothing yet, or
a file. Writing there succeeds, and then the path leads to what was written (`FileTree.TakesFile.write`): on
the way to the file nothing has changed (`FileTree.Keeps`).
-/
namespace TransportConverter

namespace FileTree

variable {t t' : FileTree} {p : Path} {place inside : List Bytes} {name : Bytes} {node : FileNode}

/-! ## Changing one place -/

theorem node?_set (below : place ≠ []) (other : List Bytes) :
    (t.set place node).node? other = if other = place then some node else t.node? other := by
  cases other with
  | nil => rw [if_neg (Ne.symm below), node?, node?]
  | cons first names =>
    have others := lookup_filter_fst t.nodes (fun l => decide (l ≠ place)) (first :: names)
    change ((t.nodes.filter fun e => decide (e.1 ≠ place)) ++ [(place, node)]).lookup (first :: names) = _
    rw [List.lookup_append, others]
    by_cases same : first :: names = place
    · simp [same]
    · have differs : ((first :: names) == place) = false := by simpa using same
      simp [same, List.lookup_cons, differs, node?]

/-- Directories are still there, and where there was something there still is. -/
structure Keeps (t t' : FileTree) : Prop where
  working : t'.working = t.working
  directories : ∀ place, t.node? place = some .directory → t'.node? place = some .directory
  something : ∀ place, (t.node? place).isSome = true → (t'.node? place).isSome = true

theorem keeps_set (below : place ≠ []) (free : t.node? place ≠ some .directory) :
    Keeps t (t.set place node) where
  working := rfl
  directories other directory := by
    have apart : other ≠ place := by
      rintro rfl
      exact free directory
    rw [node?_set below, if_neg apart, directory]
  something other there := by
    rw [node?_set below]
    split
    · rfl
    · exact there

/-! ## Following a path -/

theorem bind_eq_ok {α β : Type} {x : Except IoError α} {f : α → Except IoError β} {b : β} :
    x >>= f = .ok b ↔ ∃ a, x = .ok a ∧ f a = .ok b := by
  cases x <;> simp [bind, Except.bind]

theorem placeIn_eq_ok (found : t.placeIn place name = .ok inside) :
    t.node? place = some .directory ∧ name.length ≤ maxNameLength ∧ inside = place ++ [name] := by
  unfold placeIn at found
  split at found
  · cases found
  · rename_i directory
    split at found
    · cases found
    · rename_i short
      cases found
      exact ⟨not_not.mp directory, Nat.le_of_not_lt short, rfl⟩

theorem placeIn_of_directory (directory : t.node? place = some .directory)
    (short : name.length ≤ maxNameLength) : t.placeIn place name = .ok (place ++ [name]) := by
  rw [placeIn, if_neg (not_not.mpr directory), if_neg (Nat.not_lt_of_le short)]

theorem Keeps.placeIn (keeps : Keeps t t') (found : t.placeIn place name = .ok inside) :
    t'.placeIn place name = .ok inside := by
  obtain ⟨directory, short, rfl⟩ := placeIn_eq_ok found
  exact placeIn_of_directory (keeps.directories _ directory) short

theorem Keeps.enter {next : List Bytes} (keeps : Keeps t t') (enters : t.enter place name = .ok next) :
    t'.enter place name = .ok next := by
  obtain ⟨inside, found, entered⟩ := bind_eq_ok.mp enters
  refine bind_eq_ok.mpr ⟨inside, keeps.placeIn found, ?_⟩
  by_cases dot : name = Path.dot
  · rwa [if_pos dot] at entered ⊢
  by_cases dotDot : name = Path.dotDot
  · rwa [if_neg dot, if_pos dotDot] at entered ⊢
  rw [if_neg dot, if_neg dotDot] at entered ⊢
  split at entered
  · rename_i there
    rwa [if_pos (keeps.something inside there)]
  · cases entered

theorem Keeps.follow {names : List Bytes} (keeps : Keeps t t') (leads : t.follow p names = .ok place) :
    t'.follow p names = .ok place := by
  unfold FileTree.follow at leads ⊢
  rw [keeps.working]
  generalize (if p.isAbsolute then [] else t.working) = start at leads ⊢
  induction names generalizing start with
  | nil => exact leads
  | cons name names ih =>
    rw [List.foldlM_cons] at leads ⊢
    obtain ⟨next, entered, others⟩ := bind_eq_ok.mp leads
    exact bind_eq_ok.mpr ⟨next, keeps.enter entered, ih next others⟩

/-- The path names the place `name` in `directory`. -/
structure Names (t : FileTree) (p : Path) (directory : List Bytes) (name : Bytes) : Prop where
  sound : checkPath p = .ok ()
  last : p.names.getLast? = some name
  follow : t.follow p p.names.dropLast = .ok directory
  proper : ¬ (name = Path.dot ∨ name = Path.dotDot)
  noSlash : p.endsInSlash = false
  placeIn : t.placeIn directory name = .ok (directory ++ [name])

theorem filePlace_eq_ok (found : t.filePlace p = .ok place) :
    ∃ directory name, t.Names p directory name ∧ place = directory ++ [name] := by
  obtain ⟨⟨directory, last?⟩, last, found⟩ := bind_eq_ok.mp found
  cases last? with
  | none => cases found
  | some name =>
    obtain ⟨_, sound, last⟩ := bind_eq_ok.mp last
    cases ends : p.names.getLast? with
    | none =>
      rw [ends] at last
      cases last
    | some final =>
      rw [ends] at last
      obtain ⟨before, follow, last⟩ := bind_eq_ok.mp last
      split at last
      · obtain ⟨_, _, last⟩ := bind_eq_ok.mp last
        cases last
      · rename_i proper
        split at last
        · cases last
        · cases last
          dsimp only at found
          split at found
          · cases found
          · rename_i slash
            obtain ⟨-, -, rfl⟩ := placeIn_eq_ok found
            exact ⟨_, _, ⟨sound, ends, follow, proper, Bool.eq_false_iff.mpr slash, found⟩, rfl⟩

theorem filePlace_ne_nil (found : t.filePlace p = .ok place) : place ≠ [] := by
  obtain ⟨directory, name, -, rfl⟩ := filePlace_eq_ok found
  simp

/-- A place that a path names is where it leads as soon as there is something. -/
theorem Keeps.resolve (keeps : Keeps t t') (found : t.filePlace p = .ok place)
    (there : (t'.node? place).isSome = true) : t'.resolve p = .ok place := by
  obtain ⟨directory, name, names, rfl⟩ := filePlace_eq_ok found
  have whole : p.names = p.names.dropLast ++ [name] := (List.dropLast_append_getLast? name names.last).symm
  have entered : t'.enter directory name = .ok (directory ++ [name]) := by
    rw [FileTree.enter, keeps.placeIn names.placeIn]
    obtain ⟨dot, dotDot⟩ := not_or.mp names.proper
    change (if name = Path.dot then _ else _) = _
    rw [if_neg dot, if_neg dotDot, if_pos there]
  have follow : t'.follow p p.names = .ok (directory ++ [name]) := by
    have before := keeps.follow names.follow
    rw [whole, FileTree.follow, List.foldlM_append]
    refine bind_eq_ok.mpr ⟨directory, before, ?_⟩
    rw [List.foldlM_cons]
    exact bind_eq_ok.mpr ⟨_, entered, rfl⟩
  refine bind_eq_ok.mpr ⟨(), names.sound, bind_eq_ok.mpr ⟨_, follow, ?_⟩⟩
  rw [names.noSlash, if_neg (by simp)]

/-! ## Reading and writing -/

/-- There is a file at the path, or room for one. -/
def TakesFile (t : FileTree) (p : Path) : Prop :=
  ∃ place, t.filePlace p = .ok place ∧ (t.node? place = none ∨ ∃ old, t.node? place = some (.file old))

/-- The path leads to a file with this content. -/
def Holds (t : FileTree) (p : Path) (content : Bytes) : Prop :=
  ∃ place, t.resolve p = .ok place ∧ t.node? place = some (.file content)

variable {content : Bytes}

theorem Holds.read (holds : t.Holds p content) : t.read p = .ok content := by
  obtain ⟨place, resolved, file⟩ := holds
  refine bind_eq_ok.mpr ⟨place, resolved, ?_⟩
  rw [file]

/-- **What is written to a file is held by it.** -/
theorem TakesFile.write (takes : t.TakesFile p) (content : Bytes) :
    ∃ t', t.write p content = .ok t' ∧ t'.Holds p content := by
  obtain ⟨place, found, room⟩ := takes
  have below := filePlace_ne_nil found
  have free : t.node? place ≠ some .directory := by
    rcases room with nothing | ⟨old, file⟩
    · simp [nothing]
    · simp [file]
  have file : (t.set place (.file content)).node? place = some (.file content) := by
    rw [node?_set below, if_pos rfl]
  refine ⟨t.set place (.file content), bind_eq_ok.mpr ⟨place, found, ?_⟩, place, ?_, file⟩
  · rcases room with nothing | ⟨old, file⟩
    · rw [nothing]
    · rw [file]
  · exact (keeps_set below free).resolve found (by rw [file, Option.isSome_some])

theorem Keeps.refl (t : FileTree) : Keeps t t := ⟨rfl, fun _ => id, fun _ => id⟩

/-- A path takes a file exactly if it leads to one when something has been written to it. -/
theorem takesFile_iff (written : Bytes) :
    t.TakesFile p ↔ ∃ t' content, t.write p written = .ok t' ∧ t'.Holds p content := by
  constructor
  · intro takes
    obtain ⟨t', writes, holds⟩ := takes.write written
    exact ⟨t', written, writes, holds⟩
  · rintro ⟨t', content, writes, holds⟩
    obtain ⟨place, found, changed⟩ := bind_eq_ok.mp writes
    refine ⟨place, found, ?_⟩
    cases node : t.node? place with
    | none => exact .inl rfl
    | some node' =>
      cases node' with
      | file old => exact .inr ⟨old, rfl⟩
      | directory =>
        rw [node] at changed
        cases changed
      | device refusal =>
        -- A device is left as it is, so that the path would lead to it.
        have same : t' = t := by
          rw [node] at changed
          cases refusal with
          | none => cases changed; rfl
          | some error =>
            dsimp only at changed
            split at changed
            · cases changed; rfl
            · cases changed
        subst same
        obtain ⟨elsewhere, resolved, file⟩ := holds
        have here := (Keeps.refl t').resolve found (by rw [node, Option.isSome_some])
        rw [here] at resolved
        cases resolved
        rw [node] at file
        cases file

/-! ## In programs -/

/-- A program goes on from where its first step leads. -/
theorem run_bind {α β : Type} {x : StateM FileTree α} {a : α} (runs : x.run t = (a, t'))
    (next : α → StateM FileTree β) : (x >>= next).run t = (next a).run t' := by
  rw [StateT.run_bind, runs]
  rfl

theorem run_write (writes : t.write p content = .ok t') :
    (MonadStorage.write (m := StateM FileTree) p content).run t = (.ok (), t') := by
  change attempt (·.write p content) t = _
  rw [attempt, writes]

theorem run_write_error {error : IoError} (fails : t.write p content = .error error) :
    (MonadStorage.write (m := StateM FileTree) p content).run t = (.error error, t) := by
  change attempt (·.write p content) t = _
  rw [attempt, fails]

theorem run_read (reads : t.read p = .ok content) :
    (MonadStorage.read (m := StateM FileTree) p).run t = (.ok content, t) := by
  change (t.read p, t) = _
  rw [reads]

/-- A path that can be read leads somewhere. -/
theorem run_leadsSomewhere (reads : t.read p = .ok content) :
    (MonadStorage.leadsSomewhere (m := StateM FileTree) p).run t = (true, t) := by
  obtain ⟨place, resolved, -⟩ := bind_eq_ok.mp reads
  change (t.leadsSomewhere p, t) = _
  rw [leadsSomewhere, resolved]
  rfl

end FileTree

end TransportConverter
