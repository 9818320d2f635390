import TransportConverter.IoError
import TransportConverter.Path
/-!
# Files

What a program does with files: `MonadStorage m` says that programs of `m` can do it. Whole chains of
directories are made of single ones (`createDirectories`).
-/
namespace TransportConverter

class MonadStorage (m : Type → Type) where
  /-- Whether a path leads to anything. -/
  leadsSomewhere : Path → m Bool
  isDirectory : Path → m Bool
  read : Path → m (Except IoError Bytes)
  /-- Writes a file from its beginning, and creates it where there is none. -/
  write : Path → Bytes → m (Except IoError Unit)
  /-- Writes on at the end of a file, and creates it where there is none. -/
  append : Path → Bytes → m (Except IoError Unit)
  /-- Creates a directory in one that is there. -/
  makeDirectory : Path → m (Except IoError Unit)

namespace MonadStorage

variable {m : Type → Type} [Monad m] [MonadStorage m]

/-- Creates a directory unless it is there. -/
def keepDirectory (p : Path) : m (Except IoError Unit) := do
  match ← makeDirectory p with
  | .ok () => return .ok ()
  | .error error =>
    if error.kind = .alreadyExists then
      if ← isDirectory p then return .ok () else return .error error
    else return .error error

/-- Creates the first of some directories, each of which is in the next one, and of the others
what is missing for it. -/
def createFirst : List Path → m (Except IoError Unit)
  | [] => return .ok ()
  | p :: outer => do
    match ← keepDirectory p with
    | .ok () => return .ok ()
    | .error error =>
      if error.kind = .notFound then
        match ← createFirst outer with
        | .ok () => keepDirectory p
        | .error error => return .error error
      else return .error error

/-- Creates a directory and those that it is in, unless they are there. -/
def createDirectories (p : Path) : m (Except IoError Unit) := createFirst p.ancestors

end MonadStorage

end TransportConverter
