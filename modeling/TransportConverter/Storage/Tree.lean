import TransportConverter.Storage
/-!
# Trees of files

The files of a host as a value, seen from its working directory. Programs that work with files can be
run on it, and one can see what they leave behind. A path is followed name by name from the top or
from the working directory, and every step but the last has to be one into a directory.
-/
namespace TransportConverter

inductive FileNode where
  | file (content : Bytes)
  /-- Something that holds nothing, and takes what is written to it unless it refuses. -/
  | device (refusal : Option IoError)
  | directory
  deriving DecidableEq, Repr

/-- What there is, by the names that lead to it from the top. The top is always there. -/
structure FileTree where
  nodes : List (List Bytes × FileNode) := []
  /-- The names that lead to the directory that a path starts in. -/
  working : List Bytes := []
  deriving DecidableEq, Repr

namespace FileTree

/-! ## Failures -/

/-- There is nothing of that name. -/
def notFound : IoError := .system 2

/-- There is something of that name already. -/
def alreadyThere : IoError := .system 17

/-- A step leads into something that is no directory. -/
def notADirectory : IoError := .system 20

/-- A directory is used as a file. -/
def isADirectory : IoError := .system 21

def nameTooLong : IoError := .system 36

def unreadableName : IoError := .described .invalidInput "file name contained an unexpected NUL byte"

/-! ## Following a path -/

/-- The most bytes of a name. -/
def maxNameLength : Nat := 255

/-- The most bytes of a path. -/
def maxPathLength : Nat := 4095

/-- What can be said against a path without following it. -/
def checkPath (p : Path) : Except IoError Unit :=
  if p.bytes.contains 0 then .error unreadableName
  else if p.bytes = [] then .error notFound
  else if maxPathLength < p.bytes.length then .error nameTooLong
  else .ok ()

def node? (t : FileTree) : List Bytes → Option FileNode
  | [] => some .directory
  | place => t.nodes.lookup place

/-- The place of `name` in the directory at `place`, whether there is something or not. -/
def placeIn (t : FileTree) (place : List Bytes) (name : Bytes) : Except IoError (List Bytes) :=
  if t.node? place ≠ some .directory then .error notADirectory
  else if maxNameLength < name.length then .error nameTooLong
  else .ok (place ++ [name])

/-- One step of a path, from a directory. -/
def enter (t : FileTree) (place : List Bytes) (name : Bytes) : Except IoError (List Bytes) := do
  let inside ← t.placeIn place name
  if name = Path.dot then .ok place
  else if name = Path.dotDot then .ok place.dropLast
  else if (t.node? inside).isSome then .ok inside
  else .error notFound

/-- Follows names from where a path starts. -/
def follow (t : FileTree) (p : Path) (names : List Bytes) : Except IoError (List Bytes) :=
  names.foldlM t.enter (if p.isAbsolute then [] else t.working)

/-- Where a path leads. -/
def resolve (t : FileTree) (p : Path) : Except IoError (List Bytes) := do
  checkPath p
  let place ← t.follow p p.names
  if p.endsInSlash ∧ t.node? place ≠ some .directory then .error notADirectory else .ok place

/-- The directory that the last name of a path is looked for in, and that name. A path may also end
in something that is no name of its own. -/
def last (t : FileTree) (p : Path) : Except IoError (List Bytes × Option Bytes) := do
  checkPath p
  match p.names.getLast? with
  | none => .ok ([], none)
  | some name =>
    let place ← t.follow p p.names.dropLast
    if name = Path.dot ∨ name = Path.dotDot then
      let place ← t.enter place name
      .ok (place, none)
    else if t.node? place ≠ some .directory then .error notADirectory
    else .ok (place, some name)

/-! ## What can be done with files -/

def leadsSomewhere (t : FileTree) (p : Path) : Bool := (t.resolve p).isOk

def isDirectory (t : FileTree) (p : Path) : Bool :=
  match t.resolve p with
  | .ok place => t.node? place = some .directory
  | .error _ => false

def read (t : FileTree) (p : Path) : Except IoError Bytes := do
  match t.node? (← t.resolve p) with
  | some (.file content) => .ok content
  | some (.device _) => .ok []
  | some .directory => .error isADirectory
  | none => .error notFound

def set (t : FileTree) (place : List Bytes) (node : FileNode) : FileTree where
  nodes := t.nodes.filter (·.1 ≠ place) ++ [(place, node)]
  working := t.working

/-- The place of the file that a path names, whether there is one or not. A slash at the end asks
for a directory. -/
def filePlace (t : FileTree) (p : Path) : Except IoError (List Bytes) := do
  match ← t.last p with
  | (_, none) => .error isADirectory
  | (place, some name) => if p.endsInSlash then .error isADirectory else t.placeIn place name

/-- Writes to a file: `f` makes its new content from the old one and from what is written. -/
def modify (t : FileTree) (p : Path) (f : Bytes → Bytes → Bytes) (written : Bytes) :
    Except IoError FileTree := do
  let place ← t.filePlace p
  match t.node? place with
  | some (.file content) => .ok (t.set place (.file (f content written)))
  | some (.device none) => .ok t
  | some (.device (some refusal)) => if written = [] then .ok t else .error refusal
  | some .directory => .error isADirectory
  | none => .ok (t.set place (.file (f [] written)))

def write (t : FileTree) (p : Path) (content : Bytes) : Except IoError FileTree :=
  t.modify p (fun _ written => written) content

def append (t : FileTree) (p : Path) (content : Bytes) : Except IoError FileTree :=
  t.modify p (fun old written => old ++ written) content

def makeDirectory (t : FileTree) (p : Path) : Except IoError FileTree := do
  match ← t.last p with
  | (_, none) => .error alreadyThere
  | (place, some name) =>
    let place ← t.placeIn place name
    if (t.node? place).isSome then .error alreadyThere else .ok (t.set place .directory)

/-- Runs a change that may fail, which then changes nothing. -/
def attempt (f : FileTree → Except IoError FileTree) : StateM FileTree (Except IoError Unit) :=
  fun t => match f t with
    | .ok changed => (.ok (), changed)
    | .error error => (.error error, t)

instance : MonadStorage (StateM FileTree) where
  leadsSomewhere p := return (← get).leadsSomewhere p
  isDirectory p := return (← get).isDirectory p
  read p := return (← get).read p
  write p content := attempt (·.write p content)
  append p content := attempt (·.append p content)
  makeDirectory p := attempt (·.makeDirectory p)

end FileTree

end TransportConverter
