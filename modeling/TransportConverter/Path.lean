import TransportConverter.Text.Quoted
/-!
# Paths

The names of files, as the bytes that the system knows them by. A path is made of components with
slashes between them; empty components count for nothing, and neither does a single dot, except at
the very front.
-/
namespace TransportConverter

structure Path where
  bytes : Bytes
  deriving DecidableEq, Repr

namespace Path

def ofString (s : String) : Path := ⟨Utf8.encode s⟩

/-- The path in quotes. -/
def quoted (p : Path) : String := Quoted.name p.bytes

def slash : UInt8 := 47

def dot : Bytes := [46]

def dotDot : Bytes := [46, 46]

def isAbsolute (p : Path) : Bool := p.bytes.head? == some slash

/-- What stands between the slashes. -/
def segments (p : Path) : List Bytes := p.bytes.splitOn slash

/-- What stands between the slashes and is not empty. -/
def names (p : Path) : List Bytes := p.segments.filter (· ≠ [])

def endsInSlash (p : Path) : Bool := p.bytes.getLast? == some slash

/-- The segments that count. -/
def components (p : Path) : List Bytes :=
  match p.segments with
  | [] => []
  | first :: rest =>
    (if first = [] then [] else [first]) ++ rest.filter fun s => s ≠ [] ∧ s ≠ dot

/-- The path of components. -/
def ofComponents (absolute : Bool) (components : List Bytes) : Path :=
  ⟨(if absolute then [slash] else []) ++ [slash].intercalate components⟩

/-- The path without its last component, if it has one. -/
def parent? (p : Path) : Option Path :=
  if p.components.isEmpty then none else some (ofComponents p.isAbsolute p.components.dropLast)

/-- The path itself, the directory that it is in, the directory of that one, and so on. -/
def ancestors (p : Path) : List Path :=
  let n := p.components.length
  let outer := (List.range n).reverse.filter fun k => k ≠ 0 || p.isAbsolute
  (if n = 0 && !p.isAbsolute then [] else [p]) ++
    outer.map fun k => ofComponents p.isAbsolute (p.components.take k)

/-- The last component, if it is a name. -/
def fileName? (p : Path) : Option Bytes :=
  p.components.getLast?.filter fun name => name ≠ dot ∧ name ≠ dotDot

/-- The path of `name` in a directory. -/
def join (directory : Path) (name : Bytes) : Path :=
  if name.head? = some slash ∨ directory.bytes = [] then ⟨name⟩
  else if directory.bytes.getLast? = some slash then ⟨directory.bytes ++ name⟩
  else ⟨directory.bytes ++ [slash] ++ name⟩

end Path

end TransportConverter
