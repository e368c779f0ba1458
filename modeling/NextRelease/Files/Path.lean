import NextRelease.Text.Basic

/-!
Paths as they are written: how many slashes stand in front, and the names. Empty names and `.` are
dropped on reading; `..` is kept, because what it means depends on links.
-/

namespace NextRelease

/-- The names that lead from the root to a place without `..` or links. -/
abbrev Place := List String

/-- The number of leading slashes is zero for a relative path, and two only where exactly two are
written. -/
structure Path where
  slashes : Nat
  names : List String
  deriving DecidableEq

namespace Path

def ofString (s : String) : Path :=
  let lead := (s.toList.takeWhile (· == '/')).length
  { slashes := if lead = 2 then 2 else min lead 1
    names := ((Text.splitOn '/' s.toList).map String.ofList).filter fun n => n != "" && n != "." }

def ofPlace (place : Place) : Path := ⟨1, place⟩

protected def toString (p : Path) : String :=
  if p.slashes = 0 ∧ p.names = [] then "."
  else String.ofList (List.replicate p.slashes '/') ++ "/".intercalate p.names

instance : ToString Path := ⟨Path.toString⟩

def isAbsolute (p : Path) : Bool := p.slashes != 0

def join (p q : Path) : Path := if q.isAbsolute then q else ⟨p.slashes, p.names ++ q.names⟩

def child (p : Path) (name : String) : Path := p.join (ofString name)

def parent (p : Path) : Path := ⟨p.slashes, p.names.dropLast⟩

def name (p : Path) : String := p.names.getLast?.getD ""

def fromRoot (cwd : Place) (p : Path) : List String :=
  if p.isAbsolute then p.names else cwd ++ p.names

end Path

/-- The way to a file: the names from the root, and how many octets the path has that is handed to
the system for it. A path that starts in the working directory is shorter than its names. -/
structure Route where
  names : List String
  length : Nat

namespace Route

def ofNames (names : List String) : Route :=
  ⟨names, names.foldl (fun n name => n + name.utf8ByteSize + 1) 0⟩

instance : Coe (List String) Route := ⟨ofNames⟩

def parent (route : Route) : Route :=
  ⟨route.names.dropLast, route.length - ((route.names.getLast?.getD "").utf8ByteSize + 1)⟩

def child (route : Route) (name : String) : Route :=
  ⟨route.names ++ [name], route.length + 1 + name.utf8ByteSize⟩

end Route

def Path.route (cwd : Place) (p : Path) : Route :=
  ⟨p.fromRoot cwd, (toString p).utf8ByteSize⟩

end NextRelease
