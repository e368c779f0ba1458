import NextRelease.Files.Path
import NextRelease.Text.Quoted

/-!
File trees: files, directories, links and devices by place, and why a file operation does not take
place. A name list is walked from the root; links are followed, `..` goes to the directory above, and
at most forty links are followed on the way.
-/

namespace NextRelease

/-! ## Faults -/

inductive FileFault where
  | notFound
  | notADirectory
  | isADirectory
  | alreadyExists
  | notPermitted
  | nameTooLong
  | tooManyLinks
  | linkLoop
  | linksTooDeep
  | occupied
  | nullCharacter
  deriving DecidableEq

namespace FileFault

def isAbsence : FileFault → Bool
  | notFound | notADirectory | tooManyLinks | nullCharacter => true
  | _ => false

def systemError : FileFault → Nat × String
  | notFound => (2, "No such file or directory")
  | notPermitted => (13, "Permission denied")
  | alreadyExists | occupied => (17, "File exists")
  | notADirectory => (20, "Not a directory")
  | isADirectory => (21, "Is a directory")
  | nullCharacter => (22, "Invalid argument")
  | nameTooLong => (36, "File name too long")
  | tooManyLinks | linkLoop | linksTooDeep => (40, "Too many levels of symbolic links")

def text (fault : FileFault) : String := fault.systemError.2

def describe (fault : FileFault) (path : String) : String :=
  let (number, text) := fault.systemError
  "[Errno " ++ toString number ++ "] " ++ text ++ ": " ++ Text.quote path

end FileFault

/-! ## Trees -/

inductive Device where
  | null
  | zero
  | random
  | full
  | pipe
  deriving DecidableEq

inductive FileNode where
  | file (content : ByteArray)
  | directory
  | link (target : String)
  | device (device : Device)

inductive FileKind where
  | file
  | directory
  | device
  deriving DecidableEq

structure FileTimes where
  changed : Int
  read : Int

def FileTimes.present : Int := 1735732800000000000

def FileTimes.former : FileTimes := ⟨present - 10000000, present - 10000000⟩

structure FileTree where
  entries : List (Place × FileNode)
  /-- The permissions that are not the usual ones for what has them. -/
  modes : List (Place × Nat) := []
  /-- When places were changed and read last. -/
  times : List (Place × FileTimes) := []
  /-- The time of day, which changes get. -/
  now : Int := FileTimes.present
  /-- The places of which each names the same file as the others. -/
  twins : List (List Place) := []

namespace FileTree

def empty : FileTree := { entries := [] }

/-- What is at a place; at the root there is always a directory. -/
def get? (tree : FileTree) (place : Place) : Option FileNode :=
  if place = [] then some .directory else tree.entries.lookup place

def insertEntry (place : Place) (node : FileNode) :
    List (Place × FileNode) → List (Place × FileNode)
  | [] => [(place, node)]
  | (p, n) :: entries =>
    if p = place then (place, node) :: entries else (p, n) :: insertEntry place node entries

def insert (tree : FileTree) (place : Place) (node : FileNode) : FileTree :=
  { tree with entries := insertEntry place node tree.entries }

def restrict (tree : FileTree) (counts : Place → Bool) : FileTree :=
  { tree with
    entries := tree.entries.filter fun entry => counts entry.1
    modes := tree.modes.filter fun entry => counts entry.1
    times := tree.times.filter fun entry => counts entry.1
    twins := (tree.twins.map fun places => places.filter counts).filter (1 < ·.length) }

def setTimes (tree : FileTree) (place : Place) (times : FileTimes) : FileTree :=
  { tree with times := (place, times) :: tree.times.filter fun entry => entry.1 != place }

def timesAt (tree : FileTree) (place : Place) : FileTimes :=
  (tree.times.lookup place).getD .former

def stamp (tree : FileTree) (place : Place) : FileTree :=
  tree.setTimes place { tree.timesAt place with changed := tree.now }

def stampNew (tree : FileTree) (place : Place) : FileTree :=
  (tree.setTimes place ⟨tree.now, tree.now⟩).stamp place.dropLast

def erase (tree : FileTree) (place : Place) : FileTree :=
  (tree.restrict (· != place)).stamp place.dropLast

def prune (tree : FileTree) (place : Place) : FileTree :=
  (tree.restrict fun other => !place.isPrefixOf other).stamp place.dropLast

def namesAt (tree : FileTree) (place : Place) : List Place :=
  (tree.twins.find? (·.contains place)).getD [place]

def store (tree : FileTree) (place : Place) (content : ByteArray) : FileTree :=
  if (tree.get? place).isNone then (tree.insert place (.file content)).stampNew place
  else
    (tree.namesAt place).foldl
      (fun tree name => (tree.insert name (.file content)).stamp name) tree

def addName (tree : FileTree) (place name : Place) : FileTree :=
  match tree.get? place with
  | some node =>
    let mode := tree.modes.lookup place
    let times := tree.timesAt place
    let tree := (tree.insert name node).stampNew name
    { tree.setTimes name times with
      modes := (mode.map fun mode => (name, mode)).toList ++ tree.modes
      twins := (name :: tree.namesAt place) ::
        tree.twins.filter fun places => !places.contains place }
  | none => tree

def usualMode : FileNode → Nat
  | .file _ => 0o644
  | .directory => 0o755
  | .link _ => 0o777
  | .device _ => 0o666

def mode (tree : FileTree) (place : Place) : Nat :=
  (tree.modes.lookup place).getD (((tree.get? place).map usualMode).getD 0)

def setMode (tree : FileTree) (place : Place) (mode : Nat) : FileTree :=
  (tree.namesAt place).foldl
    (fun tree name =>
      { tree with modes := (name, mode) :: tree.modes.filter fun entry => entry.1 != name })
    tree

def mayRun (tree : FileTree) (place : Place) : Bool :=
  [1, 8, 64].any fun bit => tree.mode place / bit % 2 == 1

def below (tree : FileTree) (place : Place) : List (Place × FileNode) :=
  tree.entries.filterMap fun entry =>
    if place.isPrefixOf entry.1 && entry.1 != place then
      some (entry.1.drop place.length, entry.2)
    else none

def longestName : Nat := 255

def longestPath : Nat := 4095

def refusal? (route : Route) : Option FileFault :=
  if route.names.any fun name => name.toList.contains (Char.ofNat 0) then some .nullCharacter
  else if longestPath < route.length then some .nameTooLong
  else none

def walkNames (tree : FileTree) (followLast : Bool)
    (onLink : List String → Except FileFault Place) : Place → List String → Except FileFault Place
  | here, [] => .ok here
  | here, name :: rest =>
    if name = ".." then walkNames tree followLast onLink here.dropLast rest
    else if longestName < name.utf8ByteSize then .error .nameTooLong
    else
      let next := here ++ [name]
      match tree.get? next with
      | none => if rest = [] then .ok next else .error .notFound
      | some .directory => walkNames tree followLast onLink next rest
      | some (.file _) | some (.device _) => if rest = [] then .ok next else .error .notADirectory
      | some (.link target) =>
        if rest = [] ∧ followLast = false then .ok next
        else onLink ((Path.ofString target).fromRoot here ++ rest)

def walkLinks (tree : FileTree) (followLast : Bool) : Nat → List String → Except FileFault Place
  | 0, _ => .error .tooManyLinks
  | links + 1, names => walkNames tree followLast (walkLinks tree followLast links) [] names

def walk (tree : FileTree) (followLast : Bool) (route : Route) : Except FileFault Place :=
  match refusal? route with
  | some fault => .error fault
  | none => walkLinks tree followLast 41 route.names

def locate (tree : FileTree) (route : Route) : Except FileFault Place := walk tree true route

def locateEntry (tree : FileTree) (route : Route) : Except FileFault Place :=
  walk tree false route

def find? (tree : FileTree) (route : Route) : Option FileNode :=
  match tree.locate route with
  | .ok place => tree.get? place
  | .error _ => none

def status (tree : FileTree) (route : Route) : Except FileFault FileKind := do
  match tree.get? (← tree.locate route) with
  | some (.file _) => return .file
  | some .directory => return .directory
  | some (.device _) => return .device
  | _ => throw .notFound

def hasKind (tree : FileTree) (kind : FileKind) (route : Route) : Bool :=
  match tree.status route with
  | .ok found => found == kind
  | .error _ => false

def isDirectory (tree : FileTree) (route : Route) : Bool := tree.hasKind .directory route

def hasEntry (tree : FileTree) (route : Route) : Bool :=
  match tree.locateEntry route with
  | .ok place => (tree.get? place).isSome
  | .error _ => false

def read (tree : FileTree) (route : Route) : Except FileFault ByteArray := do
  match tree.get? (← tree.locate route) with
  | some (.file content) => return content
  | some .directory => throw .isADirectory
  | some (.device _) => return .empty
  | _ => throw .notFound

def write (tree : FileTree) (route : Route) (content : ByteArray) :
    Except FileFault FileTree := do
  let place ← tree.locate route
  match tree.get? place with
  | some .directory => throw .isADirectory
  | some (.device _) => return tree
  | _ => return tree.store place content

def append (tree : FileTree) (place : Place) (content : ByteArray) : FileTree :=
  match tree.get? place with
  | some (.file before) => tree.store place (before ++ content)
  | some _ => tree
  | none => tree.store place content

def makeDirectory (tree : FileTree) (route : Route) : Except FileFault FileTree := do
  let place ← tree.locateEntry route
  match tree.get? place with
  | none => return (tree.insert place .directory).stampNew place
  | some _ => throw .alreadyExists

def makeMissing (tree : FileTree) : List Route → Except FileFault FileTree
  | [] => .error .notFound
  | front :: outer =>
    let accept (tree : FileTree) (fault : FileFault) : Except FileFault FileTree :=
      if tree.isDirectory front then .ok tree else .error fault
    match tree.makeDirectory front with
    | .ok tree => .ok tree
    | .error .notFound => do
      let tree ← tree.makeMissing outer
      match tree.makeDirectory front with
      | .ok tree => .ok tree
      | .error fault => accept tree fault
    | .error fault => accept tree fault

def makeDirectories (tree : FileTree) (route : Route) : Except FileFault FileTree :=
  let fronts := (List.range route.names.length).foldl
    (fun fronts _ => match fronts with
      | front :: _ => front.parent :: fronts
      | [] => [])
    [route]
  tree.makeMissing fronts.reverse

def removeFile (tree : FileTree) (route : Route) : Except FileFault FileTree := do
  let place ← tree.locateEntry route
  match tree.get? place with
  | none => throw .notFound
  | some .directory => throw .isADirectory
  | some _ => return tree.erase place

def moveFile (tree : FileTree) (source : Place) (destination : Route) :
    Except FileFault FileTree := do
  let target := if tree.isDirectory destination then
    destination.child (source.getLast?.getD "") else destination
  if tree.isDirectory destination ∧ (tree.find? target).isSome then throw .occupied
  let place ← tree.locateEntry target
  match tree.get? source with
  | some (.file content) =>
    let cleared := (tree.erase source).restrict (· != place)
    return (cleared.insert place (.file content)).stampNew place
  | _ => throw .notFound

inductive Removal where
  | gone
  | refused (reason : String)
  | failed (fault : FileFault)

def removeTree (tree : FileTree) (route : Route) : Removal × FileTree :=
  let path := "/" ++ "/".intercalate route.names
  let stop : FileFault → Removal
    | .notFound => .gone
    | .nullCharacter => .failed .nullCharacter
    | fault => .refused (fault.describe path)
  match tree.locateEntry route with
  | .error fault => (stop fault, tree)
  | .ok place =>
    match tree.get? place with
    | none => (.gone, tree)
    | some .directory => (.gone, tree.prune place)
    | some (.link _) =>
      match tree.status route with
      | .error fault => (stop fault, tree)
      | .ok _ => (.refused "Cannot call rmtree on a symbolic link", tree)
    | some (.file _) | some (.device _) =>
      (.refused ("[Errno 20] Not a directory: PosixPath(" ++ Text.quote path ++ ")"), tree)

theorem get?_insert (tree : FileTree) (place other : Place) (node : FileNode) (h : place ≠ []) :
    (tree.insert place node).get? other = if other = place then some node else tree.get? other := by
  by_cases ho : other = []
  · subst ho
    simp [get?, Ne.symm h]
  · simp only [get?, if_neg ho, insert]
    induction tree.entries with
    | nil => simp [insertEntry, List.lookup_cons]; split <;> simp_all
    | cons entry entries ih =>
      obtain ⟨p, n⟩ := entry
      by_cases hp : p = place
      · subst hp
        by_cases hop : other = p <;> simp [insertEntry, List.lookup_cons, hop, beq_false_of_ne]
      · by_cases hop : other = p
        · subst hop
          simp [insertEntry, hp]
        · simp only [insertEntry, if_neg hp, List.lookup_cons, beq_false_of_ne hop, ih]

end FileTree

end NextRelease

/-! ## Renaming

Giving an entry another name, with everything below it.
-/

namespace NextRelease.FileTree

def relocate (tree : FileTree) (source goal : Place) : FileTree :=
  let move (place : Place) : Place :=
    if source.isPrefixOf place then goal ++ place.drop source.length else place
  let moveAll {α : Type} (entries : List (Place × α)) : List (Place × α) :=
    entries.map fun entry => (move entry.1, entry.2)
  let cleared : FileTree := tree.prune goal
  let moved : FileTree :=
    { cleared with
      entries := moveAll cleared.entries
      modes := moveAll cleared.modes
      times := moveAll cleared.times
      twins := cleared.twins.map fun places => places.map move }
  (moved.stamp source.dropLast).stamp goal.dropLast

end NextRelease.FileTree

/-! ## The system

The files that are there before anything is made: the directories of the system, its devices, and
the programs.
-/

namespace NextRelease.FileTree

def systemPrograms : List String :=
  ["[", "arch", "awk", "b2sum", "base32", "base64", "basename", "basenc", "cat", "chmod", "cksum",
    "cmp", "comm", "cp", "csplit", "cut", "dash", "date", "dd", "diff", "dir", "dirname", "echo",
    "egrep", "env", "expand", "expr", "factor", "false", "fgrep", "find", "fmt", "fold", "getopt",
    "grep", "groups", "gunzip", "gzip", "head", "id", "install", "join", "link", "ln", "logname",
    "ls", "mawk", "md5sum", "mkdir", "mkfifo", "mktemp", "mv", "nice", "nl", "nohup", "numfmt",
    "od", "paste", "pathchk", "perl", "pr", "printenv", "printf", "pwd", "readlink", "realpath",
    "rev", "rm", "rmdir", "sed", "seq", "sha1sum", "sha224sum", "sha256sum", "sha384sum",
    "sha512sum", "shuf", "sleep", "sort", "split", "stat", "stdbuf", "sum", "sync", "tac", "tail",
    "tar", "tee", "test", "timeout", "touch", "tr", "true", "truncate", "tsort", "tty", "uname",
    "uncompress", "unexpand", "uniq", "unlink", "users", "vdir", "wc", "which", "whoami", "xargs",
    "yes", "zcat"]

def programDirectory : Place := ["usr", "bin"]

def systemProgram? (place : Place) : Option String :=
  match place.getLast? with
  | some name =>
    if place.dropLast = programDirectory && systemPrograms.contains name then some name else none
  | none => none

def systemDirectories : List Place :=
  [["boot"], ["dev"], ["etc"], ["home"], ["media"], ["mnt"], ["opt"], ["proc"], ["root"], ["run"],
    ["srv"], ["sys"], ["tmp"], ["usr"], ["usr", "bin"], ["usr", "include"], ["usr", "lib"],
    ["usr", "local"], ["usr", "local", "bin"], ["usr", "local", "lib"], ["usr", "local", "sbin"],
    ["usr", "sbin"], ["usr", "share"], ["var"], ["var", "log"], ["var", "tmp"]]

def systemLinks : List (Place × String) :=
  [(["bin"], "usr/bin"), (["lib"], "usr/lib"), (["sbin"], "usr/sbin"),
    (["usr", "bin", "sh"], "dash")]

def devices : List (String × Device) :=
  [("null", .null), ("zero", .zero), ("random", .random), ("urandom", .random), ("full", .full)]

def system : FileTree :=
  let programs := systemPrograms.map fun name => programDirectory ++ [name]
  { entries :=
      systemDirectories.map (·, .directory) ++ systemLinks.map (fun l => (l.1, .link l.2)) ++
        devices.map (fun d => (["dev", d.1], .device d.2)) ++ programs.map (·, .file .empty)
    modes := [(["tmp"], 0o1777), (["var", "tmp"], 0o1777)] ++ programs.map (·, 0o755) }

end NextRelease.FileTree
