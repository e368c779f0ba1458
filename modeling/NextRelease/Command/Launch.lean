import NextRelease.Run.Basic
import NextRelease.Shell.Run

/-!
Starting programs. The working directory is entered first; then the program is looked for, by its
path from there if it has a slash, and where programs are kept if it has none. What it prints has to
be text.

What a program that was found does is told by `Shell`, a shell with the usual programs beside it. Only
the launching of programs rests on that: decisions and releases take any runner of commands.
-/

namespace NextRelease.Launch

open Shell (Machine Octets)

def outputText? (cs : Octets) : Option String := Text.decode? (Shell.toBytes cs)

def enter (tree : FileTree) (cwd : Place) : Option Path → Except FileFault Place
  | none => .ok cwd
  | some path => do
    let place ← tree.locate (path.route cwd)
    match ← tree.status place with
    | .directory => return place
    | _ => throw .notADirectory

def combine (before now : FileFault) : FileFault :=
  if before = .notFound ∨ before = .notADirectory then now else before

def findAt (m : Machine) : (before : FileFault) → List Octets →
    Except FileFault (Octets × Shell.Program)
  | before, [] => .error before
  | before, path :: paths =>
    match m.programAt path with
    | .ok program => .ok (path, program)
    | .error fault => findAt m (combine before fault) paths

def pathsOf (m : Machine) (program : Octets) : List Octets :=
  if program.contains '/' then [program]
  else m.searchPath.map fun directory => directory ++ '/' :: program

def haltOf (program : String) : FileFault → Halt
  | .notFound => .failure (.toolNotFound program)
  | fault => .fault (.files fault)

def isPassable (argv : List String) (directory : Option Path) : Bool :=
  let isClean (text : String) : Bool := !text.toList.contains (Char.ofNat 0)
  argv.all isClean && (directory.map fun path => isClean (toString path)).getD true

def start (tree : FileTree) (cwd : Place) (argv : List String) (directory : Option Path) :
    Reply × FileTree :=
  match argv with
  | [] => (.error (.fault .noProgram), tree)
  | program :: arguments =>
    if !isPassable argv directory then (.error (.fault (.files .nullCharacter)), tree)
    else
      let found := do
        let place ← enter tree cwd directory
        let m := Shell.startMachine tree place (Shell.octets program)
        let (path, found) ← findAt m .notFound (pathsOf m (Shell.octets program))
        return (m, path, found)
      match found with
      | .error fault => (.error (haltOf program fault), tree)
      | .ok (m, path, found) =>
        let (m, code) := Shell.launch m path found (arguments.map Shell.octets)
        match outputText? m.out.text, outputText? m.err.text with
        | some out, some err => (.ok ⟨code, out, err⟩, m.files)
        | _, _ => (.error (.fault .undecodable), m.files)

def run (argv : List String) (directory : Option Path) : Run CommandResult := do
  let program := argv.head?.getD ""
  let shown := (directory.map toString).getD "."
  Script.note .debug ("$ " ++ " ".intercalate argv ++ " (cwd=" ++ shown ++ ")")
  let reply : Reply ← fun host w =>
    let (reply, tree) := start w.files host.cwd argv directory
    (.ok reply, { w with files := tree })
  match reply with
  | .error cause => Run.halt cause
  | .ok result =>
    if result.ok then return result
    else do
      Script.note .debug (program ++ " exited with status " ++ toString result.code)
      return result

end NextRelease.Launch
