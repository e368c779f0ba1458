import NextRelease.Run.World

/-!
Scripted runners: rules that answer commands. The first rule that fits a command answers it, after
its file effects; a command that no rule fits succeeds and prints nothing.
-/

namespace NextRelease

inductive Planned where
  | file (content : ByteArray)
  | directory

inductive Ending where
  | finished (result : CommandResult)
  | missing
  | interrupted

structure Rule where
  argv : List String
  cwd : Option String := none
  ending : Ending := .finished ⟨0, "", ""⟩
  delete : List String := []
  write : List (String × Planned) := []
  atTarget : Bool := false

namespace FileTree

def plant (tree : FileTree) (route : Route) : Planned → Except FileFault FileTree
  | .directory => tree.makeDirectories route
  | .file content => do
    let tree ← tree.makeDirectories route.parent
    tree.write route content

def removeIfThere (tree : FileTree) (route : Route) : Except FileFault FileTree :=
  match tree.removeFile route with
  | .error .notFound => .ok tree
  | result => result

end FileTree

namespace Rule

def fits (shown : String → String) (rule : Rule) (command : Command) : Bool :=
  rule.argv.isPrefixOf (command.argv.map shown) &&
    match rule.cwd with
    | none => true
    | some cwd => shown (toString command.cwd) == cwd

def effects (cwd : Place) (rule : Rule) (command : Command) (tree : FileTree) :
    Except FileFault FileTree := do
  let base := if rule.atTarget then Path.ofString (command.argv.getLast?.getD "") else command.cwd
  let route (name : String) : Route := (base.child name).route cwd
  let tree ← rule.delete.foldlM (fun tree name => tree.removeIfThere (route name)) tree
  rule.write.foldlM (fun tree file => tree.plant (route file.1) file.2) tree

def answer (cwd : Place) (rule : Rule) (command : Command) (tree : FileTree) : Reply × FileTree :=
  match rule.effects cwd command tree with
  | .error fault => (.error (.fault (.files fault)), tree)
  | .ok tree =>
    match rule.ending with
    | .finished result => (.ok result, tree)
    | .missing => (.error (.failure (.toolNotFound (command.argv.head?.getD ""))), tree)
    | .interrupted => (.error .interrupted, tree)

end Rule

def Runner.scripted (shown : String → String) (cwd : Place) (rules : List Rule) : Runner where
  respond _ tree command :=
    match rules.find? fun rule => rule.fits shown command with
    | some rule => rule.answer cwd command tree
    | none => (.ok ⟨0, "", ""⟩, tree)

end NextRelease
