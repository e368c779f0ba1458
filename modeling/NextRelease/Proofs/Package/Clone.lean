import NextRelease.Package.Artifact
import NextRelease.Proofs.Files.Straight
import NextRelease.Proofs.Package.Manifest
import NextRelease.Proofs.Run.Territory

/-! Clones in the hands of a package manager. What the commands that pack a reference are taken to
do: each succeeds, changes nothing outside the clone, and leaves a manifest there that declares the
same version. -/

namespace NextRelease

open FileTree

def Manifest.Readable (content : ByteArray) (version : Option Version) (depth : Nat) : Prop :=
  ∃ text manifest, Text.decode? content = some text ∧ Declares manifest version ∧
    parse text "" depth = .ok manifest ∧ parse text "" (depth - 1) = .ok manifest

theorem Manifest.parse_ok {text source : String} {depth : Nat} {manifest : Fields}
    (h : parse text "" depth = .ok manifest) : parse text source depth = .ok manifest := by
  unfold parse at h ⊢
  cases hread : Json.read text.toList depth with
  | ok value => cases value <;> simp_all
  | error refusal => cases refusal <;> simp_all

theorem Manifest.isEntryName_fileName : IsEntryName fileName := ⟨by cbv, by decide⟩

theorem Revision.isEntryName_name (revision : Revision) : IsEntryName revision.name := by
  cases revision
  · exact ⟨by cbv, by decide⟩
  · exact ⟨by cbv, by decide⟩

abbrev Host.place (host : Host) (path : Path) : Place := (path.route host.cwd).names

def Host.Accepts (host : Host) (path : Path) : Prop := refusal? (path.route host.cwd) = none

def Host.scratchNamed (host : Host) (name : String) : Path :=
  host.temporary.child (Scratch.stem ++ name)

def Dialect.lockedAt (tree : FileTree) (directory : Place) : Dialect :=
  ((lockFiles.find? fun marker => tree.holdsFile (directory ++ [marker.1])).map (·.2)).getD npm

namespace Packaging

structure Checkout (packaging : Packaging) (version : Option Version) (tree : FileTree)
    (clone : Place) : Prop where
  directories : ∀ front, front <+: packaging.packagePath.names →
    tree.get? (clone ++ front) = some .directory
  manifest : ∃ content,
    tree.get? (clone ++ packaging.packagePath.names ++ [Manifest.fileName]) =
      some (.file content) ∧
    Manifest.Readable content version packaging.depth

structure Fresh (packaging : Packaging) (dialect : Dialect) (tree : FileTree) (clone : Place) :
    Prop where
  locked : Dialect.lockedAt tree (clone ++ packaging.packagePath.names) = dialect
  noLink : ∀ marker ∈ Dialect.lockFiles, ∀ target,
    tree.get? (clone ++ packaging.packagePath.names ++ [marker.1]) ≠ some (.link target)

structure Archived (packaging : Packaging) (host : Host) (directory : Path) (dialect : Dialect)
    (result : CommandResult) (tree : FileTree) (clone : Place) : Prop where
  name : IsEntryName (dialect.commands.packFilename.getD result.lastLine)
  other : dialect.commands.packFilename.getD result.lastLine ≠ Manifest.fileName
  file : ∃ content, tree.get? (clone ++ packaging.packagePath.names ++
    [dialect.commands.packFilename.getD result.lastLine]) = some (.file content)
  accepted : host.Accepts (directory.child (dialect.commands.packFilename.getD result.lastLine)) ∧
    host.Accepts (.ofPlace (clone ++ packaging.packagePath.names ++
      [dialect.commands.packFilename.getD result.lastLine]))

abbrev clonePlace (host : Host) (scratch : Path) (revision : Revision) : Place :=
  host.place scratch ++ [revision.name]

def Works (host : Host) (clone : Place) (argv : List String) (cwd : Path) (tree : FileTree)
    (after : CommandResult → FileTree → Prop) : Prop :=
  ∀ events, ∃ result tree', host.runner.respond events tree ⟨argv, cwd⟩ = (.ok result, tree') ∧
    result.ok ∧ AgreeOutside (clone <+: ·) tree tree' ∧ after result tree'

structure Clones (host : Host) (packaging : Packaging) (reference : String) (revision : Revision)
    (version : Option Version) (dialect : Dialect) (cloned : Place → FileTree → Prop) : Prop where
  apart : ∀ clone, Apart (fun place => ¬clone <+: place) (cloned clone)
  checkout : ∀ clone tree, cloned clone tree → packaging.Checkout version tree clone
  clone : ∀ name ∈ host.randomNames, ∀ tree : FileTree,
    let scratch := host.scratchNamed name
    let place := clonePlace host scratch revision
    tree.Straight place → (∀ other, place <+: other → other ≠ place → tree.get? other = none) →
      Works host place (packaging.repo.cloneCommand reference (scratch.child revision.name)) scratch
        tree fun _ tree' => cloned place tree' ∧ packaging.Fresh dialect tree' place
  step : ∀ name ∈ host.randomNames, ∀ (tree : FileTree) (argv : List String),
    let scratch := host.scratchNamed name
    let place := clonePlace host scratch revision
    argv ∈ [dialect.commands.rename ++ ["name=" ++ packageName revision.name],
      dialect.commands.install, dialect.commands.build] →
    tree.Straight place → cloned place tree →
      Works host place argv (packaging.packageDirectory (scratch.child revision.name)) tree
        fun _ tree' => cloned place tree'
  pack : ∀ name ∈ host.randomNames, ∀ tree : FileTree,
    let scratch := host.scratchNamed name
    let place := clonePlace host scratch revision
    let directory := packaging.packageDirectory (scratch.child revision.name)
    tree.Straight place → cloned place tree →
      Works host place dialect.commands.pack directory tree fun result tree' =>
        packaging.Checkout version tree' place ∧
          packaging.Archived host directory dialect result tree' place

end Packaging

end NextRelease
