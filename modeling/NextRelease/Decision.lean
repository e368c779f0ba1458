import NextRelease.Run.Basic
import NextRelease.Witness

/-!
The decision on the next version of a package. The two references are found first; only if they
stand for different commits are both revisions packed, installed side by side and checked against
each other.
-/

namespace NextRelease

structure Settings where
  errorOnDirty : Bool := true
  errorOnUnreachable : Bool := true
  tagPolicy : TagPolicy := .reachable
  fromRef : Option String := none
  toRef : Option String := none
  checker : String := "tsc"

/-- A reference that the settings name; the empty name counts as none. -/
def Settings.named? : Option String → Option String
  | none | some "" => none
  | some name => some name

inductive Reason where
  | initial
  | unchanged
  | computed
  deriving DecidableEq

def Reason.name : Reason → String
  | initial => "initial"
  | unchanged => "unchanged"
  | computed => "computed"

/-- Whether the current revision can stand in for the previous one, and the other way round. -/
structure Compatibility where
  forwards : Bool
  backwards : Bool
  deriving DecidableEq

structure Decision where
  /-- In normal form. -/
  version : String
  reason : Reason
  previous : Option Reference := none
  current : Option Reference := none
  compatibility : Option Compatibility := none
  deriving DecidableEq

namespace Decision

def initialVersion : String := "0.1.0"

/-- A package in a repository and the settings of the run. -/
structure Subject where
  repo : Repository
  /-- The place of the package, seen from the root of the repository. -/
  packagePath : Path
  settings : Settings
  /-- How deeply a manifest from the history may be nested. -/
  depth : Nat := Manifest.depthLimit - 1

def placeOf? (path : Path) (depth : Nat) : Script (Option Place) :=
  .ask (.resolve path depth) fun
    | .ok place => return some place
    | .error .nullCharacter => return none
    | .error cause => Script.fault (.files cause)

/-- The package in a directory of a repository. Links on the way to either may be nested one level
less than a manifest. -/
def Subject.of (repo : Repository) (directory : Path) (settings : Settings)
    (depth : Nat := Manifest.depthLimit - 1) : Script Subject := do
  let outside : Script Subject :=
    Script.fail (.malformedManifest (.outside (toString directory) (toString repo.rootPath)))
  match ← placeOf? directory (depth - 1) with
  | none => outside
  | some place => do
    match ← placeOf? repo.rootPath (depth - 1) with
    | none => outside
    | some root =>
      if root.isPrefixOf place then return ⟨repo, ⟨0, place.drop root.length⟩, settings, depth⟩
      else outside

namespace Subject

/-- How deeply a manifest may be nested in a strand of its own, whose stack starts anew. -/
def strandDepth : Nat := Manifest.depthLimit - 3

def packaging (s : Subject) : Packaging := ⟨s.repo, s.packagePath, strandDepth⟩

def previousReference (s : Subject) : Script (Option Reference) :=
  match Settings.named? s.settings.fromRef with
  | some name => do return some (← s.repo.resolveReference name "from")
  | none => s.repo.highestVersion s.settings.tagPolicy s.settings.toRef

def currentReference (s : Subject) : Script Reference :=
  match Settings.named? s.settings.toRef with
  | some name => s.repo.resolveReference name "to"
  | none => s.repo.currentReference

end Subject

def tagVersion (reference : Reference) : Except Halt String :=
  match Version.parse? reference.name with
  | some v => .ok (String.ofList v.render)
  | none => .error (.failure (.malformedManifest (.undeclared reference.name)))

def versionOf (declared : Option String) (reference : Reference) : Except Halt String :=
  match declared with
  | some version => .ok version
  | none => tagVersion reference

def versionAt (s : Subject) (reference : Reference) : Script String := do
  let path := toString (s.packagePath.child Manifest.fileName)
  let source := path ++ " at " ++ reference.name
  match ← s.repo.showFile reference.commit path with
  | none => Script.fail (.malformedManifest (.missingSource source))
  | some text =>
    let manifest ← Script.ofExcept (Manifest.parse text source s.depth)
    match Manifest.declaredVersion manifest source with
    | .error cause => Script.fail cause
    | .ok declared => Script.ofExcept (versionOf declared reference)

def compare (s : Subject) (scratch : Path) (previous current : Artifact) : Run Compatibility := do
  Witness.writeWorkspace scratch previous current
  let dialect ← Dialect.detect scratch
  Packaging.install scratch dialect "workspace" true
  let (forwards, backwards) ← Run.both .forward .backward
    (typeCheck s.settings.checker scratch Witness.forwardFile)
    (typeCheck s.settings.checker scratch Witness.backwardFile)
  return ⟨forwards, backwards⟩

def examine (s : Subject) (previous current : Reference) (scratch : Path) :
    Run (Artifact × Artifact × Compatibility) := do
  let (old, new) ← Run.both .previous .current
    (s.packaging.build previous Revision.previous.name scratch)
    (s.packaging.build current Revision.current.name scratch)
  let compatibility ← compare s scratch old new
  return (old, new, compatibility)

def showVerdict (verdict : Bool) : String := if verdict then "True" else "False"

def compute (s : Subject) (previous current : Reference) : Run Decision := do
  let (old, new, compatibility) ←
    Run.withScratch Scratch.stem none (examine s previous current)
  -- a previous revision without a version stops the run only here, after the comparison
  let before ← (Script.ofExcept (versionOf old.version previous) : Script String)
  match Version.decideText before new.version compatibility.forwards compatibility.backwards with
  | .error cause => Run.halt (.fault (.undecided cause))
  | .ok version => do
    Script.info ("forwards=" ++ showVerdict compatibility.forwards ++ " backwards=" ++
      showVerdict compatibility.backwards ++ ": " ++ before ++ " -> " ++ version)
    return ⟨version, .computed, some previous, some current, some compatibility⟩

def ensureClean (s : Subject) : Script Unit := do
  if s.settings.errorOnDirty then
    if ← s.repo.isDirty then
      Script.fail (.dirtyTree (toString s.repo.rootPath))

def ensureReachable (s : Subject) (previous current : Reference) : Script Unit := do
  if s.settings.errorOnUnreachable then
    if !(← s.repo.isDescendant previous current) then
      Script.fail (.unreachable previous.name current.name)

def keep (s : Subject) (previous current : Reference) : Script Decision := do
  let version ← versionAt s previous
  Script.info (previous.name ++ " and " ++ current.name ++
    " are the same commit, keeping " ++ version)
  return ⟨version, .unchanged, some previous, some current, none⟩

def decide (s : Subject) : Run Decision := do
  ensureClean s
  match ← s.previousReference with
  | none => do
    Script.info ("No previous version tag, starting at " ++ initialVersion)
    return ⟨initialVersion, .initial, none, none, none⟩
  | some previous => do
    let current ← s.currentReference
    Script.info ("Comparing " ++ previous.name ++ " (" ++ Repository.shortCommit previous.commit ++
      ") with " ++ current.name ++ " (" ++ Repository.shortCommit current.commit ++ ")")
    if previous.commit = current.commit then
      keep s previous current
    else do
      ensureReachable s previous current
      compute s previous current

end Decision

end NextRelease
