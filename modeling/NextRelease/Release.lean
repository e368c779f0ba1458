import NextRelease.Decision
import NextRelease.Text.Terminal

/-!
The release command: decide on a version, check the one that was proposed, write it into the
manifest, tag it and report it. Every failure is one line and exit status one.
-/

namespace NextRelease

namespace Release

/-- What is asked for. -/
structure Order where
  directory : Path
  settings : Settings := {}
  /-- The proposed version; it must not be lower than the one decided on. -/
  expected : Option String := none
  update : Bool := false
  tag : Bool := false
  silent : Bool := false
  /-- How deeply the manifest may be nested where the command reads it first; all other limits of
  the run follow from it. -/
  depth : Nat := Manifest.depthLimit - 1

structure Report where
  exit : Nat
  out : String := ""
  err : String := ""
  deriving DecidableEq

inductive Refused where
  | tooLow (expected computed : String)
  | incomparable

def checkExpected (computed : String) (expected : Option String) : Except Refused String :=
  match expected with
  | none => .ok computed
  | some text =>
    match Version.parse? text with
    | none => .error (.tooLow text computed)
    | some proposed =>
      match Version.parse? computed with
      | none => .error .incomparable
      | some required =>
        if proposed.isBelow required then .error (.tooLow text computed)
        else .ok (String.ofList proposed.render)

def Refused.halt : Refused → Halt
  | tooLow expected computed => .failure (.versionTooLow expected computed)
  | incomparable => .fault .incomparable

def isLevelTag (version name : String) : Bool :=
  match Version.parse? name, Version.parse? version with
  | some v, some w => v.isLevelWith w
  -- two texts that are no versions compare as equal
  | none, none => true
  | _, _ => false

def createVersionTag (repo : Repository) (current : Option Reference) (version : String)
    (settings : Settings) : Script Unit := do
  if (← repo.tags none).any (isLevelTag version) then
    Script.info ("Tag " ++ version ++ " already exists, not tagging")
  else
    match current with
    | some reference => repo.createTag version reference.commit
    | none => do
      let name := (Settings.named? settings.toRef).getD "HEAD"
      repo.createTag version ((← repo.resolveCommit name).getD "HEAD")

def perform (order : Order) (directory : Path) : Run String := do
  let manifestPath := directory.child Manifest.fileName
  let repo ← Repository.discover directory order.depth
  let _ ← Manifest.load manifestPath order.depth
  let subject ← Decision.Subject.of repo directory order.settings (order.depth - 1)
  let decision ← Decision.decide subject
  let version ←
    (Script.ofExcept ((checkExpected decision.version order.expected).mapError Refused.halt) :
      Script String)
  if order.update then
    Manifest.writeVersion manifestPath version order.depth
    Script.info ("Updated " ++ toString manifestPath ++ " to " ++ version)
  if order.tag then
    createVersionTag repo decision.current version order.settings
  return version

def errorLine (message : String) : String := Text.terminalLine ("error: " ++ message)

/-- Performs the command and reports; only what is no failure stops the run. -/
def run (order : Order) : Run Report := do
  let place ← Script.resolve order.directory (order.depth + 1)
  match ← (perform order (.ofPlace place)).attempt with
  | .ok version => return { exit := 0, out := if order.silent then "" else version ++ "\n" }
  | .error (.failure cause) => return { exit := 1, err := errorLine cause.message }
  | .error cause => Run.halt cause

end Release

end NextRelease
