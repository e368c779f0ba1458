import NextRelease.Package.Dialect
import NextRelease.Package.Manifest
import NextRelease.Repository.Reference

/-!
Artifacts: one revision of the package, cloned, renamed, installed, built and packed. The two
revisions get names of their own so that they can be installed side by side.
-/

namespace NextRelease

/-- The two revisions that are compared. -/
inductive Revision where
  | previous
  | current
  deriving DecidableEq

def Revision.name : Revision → String
  | previous => "previous"
  | current => "current"

def packageName (role : String) : String := "liskov-semver-" ++ role

structure Artifact where
  role : String
  reference : Reference
  /-- In increasing order; the empty name is the root. -/
  entryPoints : List Text
  /-- In normal form; `none` if the manifest declares none. -/
  version : Option String
  archive : Path

/-- Where revisions come from: a repository and the place of the package in it. -/
structure Packaging where
  repo : Repository
  packagePath : Path
  /-- How deeply a manifest that is read here may be nested. -/
  depth : Nat := Manifest.depthLimit - 1

namespace Packaging

def rename (directory : Path) (name : String) (dialect : Dialect) (reference : String) :
    Script Unit := do
  Script.info ("Renaming package in " ++ toString directory ++ " to '" ++ name ++ "'")
  let result ← Script.run (dialect.commands.rename ++ ["name=" ++ name]) directory
  if result.ok then return ()
  else Script.fail (.stage .install reference ("rename: " ++ result.detail))

def install (directory : Path) (dialect : Dialect) (reference : String) (production : Bool) :
    Script Unit := do
  let argv := if production then dialect.commands.installProduction else dialect.commands.install
  Script.info ("Installing dependencies in " ++ toString directory)
  let result ← Script.run argv directory
  if result.ok then Script.info ("Installed dependencies in " ++ toString directory)
  else Script.fail (.stage .install reference result.detail)

def runBuild (directory : Path) (dialect : Dialect) (reference : String)
    (depth : Nat := Manifest.depthLimit - 1) : Script Unit := do
  let manifest ← Manifest.load (directory.child Manifest.fileName) depth
  if Manifest.hasScript manifest (Text.ofString "build") then
    Script.info ("Building package in " ++ toString directory)
    let result ← Script.run dialect.commands.build directory
    if result.ok then Script.info ("Built package in " ++ toString directory)
    else Script.fail (.stage .build reference result.detail)
  else
    Script.info ("No build script in " ++ toString directory ++ ", skipping build")

def pack (directory destination : Path) (dialect : Dialect) (reference : String)
    (depth : Nat := Manifest.depthLimit) : Script Path := do
  Script.info ("Packing package in " ++ toString directory)
  let result ← Script.run dialect.commands.pack directory
  if !result.ok then Script.fail (.stage .pack reference result.detail)
  else
    let filename := dialect.commands.packFilename.getD result.lastLine
    if filename = "" then
      Script.fail (.stage .pack reference "package manager did not report an archive name")
    else
      let packed ← Script.resolve (directory.child filename) depth
      if ← Script.isFile (.ofPlace packed) then
        Script.files (.move packed destination)
        Script.info ("Packed " ++ reference ++ " into " ++ toString destination)
        return destination
      else
        Script.fail (.stage .pack reference
          ("archive " ++ toString (Path.ofPlace packed) ++ " not found"))

def packageDirectory (packaging : Packaging) (clone : Path) : Path :=
  clone.join packaging.packagePath

def archivePath (scratch : Path) (role : String) : Path :=
  scratch.child (packageName role ++ ".tgz")

def build (packaging : Packaging) (reference : Reference) (role : String) (scratch : Path) :
    Script Artifact := do
  let cloneDir := scratch.child role
  Script.files (.makeDirectory cloneDir)
  packaging.repo.clone reference.name cloneDir
  let directory := packaging.packageDirectory cloneDir
  let manifestPath := directory.child Manifest.fileName
  let _ ← Manifest.load manifestPath packaging.depth
  let dialect ← Dialect.detect directory
  Script.info ("Using " ++ dialect.name ++ " for " ++ reference.name)
  rename directory (packageName role) dialect reference.name
  install directory dialect reference.name false
  runBuild directory dialect reference.name (packaging.depth - 1)
  let archive ← pack directory (archivePath scratch role) dialect reference.name
    packaging.depth
  -- the manifest is read again: building may have rewritten it
  let manifest ← Manifest.load manifestPath packaging.depth
  let source := Manifest.fileName ++ " at " ++ reference.name
  match Manifest.declaredVersion manifest source with
  | .error cause => Script.fail cause
  | .ok version =>
    return { role, reference, entryPoints := Manifest.entryPoints manifest, version, archive }

end Packaging

end NextRelease
