import NextRelease.Run.Script
import NextRelease.SortedSet
import NextRelease.Text.Basic

/-!
A repository and what can be asked of it. All but `clone`, which fills a directory of its own, and
`createTag` only look.
-/

namespace NextRelease

structure Repository where
  root : Place
  deriving DecidableEq

namespace Repository

def discover (directory : Path) (depth : Nat := Nesting.limit - 1) : Script Repository := do
  let result ← Script.run ["git", "rev-parse", "--show-toplevel"] directory
  let root := Text.trim result.out
  if !result.ok || root == "" then
    Script.fail (.notARepository (toString directory))
  else
    return ⟨← Script.resolve (.ofString root) depth⟩

def rootPath (repo : Repository) : Path := .ofPlace repo.root

def git (repo : Repository) (args : List String) : Script CommandResult :=
  Script.run ("git" :: args) repo.rootPath

/-- The names that a listing prints, one a line; none if the listing fails. -/
def listedNames (result : CommandResult) : List String :=
  if result.ok then
    SortedSet.ofList (((Text.lines result.out).map Text.trim).filter (· != ""))
  else []

/-- All tags, or those merged into a reference, in increasing order. -/
def tags (repo : Repository) (mergedInto : Option String) : Script (List String) := do
  let merged := match mergedInto with
    | some reference => ["--merged", reference]
    | none => []
  return listedNames (← repo.git (["tag", "--list"] ++ merged))

def branches (repo : Repository) : Script (List String) := do
  return listedNames (← repo.git ["branch", "--list", "--format=%(refname:short)"])

def answer? (result : CommandResult) : Option String :=
  let text := Text.trim result.out
  if result.ok && text != "" then some text else none

def currentBranch (repo : Repository) : Script (Option String) := do
  return answer? (← repo.git ["branch", "--show-current"])

def resolveCommit (repo : Repository) (reference : String) : Script (Option String) := do
  return answer? (← repo.git ["rev-parse", "--verify", "--quiet", reference ++ "^\x7bcommit\x7d"])

def isAncestor (repo : Repository) (older newer : String) : Script Bool := do
  return (← repo.git ["merge-base", "--is-ancestor", older, newer]).ok

def isDirty (repo : Repository) : Script Bool := do
  let result ← repo.git ["status", "--porcelain"]
  return !(result.ok && Text.trim result.out == "")

def showFile (repo : Repository) (reference path : String) : Script (Option String) := do
  let result ← repo.git ["show", reference ++ ":" ++ path]
  return if result.ok then some result.out else none

def rootUri (repo : Repository) : String :=
  -- a plain path would be cloned with its whole history
  "file://" ++ Text.percentEncode (toString repo.rootPath)

def cloneCommand (repo : Repository) (reference : String) (target : Path) : List String :=
  ["git", "clone", "--branch", reference, "-c", "advice.detachedHead=false", "--depth", "1",
    "--single-branch", "--no-tags", "--recurse-submodules", "--shallow-submodules", "--",
    repo.rootUri, toString target]

def clone (repo : Repository) (reference : String) (target : Path) : Script Unit := do
  let shown := toString repo.rootPath ++ "@" ++ reference
  Script.info ("Cloning " ++ shown ++ " into " ++ toString target)
  let result ← Script.run (repo.cloneCommand reference target) target.parent
  if result.ok then Script.info ("Cloned " ++ shown)
  else Script.fail (.stage .clone reference result.detail)

def shortCommit (commit : String) : String := String.ofList (commit.toList.take 12)

def createTag (repo : Repository) (name commit : String) : Script Unit := do
  let result ← repo.git ["tag", name, commit]
  if result.ok then Script.info ("Created tag " ++ name ++ " at " ++ shortCommit commit)
  else Script.fail (.stage .tag name result.detail)

end Repository

end NextRelease
