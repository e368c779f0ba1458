import NextRelease.Repository.Basic
import NextRelease.Version.Basic

/-!
References: named points of the history with the commits they stand for, and how the two that are
compared are found.
-/

namespace NextRelease

inductive RefKind where
  | tag
  | branch
  deriving DecidableEq

def RefKind.name : RefKind → String
  | tag => "tag"
  | branch => "branch"

structure Reference where
  name : String
  kind : RefKind
  commit : String
  deriving DecidableEq

/-- Which tags are candidates for the previous version. -/
inductive TagPolicy where
  | reachable
  | all
  deriving DecidableEq

namespace Repository

def versionedNames (names : List String) : List (Version × String) :=
  names.filterMap fun name => (Version.parse? name).map fun v => (v, name)

/-- The tag of the highest version among the candidates, the first one by name if several are level;
`none` if no candidate names a version. -/
def highestVersion (repo : Repository) (policy : TagPolicy) (reachableFrom : Option String) :
    Script (Option Reference) := do
  let mergedInto := match policy with
    | .all => none
    | .reachable => some (match reachableFrom with
      | none | some "" => "HEAD"
      | some reference => reference)
  let names ← repo.tags mergedInto
  match Version.firstMaximal? (versionedNames names) with
  | none => return none
  | some (_, best) =>
    match ← repo.resolveCommit best with
    | none => Script.fail (.invalidReference best "from")
    | some commit => return some ⟨best, .tag, commit⟩

def currentReference (repo : Repository) : Script Reference := do
  match ← repo.currentBranch with
  | none => Script.fail .detachedHead
  | some name =>
    match ← repo.resolveCommit name with
    | none => Script.fail (.invalidReference name "to")
    | some commit => return ⟨name, .branch, commit⟩

/-- The tag, or else the branch, of a given name. -/
def resolveReference (repo : Repository) (name role : String) : Script Reference := do
  let resolve (kind : RefKind) : Script Reference := do
    match ← repo.resolveCommit name with
    | none => Script.fail (.invalidReference name role)
    | some commit => return ⟨name, kind, commit⟩
  if (← repo.tags none).contains name then resolve .tag
  else if (← repo.branches).contains name then resolve .branch
  else Script.fail (.invalidReference name role)

def isDescendant (repo : Repository) (older newer : Reference) : Script Bool :=
  repo.isAncestor older.commit newer.commit

end Repository

end NextRelease
