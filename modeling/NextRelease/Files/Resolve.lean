import NextRelease.Files.Tree
import NextRelease.Nesting

/-!
Resolving paths: links and `..` are taken out of a path whether or not what it names exists. A link
that is met again on its own way is left where it stands, with all that follows it. Links that lead
to links are followed to a limit.
-/

namespace NextRelease

namespace Path

def above (p : Path) : Path :=
  match p.names.getLast? with
  | none => if p.isAbsolute then p else ⟨0, [".."]⟩
  | some ".." => ⟨p.slashes, p.names ++ [".."]⟩
  | some _ => p.parent

def below (p : Path) (names : List String) : Path := ⟨p.slashes, p.names ++ names⟩

end Path

namespace FileTree

def collapse (names : List String) : Place :=
  names.foldl (fun here name => if name = ".." then here.dropLast else here ++ [name]) []

inductive Step where
  | name (name : String)
  | arrived (link : Path)

def namesOf (steps : List Step) : List String :=
  steps.filterMap fun
    | .name name => some name
    | .arrived _ => none

def openLinks (steps : List Step) : Nat :=
  steps.countP fun
    | .name _ => false
    | .arrived _ => true

abbrev Visits := List (Path × Option Path)

def linkTarget? (tree : FileTree) (cwd : Place) (path : Path) : Option Path :=
  match tree.get? (collapse (path.fromRoot cwd)) with
  | some (.link target) => some (.ofString target)
  | _ => none

def followSteps (tree : FileTree) (cwd : Place) (depth : Nat)
    (onLink : Visits → Path → List Step → Except FileFault Path) :
    Visits → Path → List Step → Except FileFault Path
  | _, here, [] => .ok here
  | visits, here, .arrived link :: steps =>
    followSteps tree cwd depth onLink ((link, some here) :: visits) here steps
  | visits, here, .name name :: steps =>
    if name = ".." then followSteps tree cwd depth onLink visits here.above steps
    else if name.toList.contains (Char.ofNat 0) then .error .nullCharacter
    else
      let next := here.below [name]
      match linkTarget? tree cwd next with
      | none => followSteps tree cwd depth onLink visits next steps
      | some target =>
        match visits.lookup next with
        | some (some there) => followSteps tree cwd depth onLink visits there steps
        | some none => .ok (next.below (namesOf steps))
        | none =>
          if depth ≤ openLinks steps then .error .linksTooDeep
          else
            let start : Path := if target.isAbsolute then ⟨1, []⟩ else here
            onLink ((next, none) :: visits) start
              (target.names.map .name ++ .arrived next :: steps)

def followLinks (tree : FileTree) (cwd : Place) (depth : Nat) :
    Nat → Visits → Path → List Step → Except FileFault Path
  | 0, _, start, steps => .ok (start.below (namesOf steps))
  | links + 1, visits, start, steps =>
    followSteps tree cwd depth (followLinks tree cwd depth links) visits start steps

def follow (tree : FileTree) (cwd : Place) (path : Path) (depth : Nat) : Except FileFault Path :=
  followSteps tree cwd depth (followLinks tree cwd depth (tree.entries.length + 2)) []
    ⟨min path.slashes 1, []⟩ (path.names.map .name)

/-- The place that a path stands for; links that lead nowhere but to themselves are a fault, and so
are more than `depth` of them that lead into one another. -/
def resolve (tree : FileTree) (cwd : Place) (path : Path) (depth : Nat := Nesting.limit) :
    Except FileFault Place := do
  let place := collapse ((← tree.follow cwd path depth).fromRoot cwd)
  match tree.locate place with
  | .error .tooManyLinks => throw .linkLoop
  | .error .nullCharacter => throw .nullCharacter
  | _ => return place

end FileTree

end NextRelease
