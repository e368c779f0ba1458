import NextRelease.Files.Resolve
import NextRelease.Json.Reader
import NextRelease.Json.Writer
import NextRelease.Version.Bump

/-!
What stops a run. A `Failure` is reported to the user as one line; a `Fault` is a condition that no
report foresees. Both are causes; the wording is in `message`.
-/

namespace NextRelease

/-- The stages in which a command run for a reference may fail. -/
inductive Stage where
  | unnamed
  | clone
  | install
  | build
  | pack
  | tag
  deriving DecidableEq

def Stage.name : Stage → String
  | unnamed => "stage"
  | clone => "clone"
  | install => "install"
  | build => "build"
  | pack => "pack"
  | tag => "tag"

inductive ManifestProblem where
  | missing (path : String)
  | missingSource (source : String)
  | malformed (source located : String)
  | notAnObject (source : String)
  | invalidVersion (value : Json) (source : String)
  | undeclared (reference : String)
  | outside (path root : String)
  | described (text : String)

def ManifestProblem.message : ManifestProblem → String
  | missing path => "no package.json found at " ++ path
  | missingSource source => "no " ++ source
  | malformed source located => "malformed " ++ source ++ ": " ++ located
  | notAnObject source => "malformed " ++ source ++ ": not an object"
  | invalidVersion value source =>
    "invalid version " ++ String.ofList value.display ++ " in " ++ source
  | undeclared reference =>
    "no declared version for " ++ reference ++ " and its name is not a version"
  | outside path root => path ++ " is outside the repository at " ++ root
  | described text => text

inductive Failure where
  | general (text : String)
  | environment (text : String)
  | notARepository (path : String)
  | detachedHead
  | toolNotFound (program : String)
  | dirtyTree (root : String)
  | unreachable (older newer : String)
  | invalidReference (name role : String)
  | malformedManifest (problem : ManifestProblem)
  | versionTooLow (expected computed : String)
  | stage (stage : Stage) (reference detail : String)

def Failure.message : Failure → String
  | general text => text
  | environment text => text
  | notARepository path => "cannot determine git root for " ++ path
  | detachedHead => "no current branch (detached HEAD?), pass --to explicitly"
  | toolNotFound program => "cannot run '" ++ program ++ "': executable not found"
  | dirtyTree root => "dirty working tree in " ++ root
  | unreachable older newer => "'" ++ newer ++ "' is not reachable from '" ++ older ++ "'"
  | invalidReference name role => "not a valid \"" ++ role ++ "\" ref [" ++ name ++ "]"
  | malformedManifest problem => problem.message
  | versionTooLow expected computed =>
    "version " ++ expected ++ " is lower than the required " ++ computed
  | stage s reference detail =>
    "failed to " ++ s.name ++ " " ++ reference ++ if detail.isEmpty then "" else ": " ++ detail

/-! ## Failures made from values -/

def Json.spelled : Json → String
  | .str text => (text.toString?).getD ""
  | value => String.ofList value.display

def Json.spelledAll : List Json → String
  | [] => ""
  | [value] => value.spelled
  | values => "(" ++ ", ".intercalate (values.map fun v => String.ofList v.display) ++ ")"

inductive FailureKind where
  | general
  | environment
  | malformedManifest
  | notARepository
  | detachedHead
  | toolNotFound
  | dirtyTree
  | unreachable
  | invalidReference
  | versionTooLow
  | stage (stage : Stage)
  deriving DecidableEq

def FailureKind.parameters : FailureKind → List String
  | general | environment | malformedManifest | detachedHead => []
  | notARepository => ["path"]
  | toolNotFound => ["program"]
  | dirtyTree => ["root"]
  | unreachable => ["older", "newer"]
  | invalidReference => ["name", "role"]
  | versionTooLow => ["expected", "computed"]
  | stage _ => ["reference", "detail"]

def Failure.ofValues? : FailureKind → List Json → Option Failure
  | .general, values => some (.general (Json.spelledAll values))
  | .environment, values => some (.environment (Json.spelledAll values))
  | .malformedManifest, values => some (.malformedManifest (.described (Json.spelledAll values)))
  | .notARepository, [path] => some (.notARepository path.spelled)
  | .detachedHead, [] => some .detachedHead
  | .toolNotFound, [program] => some (.toolNotFound program.spelled)
  | .dirtyTree, [root] => some (.dirtyTree root.spelled)
  | .unreachable, [older, newer] => some (.unreachable older.spelled newer.spelled)
  | .invalidReference, [name, role] => some (.invalidReference name.spelled role.spelled)
  | .versionTooLow, [expected, computed] => some (.versionTooLow expected.spelled computed.spelled)
  | .stage s, [reference] => some (.stage s reference.spelled "")
  | .stage s, [reference, detail] =>
    some (.stage s reference.spelled (if detail.isTruthy then detail.spelled else ""))
  | _, _ => none

inductive Fault where
  | undecodable
  | unencodable
  | files (fault : FileFault)
  | numeralTooLong (count : Nat)
  | nestingTooDeep
  | undecided (cause : Version.Undecided)
  | incomparable
  | noCalls
  | noProgram
  | unsetVariable (name : String)
  | notANumber (text : String)
  | noWord
  | withdrawn

def Fault.message? : Fault → Option String
  | numeralTooLong count => some (Text.numeralTooLongToRead count)
  | undecided cause => some cause.message
  | noCalls => some "max_workers must be greater than 0"
  | notANumber text =>
    let shown := String.ofList ((Text.quote text).toList.take 200)
    some ("invalid literal for int() with base 10: " ++ shown)
  | files .nullCharacter => some "embedded null byte"
  | _ => none

/-- Why a run stopped early. -/
inductive Halt where
  | failure (cause : Failure)
  | fault (cause : Fault)
  | interrupted

end NextRelease
