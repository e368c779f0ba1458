import NextRelease.Run.Script
import NextRelease.SortedSet
import NextRelease.Version.Basic

/-!
Manifests: the JSON object that describes a package, its typed entry points, its declared version
and its scripts. The root entry point is the empty name.
-/

namespace NextRelease

namespace Manifest

def fileName : String := "package.json"

def parse (text : String) (source : String) (depth : Nat := Nesting.limit) :
    Except Halt Fields :=
  let malformed (problem : ManifestProblem) :=
    Except.error (Halt.failure (.malformedManifest problem))
  match Json.read text.toList depth with
  | .ok (.obj fields) => .ok fields
  | .ok _ => malformed (.notAnObject source)
  | .error (.malformed fault rest) => malformed (.malformed source (fault.located text.toList rest))
  | .error (.tooManyDigits count) => .error (.fault (.numeralTooLong count))
  | .error .tooDeep => .error (.fault .nestingTooDeep)

/-- How deeply a manifest file may be nested if nothing else stands on the stack. Whatever leads to
the reading takes levels away. -/
def depthLimit : Nat := Nesting.limit - 1

/-- Reads the manifest file at a path. -/
def load (path : Path) (depth : Nat := depthLimit) : Script Fields := do
  if ← Script.isFile path then
    Script.ofExcept (parse (← Script.readText path) (toString path) depth)
  else
    Script.fail (.malformedManifest (.missing (toString path)))

def trimSlashes (t : Text) : Text :=
  let isSlash (p : CodePoint) : Bool := p == .scalar '/'
  ((t.dropWhile isSlash).reverse.dropWhile isSlash).reverse

/-- The entry point that an export key names; `none` for a pattern. -/
def entryOfKey? (key : Text) : Option Text :=
  if key.contains (.scalar '*') then none
  else if key = Text.ofString "." ∨ key = Text.ofString "./" then some []
  else
    some <| trimSlashes <|
      match key with
      | .scalar '.' :: .scalar '/' :: rest => rest
      | _ => key

def fieldsOf : Json → Fields
  | .obj fields => fields
  | _ => []

def isTyped (value : Json) : Bool := (fieldsOf value).contains (Text.ofString "types")

def isSubpath (key : Text) : Bool := key.head? == some (.scalar '.')

def exportedEntries (exported : Fields) : List Text :=
  if exported.any fun field => isSubpath field.1 then
    -- a condition beside subpaths is read as one more subpath
    exported.filterMap fun field => if isTyped field.2 then entryOfKey? field.1 else none
  else if exported.contains (Text.ofString "types") then [[]]
  else []

/-- The entry points in increasing order, never none. -/
def entryPoints (manifest : Fields) : List Text :=
  let root : List Text :=
    if manifest.contains (Text.ofString "types") || manifest.contains (Text.ofString "typings") then
      [[]]
    else []
  let exported := fieldsOf ((manifest.get? (Text.ofString "exports")).getD .null)
  match SortedSet.ofList (root ++ exportedEntries exported) with
  | [] => [[]]
  | entries => entries

def declaredVersion (manifest : Fields) (source : String) : Except Failure (Option String) :=
  let read (value : Json) : Option Version :=
    match value with
    | .str t => t.toString?.bind Version.parse?
    | _ => none
  match manifest.get? (Text.ofString "version") with
  -- `null` counts as not declared
  | none | some .null => .ok none
  | some value =>
    match read value with
    | some v => .ok (some (String.ofList v.render))
    | none => .error (.malformedManifest (.invalidVersion value source))

def hasScript (manifest : Fields) (name : Text) : Bool :=
  let scripts := fieldsOf ((manifest.get? (Text.ofString "scripts")).getD .null)
  ((scripts.get? name).getD .null).isTruthy

def withVersion (manifest : Fields) (version : String) : Text :=
  Json.document (.obj (manifest.set (Text.ofString "version") (.str (Text.ofString version))))

/-- Writes a version into the manifest file at a path, which is read anew, one level further on the
stack than `depth` counts from. A manifest with half a surrogate pair has no file text, and the
file is left empty. -/
def writeVersion (path : Path) (version : String) (depth : Nat := depthLimit) : Script Unit := do
  let manifest ← load path (depth - 1)
  match (withVersion manifest version).toString? with
  | some text => Script.writeString path text
  | none => do
    Script.writeBytes path .empty
    Script.fault .unencodable

end Manifest

end NextRelease
