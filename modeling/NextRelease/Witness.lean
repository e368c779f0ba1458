import NextRelease.Package.Artifact

/-!
Witness programs. A witness imports every entry point of both revisions, gathers those of each
revision in one object and passes one object where the type of the other is expected; it type-checks
exactly if the one can stand in for the other.
-/

namespace NextRelease

namespace Witness

def identifier (role : String) (index : Nat) : String := role ++ "_" ++ toString index

/-- The key of an entry point in the object of its revision. -/
def entryKey (entry : Text) : Text :=
  if entry.isEmpty then Text.ofString "." else Text.ofString "./" ++ entry

/-- What is imported for an entry point. -/
def moduleSpecifier (role : String) (entry : Text) : Text :=
  let name := Text.ofString (packageName role)
  if entry.isEmpty then name else name ++ .scalar '/' :: entry

def importLine (role : String) (index : Nat) (entry : Text) : List Char :=
  "import * as ".toList ++ (identifier role index).toList ++ " from ".toList ++
    Json.writeAsciiText (moduleSpecifier role entry) ++ [';']

def importLines (role : String) (entries : List Text) : List (List Char) :=
  entries.mapIdx fun index entry => importLine role index entry

def field (role : String) (index : Nat) (entry : Text) : List Char :=
  Json.writeAsciiText (entryKey entry) ++ ": ".toList ++ (identifier role index).toList

def separated : List (List Char) → List Char
  | [] => []
  | [piece] => piece
  | piece :: pieces => piece ++ ", ".toList ++ separated pieces

def objectLine (role : String) (entries : List Text) : List Char :=
  "const ".toList ++ role.toList ++ " = \x7b ".toList ++
    separated (entries.mapIdx fun index entry => field role index entry) ++ " \x7d;".toList

/-- The line that passes `source` where the type of `target` is expected. -/
def passLine (target source : String) : List Char :=
  "((_: typeof ".toList ++ target.toList ++ "): void => \x7b\x7d)(".toList ++ source.toList ++
    ");".toList

def entrySet (entries : List Text) : List Text :=
  match SortedSet.ofList entries with
  | [] => [[]]
  | entries => entries

def commonLines (previous current : List Text) : List (List Char) :=
  ["\"use strict\";".toList, []] ++ importLines "previous" previous ++ [[]] ++
    importLines "current" current ++ [[]] ++
    [objectLine "previous" previous, objectLine "current" current, []]

def program (previous current : List Text) (target source : String) : List Char :=
  Text.joinWith '\n'
    (commonLines (entrySet previous) (entrySet current) ++ [passLine target source, []])

/-- Type-checks exactly if the current revision can stand in for the previous one. -/
def forward (previous current : List Text) : String :=
  String.ofList (program previous current "previous" "current")

/-- Type-checks exactly if the previous revision can stand in for the current one. -/
def backward (previous current : List Text) : String :=
  String.ofList (program previous current "current" "previous")

def forwardFile : String := "currentFitsPrevious.ts"

def backwardFile : String := "previousFitsCurrent.ts"

def manifest (previous current : Artifact) : Json :=
  let dependency (artifact : Artifact) : Text × Json :=
    (Text.ofString (packageName artifact.role),
      .str (Text.ofString ("file:./" ++ artifact.archive.name)))
  .obj [
    (Text.ofString "name", .str (Text.ofString "liskov-semver-workspace")),
    (Text.ofString "private", .bool true),
    (Text.ofString "dependencies",
      .obj (Fields.ofPairs [dependency previous, dependency current]))]

def manifestText (previous current : Artifact) : String :=
  let form (t : Text) : Text := Text.ofChars (Json.writeAsciiText t)
  let text := Json.writeIndented form 0 (manifest previous current) ++ [.scalar '\n']
  text.toString?.getD ""

def writeWorkspace (scratch : Path) (previous current : Artifact) : Script Unit := do
  Script.writeString (scratch.child Manifest.fileName) (manifestText previous current)
  Script.writeString (scratch.child forwardFile)
    (forward previous.entryPoints current.entryPoints)
  Script.writeString (scratch.child backwardFile)
    (backward previous.entryPoints current.entryPoints)

end Witness

def checkCommand (checker program : String) : List String :=
  [checker, "--noEmit", "--strict", "--skipLibCheck", "--module", "esnext", "--moduleResolution",
    "bundler", "--target", "es2022", program]

def typeCheck (checker : String) (directory : Path) (program : String) : Script Bool := do
  Script.info ("Running " ++ checker ++ " on " ++ toString (directory.child program))
  let result ← Script.run (checkCommand checker program) directory
  let diagnostics := Text.trim (result.out ++ result.err)
  if diagnostics = "" then pure ()
  else
    Script.note .debug (checker ++ " diagnostics for " ++ program ++ ":\n" ++ diagnostics)
  Script.info (checker ++ " on " ++ program ++ ": " ++ if result.ok then "ok" else "failed")
  return result.ok

end NextRelease
