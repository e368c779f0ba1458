import NextRelease.CommandLine.Invocation
import NextRelease.CommandLine.Scene

/-!
The command line. The files, the environment and the answers of external commands are read from
standard input as the description of a scene; the log is not shown.
-/

namespace NextRelease.Main

open NextRelease

def host (scene : Json) : Host :=
  let cwd := (Path.ofString ((Scene.stringField? scene "cwd").getD "/")).names
  { runner := .scripted id cwd (Scene.rules id scene)
    cwd
    temporary := .ofString ((Scene.stringField? scene "temporary").getD "/tmp")
    randomNames := (List.range 100).map fun n => "scratch" ++ toString n }

def files (scene : Json) (host : Host) : FileTree :=
  let tree := Scene.plant [] .empty scene
  let tree := (tree.makeDirectories host.cwd).toOption.getD tree
  (tree.makeDirectories host.temporary.names).toOption.getD tree

def report (args : List String) (scene : Json) : Release.Report :=
  let host := host scene
  let run : Run Release.Report := do
    let meaning ← (CommandLine.interpret args (Scene.stringFields scene "env") : Script _)
    meaning.run
  match (run host { files := files scene host }).1 with
  | .ok report => report
  | .error _ => { exit := 1, err := "error: unexpected condition\n" }

end NextRelease.Main

def main (args : List String) : IO UInt32 := do
  let text ← (← IO.getStdin).readToEnd
  let scene := (NextRelease.Json.read text.toList).toOption.getD .null
  let report := NextRelease.Main.report args scene
  IO.print report.out
  IO.eprint report.err
  return UInt32.ofNat report.exit
