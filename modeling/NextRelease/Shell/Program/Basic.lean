import NextRelease.Shell.Process
import NextRelease.Shell.Tool.Basic

/-!
Programs: where they are found, what their files hold, and how one program starts another one.
-/

namespace NextRelease.Shell

inductive Program where
  | system (name : String)
  | script (interpreter : Octets) (word : Option Octets)

def interpreterOf (text : Octets) : Program :=
  match text with
  | '#' :: '!' :: cs =>
    let line := (cs.takeWhile (· != '\n')).dropWhile isBlank
    let interpreter := line.takeWhile fun c => !isBlank c
    let word := (line.drop interpreter.length).dropWhile isBlank
    .script interpreter (if word.isEmpty then none else some word)
  | _ => .script "/bin/sh".toList none

def Machine.programAt (m : Machine) (path : Octets) : Except FileFault Program := do
  match ← m.status? path with
  | .file => do
    let place ← m.files.locate (m.route path)
    if !m.files.mayRun place then throw .notPermitted
    match FileTree.systemProgram? place with
    | some name => return .system name
    | none => return interpreterOf (ofBytes (← m.files.read (m.route path)))
  | _ => throw .notPermitted

def Machine.findIn (m : Machine) (name : Octets) (fault : FileFault) :
    List Octets → Except FileFault (Octets × Program)
  | [] => .error fault
  | directory :: directories =>
    let path := (if directory.isEmpty then ['.'] else directory) ++ '/' :: name
    match m.programAt path with
    | .ok program => .ok (path, program)
    | .error .notFound | .error .notADirectory => m.findIn name fault directories
    | .error fault => m.findIn name fault directories

def Machine.searchPath (m : Machine) : List Octets :=
  match m.value? "PATH".toList with
  | some path => Text.splitOn ':' path
  | none => []

def Machine.findProgramIn (m : Machine) (directories : List Octets) (word : Octets) :
    Except FileFault (Octets × Program) :=
  if word.contains '/' then (m.programAt word).map (word, ·)
  else m.findIn word .notFound directories

def Machine.findProgram (m : Machine) (word : Octets) : Except FileFault (Octets × Program) :=
  m.findProgramIn m.searchPath word

def Machine.losesOutput (m : Machine) : Bool :=
  match m.channel? 1 with
  | none | some (.device .full) => true
  | _ => false

def lossReport (name reason : Octets) : List Octets × Nat :=
  let named (text : String) : Octets := name ++ ": ".toList ++ text.toList
  let simple (status : Nat) : List Octets × Nat := ([named "write error: " ++ reason], status)
  match String.ofList (((Text.splitOn '/' name).getLast?).getD name) with
  | "sort" => ([named "fflush failed: 'standard output': " ++ reason, named "write error"], 2)
  | "sed" =>
    let work := if reason = fullText then "couldn't flush stdout: " else "couldn't close stdout: "
    ([named work ++ reason], 4)
  | "find" =>
    let more := if reason = fullText then [] else ": ".toList ++ reason
    ([named "" ++ Tool.inQuotes "standard output".toList ++ ": ".toList ++ reason,
      named "write error" ++ more], 1)
  | "perl" => (["Unable to flush stdout: ".toList ++ reason], 1)
  | "diff" => ([named "standard output: " ++ reason], 2)
  | "rev" => if reason = fullText then simple 1 else ([], 0)
  | "env" => simple 125
  | "ls" | "dir" | "vdir" | "grep" | "printenv" => simple 2
  | _ => simple 1

def runTool (mode : Mode) (tool : Tool) (name : Octets) (arguments : List Octets) : Act Unit := do
  modify fun m => { m with lost := none }
  let result ← (tool name arguments).attempt
  afterEnd mode result
  let m ← get
  match m.lost with
  | some reason =>
    if m.losesOutput then
      let (texts, status) := lossReport name reason
      texts.forM fun text => printError (text ++ ['\n'])
      if !texts.isEmpty then finish status
  | none => pure ()

abbrev Caller := Mode → (path : Octets) → Program → (name : Octets) → List Octets → Act Unit

def fateOf (result : Except Stop Unit) : Act Fate := do
  match result with
  | .error (.killed signal) => return .signal signal
  | .error (.expired process signal) => throw (.expired process signal)
  | _ => return .status (← get).status

def awaitCall (call : Caller) (path : Octets) (program : Program) (name : Octets)
    (arguments : List Octets) : Act Fate := do
  let traps := (← get).traps
  modify fun m => { m with traps := [] }
  let result ← (call { last := true } path program name arguments).attempt
  modify fun m => { m with traps }
  fateOf result

/-- Starts a program for another one, which waits for it; `none` if there is no such program. -/
def startFor (call : Caller) (name : Octets) (directory : Option Place) (words : List Octets) :
    Act (Option Nat) := do
  let word := words.head?.getD []
  let outer ← get
  let here := match directory with
    | some place => { outer with cwd := place, logical := place }
    | none => outer
  match here.findProgram word with
  | .error fault => do
    Tool.report name (Tool.inQuotes word ++ ": ".toList ++ Tool.faultText fault)
    return none
  | .ok (path, found) => do
    set here
    let fate ← awaitCall call path found word (words.drop 1)
    modify fun m => { m with cwd := outer.cwd, logical := outer.logical, status := outer.status }
    match fate with
    | .signal signal =>
      Tool.report name (Tool.inQuotes word ++ " terminated by signal ".toList ++ natText signal)
      return some (128 + signal)
    | .status status => return some status

def runLine (call : Caller) (name : String) (text : Octets) : Act Fate := do
  let outer ← get
  let fate ← awaitCall call "/bin/sh".toList (.system "dash") name.toList ["-c".toList, text]
  modify fun m => { m with status := outer.status }
  return fate

def runWords (call : Caller) (words : List Octets) : Act (Option Fate) := do
  let word := words.head?.getD []
  let outer ← get
  match outer.findProgram word with
  | .error _ => return none
  | .ok (path, found) => do
    let fate ← awaitCall call path found word (words.drop 1)
    modify fun m => { m with status := outer.status }
    return some fate

end NextRelease.Shell
