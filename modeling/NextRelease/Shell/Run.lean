import NextRelease.Shell.Call

/-!
Running commands. What a command does is told in terms of how the commands in it are run, so that
the depth of commands in commands is the only bound that is needed besides the turns of loops.
-/

namespace NextRelease.Shell

/-! ## Simple commands -/

def expandCommand (go : Runner) (words : List Word) : Act (List Octets) :=
  words.foldlM
    (fun fields word => do
      let name := (fields.dropWhile (· == "command".toList)).head?.getD []
      match if declares name then assignment? word else none with
      | some (.mk key value) =>
        return fields ++ [key ++ '=' :: (← expandValue (substitute go) value)]
      | none => return fields ++ (← expandWord (substitute go) word))
    []

def assignAll (go : Runner) (mark : Variable → Variable) :
    List Assignment → Act (List Octets)
  | [] => return []
  | .mk name value :: assignments => do
    let text ← expandValue (substitute go) value
    assign name text
    modify fun m => m.setVariable name (some (mark ((m.bindings.lookup name).getD {})))
    return (name ++ '=' :: text) :: (← assignAll go mark assignments)

def assignedNames (assignments : List Assignment) : List Octets :=
  assignments.map fun
    | .mk name _ => name

def trace (channel : Option Channel) (words : List Octets) : Act Unit := do
  let m ← get
  if m.hasOption 'x' then
    let front := (m.value? "PS4".toList).getD "+ ".toList
    match channel with
    | some channel => set (m.put channel (front ++ Text.joinWith ' ' words ++ ['\n']))
    | none => pure ()

def withAssignments (go : Runner) (assignments : List Assignment) (act : List Octets → Act Unit) :
    Act Unit := do
  let before ← get
  let restore : Act Unit :=
    (assignedNames assignments).forM fun name =>
      modify fun m => m.setVariable name (before.bindings.lookup name)
  let run : Act Unit := do
    act (← assignAll go (fun v => { v with exported := true }) assignments)
  let restoreAll : Act Unit := do
    restore
    if (assignedNames assignments).contains "PATH".toList then
      modify fun m => { m with remembered := before.remembered }
  if assignments.isEmpty then act [] else run.andFinally restoreAll

def runSimple (go : Runner) (mode : Mode) (line : Nat) (assignments : List Assignment)
    (words : List Word) (redirects : List Redirect) : Act Unit := do
  modify fun m => { m with line, substituted := 0 }
  let words ← expandCommand go words
  let channel := (← get).channel? 2
  match words with
  | [] =>
    withRedirects go redirects (finish 2) do
      let texts ← assignAll go id assignments
      if !texts.isEmpty then trace channel texts
      modify fun m => { m with status := m.substituted }
  | name :: arguments => do
    let m ← get
    let isFunction := (m.functions.lookup name).isSome
    let special := !isFunction && isSpecial name
    let refused : Act Unit := do
      finish 2
      if special then throw .failed
    if name = "exec".toList && arguments.isEmpty && !isFunction then
      openAll go (← expandRedirects go redirects)
      let texts ← assignAll go id assignments
      trace channel (texts ++ words)
      finish 0
    else
      withRedirects go redirects refused do
        if special && name != "local".toList then
          let texts ← assignAll go id assignments
          trace channel (texts ++ words)
          runNamed go mode name arguments
        else
          withAssignments go assignments fun texts => do
            trace channel (texts ++ words)
            runNamed go mode name arguments

/-! ## Compound commands -/

def checkStatus (mode : Mode) : Act Unit := do
  let m ← get
  if m.hasOption 'e' && !mode.tested && m.status != 0 then throw .exit

def answerSignals (go : Runner) : Act Unit := do
  let m ← get
  if !m.pending.isEmpty then
    set { m with pending := [] }
    m.pending.forM fun signal => do
      match (← get).traps.lookup signal with
      | some text => do
        let status := (← get).status
        runText go {} text
        finish status
      | none => pure ()

def stageName? : Node → Option Octets
  | .simple _ _ ([.literal text false] :: _) _ => if isName text then some text else none
  | _ => none

def rememberStage (node : Node) : Act Unit := do
  match stageName? node with
  | some name => do
    let m ← get
    if (m.functions.lookup name).isNone && !isBuiltin name then remember name
  | none => pure ()

/-- Runs the stages of a pipeline one after the other, each on what the one before has printed. A
stage that would have read more would have printed more, too. All stages start at the same time, and
the pipeline is through when all of them are. -/
def runStages (go : Runner) (start : Int) : (input : Option Channel) → List Node → Act Unit
  | _, [] => return ()
  | input, node :: nodes => do
    let latest := (← get).files.now
    rememberStage node
    modify fun m => { m with files := { m.files with now := start } }
    let read : Act Unit := match input with
      | some channel => modify fun m => m.connect 0 (some channel)
      | none => pure ()
    let close : Act Unit := match input with
      | some channel => modify fun m => m.closeStream channel
      | none => pure ()
    let catchUp : Act Unit := modify fun m => { m with
      files := { m.files with now := max latest m.files.now } }
    match nodes with
    | [] => do
      inProcess go {} do
        read
        go { last := true } node
      close
      catchUp
    | _ => do
      let m ← get
      let (m, channel) := m.newStream { text := [], capacity := some m.capacity }
      set m
      fillStream channel <| inProcess go {} do
        read
        modify fun m => m.connect 1 (some channel)
        go { last := true } node
      close
      catchUp
      let m ← get
      set { if m.starved then m.cutStream channel else m with starved := false }
      runStages go start (some channel) nodes

/-- Runs a pipeline. If its last stage lacks input because the streams hold too little, or another
one lacks the end of its input, all is done again with streams that hold more. -/
def runPipeline (go : Runner) (nodes : List Node) : (capacities : List Nat) → Act Unit
  | [] => do runStages go (← get).files.now none nodes
  | capacity :: more => do
    let before ← get
    if capacity < before.capacity then runPipeline go nodes more
    else
      set { before with capacity, starved := false, lacksEnd := false }
      let result ← (runStages go before.files.now none nodes).attempt
      let after ← get
      if (after.starved || after.lacksEnd) && !more.isEmpty then
        set before
        runPipeline go nodes more
      else
        set { after with
          capacity := before.capacity, starved := before.starved || after.starved
          lacksEnd := before.lacksEnd || after.lacksEnd }
        ExceptT.mk (pure result)

def capacities : List Nat := [65536, 1048576, 16777216]

inductive Turn where
  | more
  | over
  deriving DecidableEq

def runTurn (act : Act Unit) : Act Turn := do
  match ← act.attempt with
  | .ok () => return .more
  | .error (.broken levels) => if 1 < levels then throw (.broken (levels - 1)) else return .over
  | .error (.continued levels) =>
    if 1 < levels then throw (.continued (levels - 1)) else return .more
  | .error stop => throw stop

def inLoop (act : Act Unit) : Act Unit := do
  let loops := (← get).loops
  modify fun m => { m with loops := loops + 1 }
  act.andFinally (modify fun m => { m with loops })

def turnLimit : Nat := 1000000

def runRepeated (go : Runner) (mode : Mode) (whileFails : Bool) (test body : Node) :
    (turns : Nat) → (status : Nat) → Act Unit
  -- a loop that comes this far is taken for one without an end
  | 0, status => do
    waitForEver
    finish status
  | turns + 1, status => do
    let mut goesOn := false
    let turn ← runTurn (go { tested := true } test)
    if turn = .over then finish 0
    else
      goesOn := ((← get).status == 0) != whileFails
      if !goesOn then finish status
      else
        match ← runTurn (go { tested := mode.tested } body) with
        | .more => do
          answerSignals go
          runRepeated go mode whileFails test body turns (← get).status
        | .over => pure ()

def runEach (go : Runner) (mode : Mode) (name : Octets) (body : Node) : List Octets → Act Unit
  | [] => return ()
  | value :: values => do
    assign name value
    match ← runTurn (go { tested := mode.tested } body) with
    | .more => runEach go mode name body values
    | .over => return ()

def findBranch (go : Runner) (subject : Octets) : List Branch → Act (Option Node)
  | [] => return none
  | .mk patterns body :: branches => do
    if ← matchesAny patterns then return body else findBranch go subject branches
where
  matchesAny : List Word → Act Bool
    | [] => return false
    | word :: words => do
      if matchesPattern (← expandPattern (substitute go) word) subject then return true
      else matchesAny words

def step (go : Runner) (mode : Mode) : Node → Act Unit
  | .simple line assignments words redirects => do
    runSimple go mode line assignments words redirects
    answerSignals go
    checkStatus mode
  | .define name body => do
    modify fun m => { m with
      functions := (name, body) :: m.functions.filter fun f => f.1 != name }
    finish 0
  | .sequence first second => do
    go { mode with last := false } first
    go mode second
  | .andThen first second => do
    -- a failure that is asked for does not end the script
    go { tested := true } first
    if (← get).status = 0 then go mode second
  | .orElse first second => do
    go { tested := true } first
    if (← get).status != 0 then go mode second
  | .pipeline nodes => do
    runPipeline go nodes capacities
    answerSignals go
    checkStatus mode
  | .background node => do
    let m ← get
    let process := m.nextProcess
    let setting : Setting :=
      { (m.connect 0 (some (.device .null))).toSetting with
        traps := m.traps.filter (·.2.isEmpty), pending := [] }
    -- a job that has been waited for is known until the next one starts
    let kept := m.jobs.map fun (job : Job) =>
      if job.parent = m.self && job.wasAwaited then { job with isForgotten := true } else job
    let taken := ({ m with jobs := kept }).ownJobs.map Job.number
    let number := ((List.range (taken.length + 1)).find? fun n => !taken.contains (n + 1)).getD 0
    set { m with
      nextProcess := process + 1, lastJob := some process
      jobs := { process, parent := m.self, number := number + 1, node, setting
                start := m.files.now } :: kept }
    finish 0
  | .negate node => do
    go { tested := true } node
    modify fun m => { m with status := if m.status = 0 then 1 else 0 }
  | .redirected line node redirects => do
    modify fun m => { m with line }
    withRedirects go redirects (finish 2) (go { tested := mode.tested } node)
  | .subshell node redirects => do
    inProcess go mode do
      withRedirects go redirects (do finish 2; throw .exit)
        (go { tested := mode.tested, last := true } node)
    answerSignals go
    checkStatus mode
  | .choose test accepted refused => do
    go { tested := true } test
    if (← get).status = 0 then go mode accepted
    else
      match refused with
      | some node => go mode node
      | none => finish 0
  | .repeated whileFails test body =>
    inLoop (runRepeated go mode whileFails test body turnLimit 0)
  | .each line name words body => do
    modify fun m => { m with line }
    let values ← match words with
      | some words => expandWords (substitute go) words
      | none => pure (← get).arguments
    -- the status of a loop without a turn, not that of its words
    finish 0
    inLoop (runEach go mode name body values)
  | .select line subject branches => do
    modify fun m => { m with line }
    let subject ← expandText (substitute go) subject
    match ← findBranch go subject branches with
    | some body => go mode body
    | none => finish 0

def runNode : (depth : Nat) → Runner
  | 0, _, _ => throw (.killed 11)
  | depth + 1, mode, node => do
    if !(← get).hasOption 'n' then step (runNode depth) mode node

def stackDepth : Nat := 8000

/-! ## Starting -/

def startVariables (cwd : Place) : List (Octets × Variable) :=
  let entry (name value : String) : Octets × Variable :=
    (name.toList, { value := some (octets value), exported := true })
  let given := [entry "PATH" "/usr/local/bin:/usr/local/sbin:/usr/sbin:/usr/bin:/sbin:/bin",
    entry "HOME" "/root"]
  given ++ shellVariables given cwd 4241

def startMachine (files : FileTree) (cwd : Place) (name : Octets) : Machine :=
  { files, cwd, logical := cwd, scriptName := name, bindings := startVariables cwd }

def launch (m : Machine) (path : Octets) (program : Program) (arguments : List Octets) :
    Machine × Int :=
  let act := callProgram (runNode stackDepth) callDepth { last := true } path program m.scriptName
    arguments
  let (result, m) := (act.run.run m : Except Stop Unit × Machine)
  match result with
  | .error (.killed signal) => (m, -(signal : Int))
  | _ => (m, m.status % 256)

end NextRelease.Shell
