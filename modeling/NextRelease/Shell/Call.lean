import NextRelease.Shell.Program

/-!
Commands by name: what a name stands for, and the running of functions, builtins and programs.
-/

namespace NextRelease.Shell

def remember (word : Octets) : Act Unit := do
  let m ← get
  if !word.contains '/' && (m.remembered.lookup word).isNone then
    match m.findProgram word with
    | .ok (path, _) => set { m with remembered := m.remembered ++ [(word, path)] }
    | .error _ => pure ()

def runByWord (go : Runner) (mode : Mode) (word : Octets) (arguments : List Octets) : Act Unit := do
  remember word
  match (← get).findProgram word with
  | .ok (path, program) => callProgram go callDepth mode path program word arguments
  | .error fault => do
    let isAbsent := fault = .notFound || fault = .notADirectory
    complain (word ++ ": ".toList ++
      (if isAbsent then "not found".toList else fault.text.toList))
    let isDenied := !isAbsent && fault != .nameTooLong && fault != .tooManyLinks
    finish (if isDenied && word.contains '/' then 126 else 127)

inductive Meaning where
  | keyword
  | alias (text : Octets)
  | function
  | builtin
  | program (path : Octets)
  | nothing

def Machine.meaning (m : Machine) (name : Octets) : Meaning :=
  if keywords.contains (String.ofList name) then .keyword
  else if let some text := m.aliases.lookup name then .alias text
  else if (m.functions.lookup name).isSome then .function
  else if isBuiltin name then .builtin
  else if name.contains '/' then
    match m.status? name with
    | .ok _ => .program name
    | .error _ => .nothing
  else
    match m.findProgram name with
    | .ok (path, _) => .program path
    | .error _ => .nothing

/-- Says what a name stands for, in a sentence or as it would be run. -/
def describe (sentence : Bool) (name : Octets) : Act Bool := do
  let meaning := (← get).meaning name
  let say (text : Octets) : Act Bool := do
    print (text ++ ['\n'])
    return true
  let called (kind : String) : Act Bool :=
    say (if sentence then name ++ (" is a " ++ kind).toList else name)
  match meaning with
  | .keyword => called "shell keyword"
  | .alias text =>
    say (if sentence then name ++ " is an alias for ".toList ++ text
      else "alias ".toList ++ aliasText name text)
  | .function => called "shell function"
  | .builtin =>
    called (if specialCommands.contains (String.ofList name) then "special shell builtin"
      else "shell builtin")
  | .program path => do
    let isKnown := ((← get).remembered.lookup name).isSome
    let kind := if isKnown then " is a tracked alias for ".toList else " is ".toList
    remember name
    say (if sentence then name ++ kind ++ path else path)
  | .nothing => do
    if sentence then print (name ++ ": not found\n".toList)
    return false

def describeAll (sentence : Bool) (names : List Octets) : Act Unit := do
  let found ← names.mapM (describe sentence)
  finish (if found.all id then 0 else 127)

def functionDepth : Nat := 1000

def callFunction (go : Runner) (mode : Mode) (body : Node) (arguments : List Octets) :
    Act Unit := do
  let outer ← get
  if functionDepth ≤ outer.saved.length then
    failWith ("Maximum function recursion depth (".toList ++ natText functionDepth ++
      ") reached".toList)
  set { outer with arguments, saved := [] :: outer.saved, loops := 0, optionOffset := none }
  let result ← (go { tested := mode.tested } body).attempt
  modify fun m =>
    let restored := (m.saved.head?.getD []).foldl (fun m entry => m.setVariable entry.1 entry.2) m
    { restored with
      arguments := outer.arguments, saved := outer.saved, loops := outer.loops
      optionOffset := outer.optionOffset }
  match result with
  | .ok () | .error .returned => pure ()
  | .error stop => throw stop

/-- Runs the commands of a file in the shell itself. -/
def runFile (go : Runner) (arguments : List Octets) : Act Unit := do
  match arguments with
  | [] => finish 0
  | path :: _ => do
    let m ← get
    let isFile (path : Octets) : Bool :=
      match m.status? path with
      | .ok .file => true
      | _ => false
    let found := if path.contains '/' then some path
      else (m.searchPath.map fun directory => directory ++ '/' :: path).find? isFile
    match found with
    | none => failWith (path ++ ": not found".toList)
    | some path =>
      match m.files.read (m.route path) with
      | .error .isADirectory => finish 0
      | .error fault =>
        failWith ("cannot open ".toList ++ path ++ ": ".toList ++
          (Machine.openFault "No such file" fault).toList)
      | .ok bytes => do
        let name := m.command
        modify fun m => { m with command := some path }
        let result ← (runText go {} (ofBytes bytes)).attempt
        modify fun m => { m with command := name }
        match result with
        | .ok () | .error .returned => pure ()
        | .error stop => throw stop

/-! ## Jobs -/

def Machine.ownJobs (m : Machine) : List Job :=
  m.jobs.filter fun job => job.parent == m.self && !job.isForgotten

def jobOf (word : Octets) : Act Job := do
  let m ← get
  let refuse : Act Job := failWith ("No such job: ".toList ++ word)
  let found : Option Job := match word with
    | ['%'] | ['%', '%'] | ['%', '+'] => m.ownJobs.head?
    | ['%', '-'] => m.ownJobs[1]?
    | '%' :: digits =>
      if isNumber digits then m.ownJobs.find? fun job => job.number == readNat digits else none
    | _ => none
  match found with
  | some job => return job
  | none => refuse

def Job.standing (job : Job) : Octets :=
  match job.ended with
  | none => "Running".toList
  | some (.status 0) => "Done".toList
  | some (.status n) => "Done(".toList ++ natText n ++ [')']
  | some (.signal n) => ((signalText? n).getD "Interrupt").toList

def showJobs (go : Runner) (arguments : List Octets) : Act Unit := do
  runDue go (some (← get).files.now)
  let (options, words) ← splitOptions "lp" arguments
  let chosen ← if words.isEmpty then pure (← get).ownJobs else words.mapM jobOf
  chosen.forM fun job => do
    let all := (← get).ownJobs
    if options.getLast? = some 'p' then print (natText job.process ++ ['\n'])
    else
      let mark := if (all.head?.map Job.process) == some job.process then '+'
        else if (all[1]?.map Job.process) == some job.process then '-' else ' '
      let number := '[' :: natText job.number ++ [']']
      let front := number ++ List.replicate (6 - number.length) ' '
      let front := front.take 4 ++ mark :: front.drop 5
      let front := if options.getLast? = some 'l' then front ++ natText job.process ++ [' ']
        else front
      let text := front ++ job.standing
      print (text ++ List.replicate (33 - text.length) ' ' ++ ['\n'])
      if !job.isPending then changeJob job.process fun job => { job with isForgotten := true }
  finish 0

def takeSent : Act Unit := do
  let m ← get
  if !m.isPart then
    set { m with sent := [] }
    m.sent.forM fun signal => do
      takeSignal signal
      if (← get).pending.contains signal then finish (128 + signal)

def waitFor (go : Runner) (job : Job) : Act Unit := do
  let before ← get
  forPending [job] (runJob go jobDepth)
  let finish := ((← get).jobs.find? fun other => other.process == job.process).map Job.finish
  if 1 < before.pendingJobs.length then
    set before
    runDue go finish
    match (← get).jobs.find? fun other => other.process == job.process with
    | some job => forPending [job] (runJob go jobDepth)
    | none => pure ()

def wait (go : Runner) (arguments : List Octets) : Act Unit := do
  if arguments.isEmpty then
    runJobs go
    let own := (← get).ownJobs
    waitUntil ((own.map Job.finish).foldl max 0)
    own.forM fun job => changeJob job.process fun job => { job with wasAwaited := true }
    finish 0
    takeSent
  else
    arguments.forM fun word => do
      let process ← if word.head? == some '%' then pure (← jobOf word).process else numberOf word
      let m ← get
      match m.jobs.find? fun job => job.process == process && job.parent == m.self with
      | none => finish 127
      | some job => do
        waitFor go job
        match (← get).jobs.find? fun job => job.process == process with
        | none => finish 127
        | some ended => do
          waitUntil ended.finish
          runDue go (some (← get).files.now)
          let fate := ended.ended.getD (.status 0)
          if ended.wasAwaited then finish fate.number else noteEnd fate
          changeJob process fun job => { job with wasAwaited := true }
          takeSent

def moveJob (arguments : List Octets) : Act Unit := do
  match arguments.head? with
  | some word => do
    let _ ← jobOf word
    failWith ("job ".toList ++ word ++ " not created under job control".toList)
  | none =>
    if (← get).ownJobs.isEmpty then failWith "No current job".toList
    else failWith "job (null) not created under job control".toList

def sendFor (go : Runner) (signal : Nat) (word : Octets) : Act Bool := do
  if word.head? == some '%' then
    let _ ← jobOf word
    return false
  let process ← numberOf word
  if ← sendSignal signal process then return true else signalJob go signal process

def execute (go : Runner) (words : List Octets) : Act Unit := do
  match words with
  | [] => finish 0
  | word :: arguments => do
    modify fun m => { m with traps := m.traps.filter (·.2.isEmpty) }
    match (← get).findProgram word with
    | .ok (path, program) => do
      modify fun m => { m with command := none }
      callProgram go callDepth { last := true } path program word arguments
    | .error fault => do
      let isAbsent := fault = .notFound || fault = .notADirectory
      complain (word ++ ": ".toList ++
        (if isAbsent then "not found".toList else fault.text.toList))
      finish (if isAbsent then 127 else 126)
    throw .exit

def rememberedPart (name : Octets) : Nat :=
  let start := ((name.head?.map Char.toNat).getD 0) * 16
  (name.foldl (fun n c => n + c.toNat) start) % 32768 % 31

def hash (arguments : List Octets) : Act Unit := do
  let (options, names) ← splitOptions "r" arguments
  finish 0
  if !options.isEmpty then modify fun m => { m with remembered := [] }
  else if names.isEmpty then
    let known := (← get).remembered.mergeSort fun a b => rememberedPart a.1 ≤ rememberedPart b.1
    known.forM fun entry => print (entry.2 ++ ['\n'])
  else
    names.forM fun name => do
      modify fun m => { m with remembered := m.remembered.filter fun entry => entry.1 != name }
      match (← get).meaning name with
      | .nothing => do
        complain (name ++ ": not found".toList)
        finish 1
      | .program _ => remember name
      | _ => pure ()

def builtinWork (go : Runner) (mode : Mode) (name : Octets) (arguments : List Octets) :
    Act Unit := do
  match String.ofList name with
  | "." => runFile go arguments
  | "eval" =>
    let text := Text.joinWith ' ' (if arguments.head? = some ['-', '-'] then arguments.drop 1
      else arguments)
    runText go { tested := mode.tested } text
  | "exec" => execute go arguments
  | "wait" => wait go arguments
  | "type" => describeAll true arguments
  | "hash" => hash arguments
  | "jobs" => showJobs go arguments
  | "fg" | "bg" => moveJob arguments
  | "kill" => kill (sendFor go) arguments
  | known =>
    match builtins.lookup known with
    | some work => work arguments
    | none => finish 127

def runBuiltin (go : Runner) (mode : Mode) (special : Bool) (name : Octets)
    (arguments : List Octets) : Act Unit := do
  let outer := (← get).command
  modify fun m => { m with command := some name, lost := none }
  let result ← (builtinWork go mode name arguments).attempt
  let m ← get
  if m.lost.isSome && m.losesOutput && result.toOption.isSome then
    complain (name ++ ": I/O error".toList)
    finish 1
  modify fun m => { m with command := outer }
  match result with
  | .ok () => pure ()
  | .error .failed => if special then throw .failed
  | .error stop => throw stop

inductive Plan where
  | run (words : List Octets)
  | describe (sentence : Bool) (names : List Octets)

def readCommandWords : (fuel : Nat) → List Octets → Act Plan
  | 0, words => return .run words
  | fuel + 1, words => do
    let name := (← get).command
    modify fun m => { m with command := some "command".toList }
    let (options, rest) ← (splitOptions "pvV" words).andFinally
      (modify fun m => { m with command := name })
    if options.contains 'V' then return .describe true (rest.take 1)
    else if options.contains 'v' then return .describe false (rest.take 1)
    else if rest.head? = some "command".toList then readCommandWords fuel (rest.drop 1)
    else return .run rest

def runNamed (go : Runner) (mode : Mode) (name : Octets) (arguments : List Octets) : Act Unit := do
  let m ← get
  match m.functions.lookup name with
  | some body => callFunction go mode body arguments
  | none =>
    if name = "command".toList then
      match ← (readCommandWords (arguments.length + 1) arguments).attempt with
      | .ok (.describe sentence names) => describeAll sentence names
      | .ok (.run []) => finish 0
      | .ok (.run (name :: arguments)) =>
        if isBuiltin name then runBuiltin go mode false name arguments
        else runByWord go mode name arguments
      | .error .failed => pure ()
      | .error stop => throw stop
    else if isBuiltin name then runBuiltin go mode (isSpecial name) name arguments
    else runByWord go mode name arguments

end NextRelease.Shell
