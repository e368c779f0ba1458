import NextRelease.Shell.Builtin
import NextRelease.Shell.Reader

/-!
What surrounds the running of a command: the lines of a script, processes of their own, and
redirections. How a single command is run is a parameter throughout.
-/

namespace NextRelease.Shell

structure Mode where
  tested : Bool := false
  last : Bool := false

abbrev Runner := Mode → Node → Act Unit

/-! ## Texts of scripts -/

def runLines (go : Runner) (mode : Mode) : (fuel : Nat) → (ran : Bool) → Source → Act Unit
  | 0, _, _ => return ()
  | fuel + 1, ran, source => do
    if source.isAtEnd then
      if !ran then finish 0
    else
      match { source with aliases := (← get).aliases }.readLine with
      | .error cause => do
        modify fun m => { m with line := cause.line }
        failWith ("Syntax error: ".toList ++ cause.reason.toList)
      | .ok (none, rest) => runLines go mode fuel ran rest
      | .ok (some node, rest) => do
        go { mode with last := mode.last && rest.metEnd } node
        runLines go mode fuel true rest

def runText (go : Runner) (mode : Mode) (text : Octets) : Act Unit :=
  runLines go mode (text.length + 1) false { text }

/-! ## Processes -/

def noteEnd (fate : Fate) : Act Unit := do
  match fate with
  | .signal signal =>
    match signalText? signal with
    | some text => printError (text.toList ++ ['\n'])
    | none => pure ()
  | .status _ => pure ()
  finish fate.number

def changeJob (process : Nat) (change : Job → Job) : Act Unit :=
  modify fun m => { m with
    jobs := m.jobs.map fun job => if job.process = process then change job else job }

def Job.isPending (job : Job) : Bool := job.ended.isNone

def Machine.pendingJobs (m : Machine) : List Job := (m.jobs.filter Job.isPending).reverse

def forPending (jobs : List Job) (work : Job → Act Unit) : Act Unit :=
  jobs.forM fun job => do
    if (← get).jobs.any fun other => other.process == job.process && other.isPending then work job

def runLastWill (go : Runner) : Act Unit := do
  let m ← get
  match m.traps.lookup 0 with
  | some text => do
    set { m with traps := m.traps.filter (·.1 != 0), leaving := some m.status }
    let result ← (runText go {} text).attempt
    match result with
    | .error (.killed signal) => throw (.killed signal)
    | .error (.expired process signal) => throw (.expired process signal)
    | .error .exit => pure ()
    | _ => finish m.status
  | none => pure ()

/-- Runs a job from its start to its end, and those that it started itself. The clock and the
setting of who lets it run are put back afterwards. -/
def runJob (go : Runner) : (depth : Nat) → Job → Act Unit
  | 0, job => changeJob job.process fun job => { job with ended := some (.status 0) }
  | depth + 1, job => do
    let outer ← get
    changeJob job.process fun job => { job with ended := some (.status 0) }
    modify fun m => { m with
      toSetting := { job.setting with isPart := true, self := job.process }
      files := { m.files with now := job.start } }
    let work : Act Unit := do
      match ← (go { last := true } job.node).attempt with
      | .error (.killed signal) => throw (.killed signal)
      | .error (.expired process signal) => throw (.expired process signal)
      | _ => runLastWill go
    let result ← work.attempt
    let status := (← get).status
    let finish := (← get).files.now
    let own := (← get).pendingJobs.filter fun other => other.parent == job.process
    forPending own (runJob go depth)
    let fate : Fate := match result with
      | .error (.killed signal) | .error (.expired _ signal) => .signal signal
      | _ => .status status
    modify fun m => { m with
      toSetting := outer.toSetting
      files := { m.files with now := outer.files.now }
      lastEnd := max m.lastEnd finish }
    changeJob job.process fun job => { job with ended := some fate, finish }

def jobDepth : Nat := 64

def runThrough (go : Runner) (limit : Option Int) (jobs : List Job) : Act Unit := do
  match jobs, limit with
  | [job], none => forPending [job] (runJob go jobDepth)
  | jobs, limit => do
    let finishes ← jobs.mapM fun job => do
      let before ← get
      runJob go jobDepth job
      let ended := (← get).jobs.find? fun other => other.process == job.process
      set before
      return ((ended.map Job.finish).getD job.start, job)
    let chosen := finishes.filter fun entry => limit.all (entry.1 ≤ ·)
    forPending ((chosen.mergeSort fun a b => a.1 ≤ b.1).map (·.2)) fun job => do
      match (← get).jobs.find? fun other => other.process == job.process with
      | some job => runJob go jobDepth job
      | none => pure ()

def runJobs (go : Runner) : Act Unit := do
  let m ← get
  runThrough go none (m.pendingJobs.filter fun job => job.parent == m.self)

def runDue (go : Runner) (limit : Option Int) : Act Unit := do
  runThrough go limit (← get).pendingJobs

/-- Sends a signal to a job; answers whether there is such a job that can still get it. -/
def signalJob (go : Runner) (signal process : Nat) : Act Bool := do
  let now := (← get).files.now
  runDue go (some now)
  match (← get).jobs.find? fun job => job.process == process with
  | none => return false
  | some job =>
    if job.isPending then
      let isIgnored := harmlessSignals.contains signal ||
        (interruptSignals.contains signal && job.start < now)
      if !isIgnored then
        changeJob process fun job => { job with
          setting := { job.setting with
            alarms := job.setting.alarms ++ [{ time := now, signal, process }] } }
        runDue go (some now)
      return true
    else return !job.wasAwaited

def toEnd (go : Runner) (act : Act Unit) : Act Unit := do
  match ← act.attempt with
  | .error (.killed signal) => do
    runJobs go
    throw (.killed signal)
  | .error (.expired process signal) => do
    runJobs go
    throw (.expired process signal)
  | _ => do
    runLastWill go
    runJobs go

def afterEnd (mode : Mode) (result : Except Stop Unit) : Act Unit := do
  match result with
  | .error (.killed signal) =>
    if mode.last && (← get).traps.isEmpty then throw (.killed signal) else noteEnd (.signal signal)
  | .error (.expired process signal) => throw (.expired process signal)
  | _ => pure ()

def inProcess (go : Runner) (mode : Mode) (act : Act Unit) : Act Unit := do
  let outer ← get
  set { outer with
    traps := outer.traps.filter (·.2.isEmpty), isPart := true, pending := []
    self := outer.nextProcess, nextProcess := outer.nextProcess + 1 }
  let result ← (toEnd go act).attempt
  let inner ← get
  set (outer.afterProcess { inner with status := inner.status % 256 })
  afterEnd mode result
  if !outer.isPart then
    let sent := (← get).sent
    modify fun m => { m with sent := [] }
    sent.forM takeSignal

def substitute (go : Runner) : Option Node → Act Octets
  | none => do
    modify fun m => { m with substituted := 0 }
    return []
  | some node => do
    let status := (← get).status
    let text ← readWhole (capture (inProcess go {} (go { last := true } node)))
    modify fun m => { m with substituted := m.status, status }
    let text := text.filter fun c => c.toNat != 0
    return (text.reverse.dropWhile (· == '\n')).reverse

/-! ## Redirections -/

inductive Opening where
  | output (writing : Writing) (path : Octets)
  | input (path : Octets)
  | both (path : Octets)
  | duplicate (source : Octets)
  | here (text : Octets)

def expandDirection (go : Runner) : Direction → Act Opening
  | .output writing file => return .output writing (← expandText (substitute go) file)
  | .input file => return .input (← expandText (substitute go) file)
  | .both file => return .both (← expandText (substitute go) file)
  | .duplicate source => do
    let source ← expandText (substitute go) source
    if source = ['-'] || isNumber source then return .duplicate source
    else failWith "Syntax error: Bad fd number".toList
  | .here text => return .here (← expandText (substitute go) text)

def expandRedirects (go : Runner) : List Redirect → Act (List (Nat × Opening))
  | [] => return []
  | .mk descriptor direction :: redirects => do
    let opening ← expandDirection go direction
    return (descriptor, opening) :: (← expandRedirects go redirects)

def cannotCreate {α : Type} (path : Octets) (fault : FileFault) : Act α :=
  failWith ("cannot create ".toList ++ path ++ ": ".toList ++
    (Machine.openFault "Directory nonexistent" fault).toList)

def openPipe (go : Runner) (waits : Bool) (path : Octets) : Act Channel := do
  if waits && ((← get).pipeStream? path).all fun stream => stream.rest.isEmpty then runDue go none
  let (m, channel) := (← get).connectPipe path
  set m
  return channel

def openOutput (go : Runner) (append mayReplace : Bool) (path : Octets) : Act Channel := do
  let m ← get
  let status := m.status? path
  let missing := path.isEmpty || path.getLast? == some '/'
  match status with
  | .ok .directory => cannotCreate path .isADirectory
  | .ok .device =>
    match m.deviceAt path with
    | .pipe => openPipe go false path
    | device => return .device device
  | .ok .file =>
    if !mayReplace then cannotCreate path .alreadyExists
    match m.files.locate (m.route path) with
    | .error fault => cannotCreate path fault
    | .ok place => do
      if !append then set { m with files := m.files.store place .empty }
      return .file place
  | .error .notFound =>
    match m.files.locate (m.route path) with
    | .error fault => cannotCreate path fault
    | .ok place =>
      if missing then cannotCreate path (if path.isEmpty then .notFound else .isADirectory)
      set { m with files := m.makeFile place .empty }
      return .file place
  | .error fault => cannotCreate path fault

def openInput (go : Runner) (waits : Bool) (path : Octets) : Act Channel := do
  let m ← get
  let refuse (fault : FileFault) : Act Channel :=
    failWith ("cannot open ".toList ++ path ++ ": ".toList ++
      (Machine.openFault "No such file" fault).toList)
  match m.status? path with
  | .error fault => refuse fault
  | .ok .directory => return .directory
  | .ok .device =>
    match m.deviceAt path with
    | .pipe => openPipe go waits path
    | device => return .device device
  | .ok .file =>
    match m.files.read (m.route path) with
    | .error fault => refuse fault
    | .ok bytes => do
      let (m, channel) := m.newStream { text := ofBytes bytes, fileSize := some bytes.size }
      set m
      return channel

def channelOf (descriptor : Nat) : Act Channel := do
  match (← get).channel? descriptor with
  | some channel => return channel
  | none => failWith (natText descriptor ++ ": Bad file descriptor".toList)

def openOne (go : Runner) (entry : Nat × Opening) : Act Unit := do
  let connectTo (channel : Option Channel) : Act Unit := modify fun m => m.connect entry.1 channel
  match entry.2 with
  | .output writing path =>
    match descriptorOf? path with
    | some descriptor => connectTo (← channelOf descriptor)
    | none => do
      let keeps := (← get).hasOption 'C' && writing == .fresh
      connectTo (← openOutput go (writing == .append) (!keeps) path)
  | .input path =>
    match descriptorOf? path with
    | some descriptor => connectTo (← channelOf descriptor)
    | none => connectTo (← openInput go true path)
  | .both path => do
    match (← get).status? path with
    | .ok _ => connectTo (← openInput go false path)
    | .error _ => connectTo (← openOutput go true true path)
  | .duplicate ['-'] => connectTo none
  | .duplicate source => connectTo (← channelOf (readNat source))
  | .here text => do
    let (m, channel) := (← get).newStream { text }
    set m
    connectTo channel

def openAll (go : Runner) (openings : List (Nat × Opening)) : Act Unit := do
  let before := (← get).descriptors
  match ← (openings.forM (openOne go)).attempt with
  | .ok () => pure ()
  | .error stop => do
    modify fun m => { m with descriptors := before }
    throw stop

def withRedirects (go : Runner) (redirects : List Redirect) (refused : Act Unit) (act : Act Unit) :
    Act Unit := do
  if redirects.isEmpty then act
  else
    let openings ← expandRedirects go redirects
    let before ← get
    match ← (openAll go openings).attempt with
    | .error .failed => refused
    | .error stop => throw stop
    | .ok () =>
      act.andFinally do
        openings.forM fun entry =>
          modify fun m => m.connect entry.1 (before.channel? entry.1)

end NextRelease.Shell
