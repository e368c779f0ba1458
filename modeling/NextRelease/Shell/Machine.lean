import NextRelease.Files.Tree
import NextRelease.Shell.Grammar
import NextRelease.Text.Basic

/-!
The machine on which shell scripts run: the files and what was printed, which all its processes
share, and the variables, descriptors and options of the shell that runs.
-/

namespace NextRelease.Shell

inductive Channel where
  | out
  | err
  | file (place : Place)
  | stream (id : Nat)
  | directory
  | device (device : Device)
  deriving DecidableEq

/-- A text on its way from who writes it to who reads it. -/
structure Stream where
  text : Octets
  time : Int := 0
  pieces : List (Int × Octets) := []
  written : Written := {}
  closed : Int := 0
  fileSize : Option Nat := none
  capacity : Option Nat := none
  isCut : Bool := false

namespace Stream

def rest (s : Stream) : Octets :=
  if s.pieces.isEmpty && s.written.pieces.isEmpty then s.text
  else s.text ++ s.pieces.flatMap (·.2) ++ s.written.text

def left (s : Stream) : List (Int × Octets) := (s.time, s.text) :: s.pieces ++ s.written.inOrder

def endTime (s : Stream) : Int :=
  let latest (pieces : List (Int × Octets)) : Int := (pieces.map (·.1)).foldl max 0
  max (max s.closed s.time) (max (latest s.pieces) (latest s.written.pieces))

def withPieces (s : Stream) (pieces : List (Int × Octets)) : Stream :=
  match pieces with
  | [] => { s with text := [], pieces := [], written := {} }
  | (time, text) :: pieces => { s with text, time, pieces, written := {} }

end Stream

structure Variable where
  value : Option Octets := none
  exported : Bool := false
  readOnly : Bool := false

structure Alarm where
  time : Int
  signal : Nat
  process : Nat
  toGroup : Bool := false

/-- What a process keeps to itself. -/
structure Setting where
  cwd : Place
  logical : List String
  scriptName : Octets
  arguments : List Octets := []
  bindings : List (Octets × Variable) := []
  functions : List (Octets × Node) := []
  aliases : List (Octets × Octets) := []
  saved : List (List (Octets × Option Variable)) := []
  options : List Char := []
  self : Nat := 4242
  mask : Nat := 18
  traps : List (Nat × Octets) := []
  descriptors : List (Nat × Channel) := [(0, .device .null), (1, .out), (2, .err)]
  status : Nat := 0
  substituted : Nat := 0
  line : Nat := 1
  command : Option Octets := none
  loops : Nat := 0
  process : Nat := 4242
  pending : List Nat := []
  lastJob : Option Nat := none
  optionOffset : Option Nat := none
  isPart : Bool := false
  leaving : Option Nat := none
  alarms : List Alarm := []
  remembered : List (Octets × Octets) := []
  niceness : Int := 0

inductive Fate where
  | status (n : Nat)
  | signal (n : Nat)
  deriving DecidableEq

def Fate.number : Fate → Nat
  | status n => n
  | signal n => 128 + n

/-- A process beside the shell; it runs when something waits for it. -/
structure Job where
  process : Nat
  parent : Nat
  number : Nat
  node : Node
  setting : Setting
  start : Int
  ended : Option Fate := none
  finish : Int := 0
  wasAwaited : Bool := false
  isForgotten : Bool := false

structure Machine extends Setting where
  files : FileTree
  out : Written := {}
  err : Written := {}
  streams : List (Nat × Stream) := []
  nextStream : Nat := 0
  nextProcess : Nat := 4243
  jobs : List Job := []
  lost : Option Octets := none
  capacity : Nat := 65536
  starved : Bool := false
  lacksEnd : Bool := false
  sent : List Nat := []
  lastEnd : Int := 0
  pipes : List (Place × Nat) := []

inductive Stop where
  | exit
  | failed
  | broken (levels : Nat)
  | continued (levels : Nat)
  | returned
  | killed (signal : Nat)
  | expired (process signal : Nat)
  deriving DecidableEq

abbrev Act := ExceptT Stop (StateM Machine)

namespace Act

variable {α : Type}

def attempt (act : Act α) : Act (Except Stop α) :=
  ExceptT.mk do
    let result ← act.run
    return .ok result

def andFinally (act : Act α) (last : Act Unit) : Act α := do
  let result ← act.attempt
  last
  ExceptT.mk (pure result)

end Act

def finish (status : Nat) : Act Unit := modify fun m => { m with status }

namespace Machine

def put (m : Machine) (channel : Channel) (text : Octets) : Machine :=
  match channel with
  | .out => { m with out := m.out.add text m.files.now }
  | .err => { m with err := m.err.add text m.files.now }
  | .file place => { m with files := m.files.append place (toBytes text) }
  | .stream id =>
    { m with streams := m.streams.map fun s =>
      if s.1 = id then (id, { s.2 with written := s.2.written.add text m.files.now }) else s }
  | .directory | .device _ => m

def channel? (m : Machine) (descriptor : Nat) : Option Channel := m.descriptors.lookup descriptor

def connect (m : Machine) (descriptor : Nat) (channel : Option Channel) : Machine :=
  let others := m.descriptors.filter fun d => d.1 != descriptor
  { m with descriptors := match channel with
    | some channel => (descriptor, channel) :: others
    | none => others }

def newStream (m : Machine) (stream : Stream) : Machine × Channel :=
  ({ m with streams := (m.nextStream, stream) :: m.streams, nextStream := m.nextStream + 1 },
    .stream m.nextStream)

def stream? (m : Machine) : Channel → Option Stream
  | .stream id => m.streams.lookup id
  | _ => none

def mapStream (m : Machine) (channel : Channel) (change : Stream → Stream) : Machine :=
  match channel with
  | .stream id =>
    { m with streams := m.streams.map fun s => if s.1 = id then (id, change s.2) else s }
  | _ => m

def setStream (m : Machine) (channel : Channel) (text : Octets) : Machine :=
  m.mapStream channel fun s => s.withPieces [(m.files.now, text)]

def closeStream (m : Machine) : Channel → Machine
  | .stream id => { m with streams := m.streams.filter fun s => s.1 != id }
  | _ => m

def cutStream (m : Machine) (channel : Channel) : Machine :=
  m.mapStream channel fun s => { s with isCut := true }

def route (m : Machine) (path : Octets) : Route :=
  ⟨(Path.ofString (textOf path)).fromRoot m.cwd, path.length⟩

def status? (m : Machine) (path : Octets) : Except FileFault FileKind :=
  if path.isEmpty then .error .notFound
  else
    match m.files.status (m.route path) with
    | .ok .directory => .ok .directory
    | .ok kind => if path.getLast? == some '/' then .error .notADirectory else .ok kind
    | .error fault => .error fault

def entry (m : Machine) (path : Octets) : Except FileFault Place :=
  if path.isEmpty then .error .notFound else m.files.locateEntry (m.route path)

def hasKind (m : Machine) (kind : FileKind) (path : Octets) : Bool :=
  match m.status? path with
  | .ok found => found == kind
  | .error _ => false

def deviceAt (m : Machine) (path : Octets) : Device :=
  match m.files.find? (m.route path) with
  | some (.device device) => device
  | _ => .null

def isPipe (m : Machine) (path : Octets) : Bool :=
  match m.files.find? (m.route path) with
  | some (.device .pipe) => true
  | _ => false

def pipeStream? (m : Machine) (path : Octets) : Option Stream :=
  match m.files.locate (m.route path) with
  | .ok place => (m.pipes.lookup place).bind fun id => m.stream? (.stream id)
  | .error _ => none

def connectPipe (m : Machine) (path : Octets) : Machine × Channel :=
  match m.files.locate (m.route path) with
  | .error _ => (m, .device .null)
  | .ok place =>
    match m.pipes.lookup place with
    | some id => (m, .stream id)
    | none =>
      let id := m.nextStream
      let (m, channel) := m.newStream { text := [] }
      ({ m with pipes := (place, id) :: m.pipes }, channel)

def hasOption (m : Machine) (c : Char) : Bool := m.options.contains c

def makeFile (m : Machine) (place : Place) (content : ByteArray) : FileTree :=
  let files := m.files.store place content
  if m.mask = 0o022 then files else files.setMode place (0o666 - (0o666 &&& m.mask))

def openFault (absent : String) : FileFault → String
  | .notFound | .notADirectory => absent
  | fault => fault.text

def directoryText (names : List String) : Octets :=
  octets (if names.isEmpty then "/" else "/" ++ "/".intercalate names)

def afterProcess (outer inner : Machine) : Machine :=
  { inner with toSetting := { outer.toSetting with status := inner.status } }

end Machine

def descriptorOf? (path : Octets) : Option Nat :=
  match String.ofList path with
  | "/dev/stdin" => some 0
  | "/dev/stdout" => some 1
  | "/dev/stderr" => some 2
  | _ =>
    let number := path.drop "/dev/fd/".length
    if "/dev/fd/".toList.isPrefixOf path && isNumber number then some (readNat number) else none

/-! ## Output and messages -/

def closedText : Octets := "Bad file descriptor".toList

def fullText : Octets := "No space left on device".toList

def pipeSignal : Nat := 13

/-- Prints to a descriptor. What a stream has no room for is not written, and its writer is stopped,
as nobody is there to read it. -/
def putTo (descriptor : Nat) (text : Octets) : Act Unit := do
  let m ← get
  match m.channel? descriptor with
  | some (.device .full) =>
    if !text.isEmpty then set { m with lost := some fullText }
  | some channel =>
    let room := (m.stream? channel).bind fun s => s.capacity.map (· - s.written.size)
    match room with
    | none => set (m.put channel text)
    | some room =>
      if text.length ≤ room then set (m.put channel text)
      else
        set ((m.put channel (text.take room)).cutStream channel)
        throw (.killed pipeSignal)
  | none => if !text.isEmpty then set { m with lost := some closedText }

def print (text : Octets) : Act Unit := putTo 1 text

def printError (text : Octets) : Act Unit := putTo 2 text

def complain (text : Octets) : Act Unit := do
  let m ← get
  let command := match m.command with
    | some name => name ++ ": ".toList
    | none => []
  printError (m.scriptName ++ ": ".toList ++ natText m.line ++ ": ".toList ++ command ++ text ++
    ['\n'])

def failWith {α : Type} (text : Octets) : Act α := do
  complain text
  finish 2
  throw .failed

/-! ## Variables -/

def Machine.separator (m : Machine) : Octets :=
  match m.bindings.lookup "IFS".toList with
  | some { value := some ifs, .. } => ifs.take 1
  | _ => [' ']

def optionLetters : Octets := "efIimnsxvVECabup".toList

def Machine.value? (m : Machine) (name : Octets) : Option Octets :=
  match name with
  | ['?'] => some (natText m.status)
  | ['$'] => some (natText m.process)
  | ['#'] => some (natText m.arguments.length)
  | ['!'] => m.lastJob.map natText
  | ['-'] => some (optionLetters.reverse.filter m.hasOption)
  | ['0'] => some m.scriptName
  | ['@'] => if m.arguments.isEmpty then none else some (Text.joinWith ' ' m.arguments)
  | ['*'] =>
    if m.arguments.isEmpty then none else some (List.intercalate m.separator m.arguments)
  | _ =>
    if isNumber name then m.arguments[readNat name - 1]?
    else (m.bindings.lookup name).bind Variable.value

def Machine.setVariable (m : Machine) (name : Octets) (v : Option Variable) : Machine :=
  let others := m.bindings.filter fun entry => entry.1 != name
  { m with bindings := match v with
    | some v => (name, v) :: others
    | none => others }

def assign (name value : Octets) : Act Unit := do
  let m ← get
  let old := (m.bindings.lookup name).getD {}
  if old.readOnly then failWith (name ++ ": is read only".toList)
  set (m.setVariable name (some { old with
    value := some value, exported := old.exported || m.hasOption 'a' }))
  if name = "PATH".toList then modify fun m => { m with remembered := [] }

def Machine.environment (m : Machine) : List (Octets × Octets) :=
  m.bindings.filterMap fun entry =>
    if entry.2.exported then entry.2.value.map fun value => (entry.1, value) else none

/-! ## Input -/

def randomNumbers : (count : Nat) → (seed : Nat) → List Nat
  | 0, _ => []
  | count + 1, seed =>
    seed / 65536 :: randomNumbers count ((seed * 1103515245 + 12345) % 2147483648)

def deviceText (count : Nat) : Device → Octets
  | .null | .pipe => []
  | .zero | .full => List.replicate count '\x00'
  | .random => (randomNumbers count 42).map fun n => Char.ofNat (n % 256)

def starve : Act Unit := modify fun m => { m with starved := true }

def readEnough {α : Type} (read : Act α) (isEnough : α → Bool) : Act α := do
  let before := (← get).starved
  let result ← read
  if !before && (← get).starved && isEnough result then
    modify fun m => { m with starved := false }
  return result

def readWhole {α : Type} (read : Act α) : Act α := do
  let before := (← get).starved
  modify fun m => { m with starved := false }
  let result ← read
  modify fun m => { m with starved := before || m.starved, lacksEnd := m.lacksEnd || m.starved }
  return result

def moveClock (time : Int) : Act Unit :=
  modify fun m => { m with files := { m.files with now := max m.files.now time } }

/-- Goes on at a later time, unless a signal comes before it that ends the process. A signal that is
kept for later does not, but it ends what the process waits for if it comes to that as well. -/
def waitPast : (alarms : List Alarm) → (time : Int) → Act Unit
  | [], time => moveClock time
  | alarm :: others, time => do
    let m ← get
    if time ≤ alarm.time then moveClock time
    else
      match m.traps.lookup alarm.signal with
      | some [] => do
        set { m with alarms := others }
        waitPast others time
      | some _ => do
        set { m with alarms := others, pending := m.pending ++ [alarm.signal] }
        moveClock (if alarm.toGroup then alarm.time else time)
      | none => do
        moveClock alarm.time
        throw (.expired alarm.process alarm.signal)

def waitUntil (time : Int) : Act Unit := do
  waitPast ((← get).alarms.mergeSort fun a b => a.time ≤ b.time) time

def waitForEver : Act Unit := do
  let m ← get
  if !m.alarms.isEmpty then waitUntil ((m.alarms.map Alarm.time).foldl max m.files.now + 1)

def takeAll (channel : Channel) : Act Octets := do
  let m ← get
  match channel, m.stream? channel with
  | .device .null, _ => return []
  | .device device, _ => do
    starve
    return deviceText m.capacity device
  | _, some stream => do
    set (m.setStream channel [])
    waitUntil stream.endTime
    if stream.isCut then starve
    return stream.rest
  | _, none => return []

def readAll (descriptor : Nat) : Act Octets := do
  match (← get).channel? descriptor with
  | some channel => takeAll channel
  | none => return []

def cutPieces (wanted : Nat → Octets → Nat × Bool) :
    (taken : Nat) → (time : Int) → List (Int × Octets) →
      List Octets × Option (Int × List (Int × Octets))
  | _, _, [] => ([], none)
  | taken, time, (written, text) :: pieces =>
    let (count, isEnough) := wanted taken text
    let time := max time written
    if isEnough then ([text.take count], some (time, (written, text.drop count) :: pieces))
    else
      let (texts, rest) := cutPieces wanted (taken + text.length) time pieces
      (text :: texts, rest)

def takePart (channel : Channel) (stream : Stream) (wanted : Nat → Octets → Nat × Bool) :
    Act Octets := do
  let (texts, rest) := cutPieces wanted 0 0 stream.left
  match rest with
  | some (time, pieces) => do
    modify fun m => m.mapStream channel fun s => s.withPieces pieces
    waitUntil time
  | none => do
    modify fun m => m.setStream channel []
    waitUntil stream.endTime
    if stream.isCut then starve
  return texts.flatten

def readOctets (descriptor count : Nat) : Act Octets := do
  let m ← get
  match m.channel? descriptor with
  | some (.device device) => return deviceText count device
  | some channel =>
    match m.stream? channel with
    | some stream =>
      takePart channel stream fun taken text => (count - taken, count ≤ taken + text.length)
    | none => return []
  | none => return []

def readLine (descriptor : Nat) : Act Octets := do
  let m ← get
  match m.channel? descriptor with
  | some channel =>
    match m.stream? channel with
    | some stream =>
      takePart channel stream fun _ text =>
        let line := text.takeWhile (· != '\n')
        (line.length + 1, line.length < text.length)
    | none => do
      let text ← readEnough (takeAll channel) fun text => text.contains '\n'
      return firstLine text
  | none => return []

/-! ## Processes -/

def fillStream (channel : Channel) (act : Act Unit) : Act Unit := do
  let before := (← get).lastEnd
  modify fun m => { m with lastEnd := m.files.now }
  act.andFinally do
    modify fun m =>
      let closed := max m.files.now m.lastEnd
      { (m.mapStream channel fun s => { s with closed }) with lastEnd := max before closed }

def capture (act : Act Unit) : Act Octets := do
  let m ← get
  let (m, channel) := m.newStream { text := [] }
  let descriptors := m.descriptors
  set (m.connect 1 (some channel))
  (fillStream channel act).andFinally (modify fun m => { m with descriptors })
  let m ← get
  let stream := (m.stream? channel).getD { text := [] }
  set (m.closeStream channel)
  waitUntil stream.endTime
  return stream.rest

end NextRelease.Shell
