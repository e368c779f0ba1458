import NextRelease.Files.Tree
import NextRelease.Shell.Edit.Reader
import NextRelease.Shell.Tool.Basic

/-!
What a script works on: the line it has, what it holds, the inputs that are still to come, and what
it prints to.
-/

namespace NextRelease.Shell.Edit

structure Keeping where
  pattern : Option Octets := none
  followsLinks : Bool := false

structure Settings where
  name : Octets
  isQuiet : Bool := false
  isSeparate : Bool := false
  inPlace : Option Keeping := none
  ending : Char := '\n'
  width : Nat := 70
  source : Source := { text := [] }

structure Input where
  path : Octets
  lines : List Octets
  fault : Option Octets := none

inductive Queued where
  | text (text : Octets)
  | file (path : Octets)

structure State where
  settings : Settings
  program : Array Command
  space : List Char := []
  isWhole : Bool := true
  held : List Char := []
  number : Nat := 0
  paths : List Octets
  input : Option Input := none
  hasOpened : Bool := false
  inputName : Octets := ['-']
  isMissing : Bool := false
  queue : List Queued := []
  ranges : List (Nat × Option Nat) := []
  replaced : Bool := false
  lastUsed : Option Expression := none
  readers : List (Octets × List Octets) := []
  printed : Written := {}
  edited : Option Written := none
  isCut : Bool := false
  targets : List (Octets × Channel) := []
  cutTargets : List Octets := []

inductive Halt where
  | quit (status : Nat)
  | failed (mistake : Mistake)

abbrev Work := ExceptT Halt (StateT State Act)

namespace Work

def act {α : Type} (a : Act α) : Work α := ExceptT.lift (StateT.lift a)

def machine : Work Machine := act get

def failWith {α : Type} (reason : Octets) : Work α := throw (.failed (.failure reason))

/-! ## Printing -/

def put (text : Octets) : Work Unit :=
  modify fun s =>
    match s.edited with
    | some edited => { s with edited := some (edited.add text) }
    | none => { s with printed := s.printed.add text }

def endLine : Work Unit := do
  let s ← get
  if s.isCut then
    put [s.settings.ending]
    modify fun s => { s with isCut := false }

def putText (text : Octets) : Work Unit := do
  endLine
  put text

def putLine (line : List Char) : Work Unit := do
  let s ← get
  putText (Wide.toOctets line ++ if s.isWhole then [s.settings.ending] else [])
  modify fun s => { s with isCut := !s.isWhole }

def writeLine (path : Octets) (line : List Char) (isWhole : Bool) : Work Unit := do
  let s ← get
  let ending := s.settings.ending
  let text := (if s.cutTargets.contains path then [ending] else []) ++ Wide.toOctets line ++
    if isWhole then [ending] else []
  let others := s.cutTargets.filter (· != path)
  set { s with cutTargets := if isWhole then others else path :: others }
  match s.targets.lookup path with
  | some channel => act (modify fun m => m.put channel text)
  | none =>
    if path = "/dev/stderr".toList then act (printError text)
    else modify fun s => { s with printed := s.printed.add text }

def openTargets (paths : List Octets) : Work Unit := do
  for path in paths do
    let isStandard := path = "/dev/stdout".toList || path = "/dev/stderr".toList
    if !isStandard && ((← get).targets.lookup path).isNone then
      match ← act (Tool.openOutput false path) with
      | .ok channel => modify fun s => { s with targets := (path, channel) :: s.targets }
      | .error fault =>
        failWith ("couldn't open file ".toList ++ path ++ ": ".toList ++ Tool.faultText fault)

/-! ## Inputs -/

def linesOf (ending : Char) (text : Octets) : List Octets :=
  if ending = '\n' then lines text
  else
    let parts := Text.splitOn ending text
    let whole := parts.dropLast.map (· ++ [ending])
    match parts.getLast? with
    | some (c :: cs) => whole ++ [c :: cs]
    | _ => whole

def openPath (path : Octets) : Work (Except Octets Input) := do
  let s ← get
  let isInPlace := s.settings.inPlace.isSome
  if isInPlace && Tool.isStandard path then return .error "No such file or directory".toList
  match ← act (Tool.content path) with
  | .ok text => return .ok { path, lines := linesOf s.settings.ending text }
  | .error .closed =>
    return .ok { path, lines := [], fault := some ("stdin: ".toList ++ closedText) }
  | .error (.file .isADirectory) =>
    if isInPlace then failWith ("couldn't edit ".toList ++ path ++ ": not a regular file".toList)
    return .ok { path, lines := [], fault := some (path ++ ": Is a directory".toList) }
  | .error fault => return .error fault.text

def keptPath (pattern path : Octets) : Octets :=
  let base := Text.splitOn '/' path |>.getLast?.getD path
  let name := pattern.flatMap fun c => if c = '*' then base else [c]
  if name.contains '/' then name else path.take (path.length - base.length) ++ name

/-- Puts a new file at the place of one that was edited, which may be kept under another name. -/
def replaceFile (keeping : Keeping) (path text : Octets) : Work Unit := do
  let m ← machine
  let entry := if keeping.followsLinks then m.files.locate (m.route path) else m.entry path
  match entry with
  | .error _ => return ()
  | .ok place =>
    let mode := match m.files.locate (m.route path) with
      | .ok goal => m.files.mode goal
      | .error _ => 0o644
    let files ← match keeping.pattern with
      | none => pure (m.files.erase place)
      | some pattern =>
        match m.entry (keptPath pattern path) with
        | .ok goal => pure (m.files.relocate place goal)
        | .error fault =>
          failWith ("cannot rename ".toList ++ path ++ ": ".toList ++ Tool.faultText fault)
    let files := (files.store place (toBytes text)).setMode place mode
    act (modify fun m => { m with files })

def closeInput : Work Unit := do
  let s ← get
  match s.input, s.settings.inPlace, s.edited with
  | some input, some keeping, some edited => do
    set { s with input := none, edited := none, isCut := false }
    replaceFile keeping input.path edited.text
  | _, _, _ => set { s with input := none }

def firstRanges (program : Array Command) : List (Nat × Option Nat) :=
  program.toList.zipIdx.filterMap fun (command, place) =>
    match command.choice.start, command.choice.stop with
    | some (.line 0), some _ => some (place, none)
    | _, _ => none

def restart : Work Unit := do
  endLine
  modify fun s => { s with number := 0, ranges := firstRanges s.program, readers := [] }

/-- Goes to the first of some inputs that has a line left; `peeks` says that this is only to find
out whether there is one. -/
def findLine (peeks : Bool) : List Octets → Work Bool
  | [] => do
    modify fun s => { s with paths := [] }
    return false
  | path :: paths => do
    modify fun s => { s with paths }
    let s ← get
    if s.settings.isSeparate && s.hasOpened then restart
    match ← openPath path with
    | .error reason => do
      act (Tool.report s.settings.name ("can't read ".toList ++ path ++ ": ".toList ++ reason))
      modify fun s => { s with isMissing := true }
      findLine peeks paths
    | .ok input => do
      modify fun s => { s with
        input := some input, inputName := path, hasOpened := true
        edited := if s.settings.inPlace.isSome then some {} else none }
      match input.fault with
      | some reason => if !peeks then failWith ("read error on ".toList ++ reason)
      | none => pure ()
      if input.lines.isEmpty then
        closeInput
        findLine peeks paths
      else return true

def hasLine (peeks : Bool) : Work Bool := do
  let s ← get
  match s.input with
  | some input =>
    if !input.lines.isEmpty then return true
    else if peeks && s.settings.isSeparate then return false
    else
      closeInput
      findLine peeks s.paths
  | none => findLine peeks s.paths

def isLast : Work Bool := return !(← hasLine true)

def contentOf (path : Octets) : Work (Except Tool.InputFault Octets) :=
  act (Tool.content (if Tool.isStandard path then "./-".toList else path))

def putQueue : Work Unit := do
  let queue := (← get).queue
  modify fun s => { s with queue := [] }
  for queued in queue do
    match queued with
    | .text text => putText text
    | .file path => do
      endLine
      match ← contentOf path with
      | .ok text => put text
      | .error _ => pure ()

def takeLine? : Work (Option (List Char)) := do
  putQueue
  modify fun s => { s with replaced := false }
  if !(← hasLine false) then return none
  let s ← get
  match s.input with
  | some { path, lines := line :: rest, fault } =>
    let isWhole := line.getLast? == some s.settings.ending
    set { s with input := some { path, lines := rest, fault }, number := s.number + 1, isWhole }
    return some (Wide.ofOctets (if isWhole then line.dropLast else line))
  | _ => return none

def takeLineOf (path : Octets) : Work (Option Octets) := do
  let s ← get
  let texts ← match s.readers.lookup path with
    | some texts => pure texts
    | none =>
      match ← contentOf path with
      | .ok text => pure (linesOf s.settings.ending text)
      | .error _ => pure []
  let others := s.readers.filter (·.1 != path)
  modify fun s => { s with readers := (path, texts.drop 1) :: others }
  return texts.head?

end Work

end NextRelease.Shell.Edit
