import NextRelease.Shell.Awk.Regular
import NextRelease.Shell.Awk.Cell
import NextRelease.Shell.Tool.Basic

/-!
What a program for records works on: its variables and tables, the record with its fields, and what
it reads from and prints to. What is printed is kept until there is much of it, a command is run, or
the program ends; the commands that it prints to run when they are closed.
-/

namespace NextRelease.Shell.Awk

inductive Leave where
  | next
  | nextFile
  | exit
  | stop
  | goOn
  | giveBack (cell : Cell)
  | failed

structure InputStream where
  name : Octets
  isCommand : Bool
  text : Tool.InputText
  fate : Fate := .status 0

structure OutputStream where
  name : Octets
  channel : Option Channel
  pending : Written := {}

inductive Slot where
  | cell (cell : Cell)
  | table (index : Nat)
  deriving Inhabited

structure State where
  name : Octets
  program : Program
  cells : Array Cell
  tables : Array Table
  slots : Array Slot := #[]
  record : Octets := []
  isStale : Bool := false
  fields : Array Cell := #[]
  input : Option Tool.InputText := none
  nextOperand : Nat := 1
  hasFile : Bool := false
  inputEnded : Bool := false
  readers : List InputStream := []
  writers : List OutputStream := []
  out : Written := {}
  regexes : Std.HashMap Octets Regex := {}
  inRange : Array Bool
  seed : Nat := 1
  status : Nat := 0
  held : Nat := 0

abbrev Work := ExceptT Leave (StateT State Act)

abbrev Start := (name : String) → (text : Octets) → Act Fate

def act {α : Type} (a : Act α) : Work α := ExceptT.lift (StateT.lift a)

namespace Work

/-! ## Variables -/

def known (index : Nat) : Work Cell := return ((← get).cells[index]?).getD .unset

def setKnown (index : Nat) (cell : Cell) : Work Unit :=
  modify fun s => { s with cells := s.cells.setIfInBounds index cell }

def conversion : Work Octets := return (← known Known.conversion).toText "%.6g".toList

def spell (cell : Cell) : Work Octets := do
  match cell with
  | .text s | .input s => return s
  | .unset => return []
  | .number x =>
    match wholeText? x with
    | some s => return s
    | none => return writeNumber (← conversion) x

def knownText (index : Nat) : Work Octets := do spell (← known index)

def count (index : Nat) : Work Unit := do
  setKnown index (.number ((← known index).toNumber + 1))

/-! ## Messages -/

def failWith {α : Type} (text : Octets) : Work α := do
  let name := (← get).name
  act (printError (name ++ ": ".toList ++ text ++ ['\n']))
  modify fun s => { s with status := 2 }
  throw .failed

def failAt {α : Type} (text : Octets) : Work α := do
  let name ← knownText Known.fileName
  let here ← knownText Known.fileRecordCount
  let all ← knownText Known.recordCount
  failWith ("run time error: ".toList ++ text ++ "\n\tFILENAME=\"".toList ++ name ++
    "\" FNR=".toList ++ here ++ " NR=".toList ++ all)

/-! ## Output -/

def printSize : Nat := 4096

def flush : Work Unit := do
  let text := (← get).out.text
  modify fun s => { s with out := {} }
  if !text.isEmpty then act (print text)

def emit (text : Octets) : Work Unit := do
  modify fun s => { s with out := s.out.add text }
  if printSize ≤ (← get).out.size then flush

def flushWriters : Work Unit := do
  let s ← get
  let emptied (w : OutputStream) : OutputStream :=
    if w.channel.isSome then { w with pending := {} } else w
  set { s with writers := s.writers.map emptied }
  s.writers.forM fun w => match w.channel with
    | some channel => act (modify fun m => m.put channel w.pending.text)
    | none => pure ()

def flushAll : Work Unit := do
  flush
  flushWriters

def runCommand (start : Start) (w : OutputStream) : Work Fate :=
  act do
    let outer ← get
    let (m, channel) := outer.newStream { text := w.pending.text }
    set (m.connect 0 (some channel))
    let fate ← start "/bin/sh" w.name
    modify fun m => (m.closeStream channel).connect 0 (outer.channel? 0)
    return fate

def endWriter (start : Start) (w : OutputStream) : Work Fate := do
  match w.channel with
  | some channel => do
    act (modify fun m => m.put channel w.pending.text)
    return .status 0
  | none => runCommand start w

def fateNumber : Fate → Nat
  | .status n => n
  | .signal n => 256 + n

def close (start : Start) (name : Octets) : Work Cell := do
  let s ← get
  let mine := s.writers.filter (·.name == name)
  let read := s.readers.filter (·.name == name)
  set { s with
    writers := s.writers.filter (·.name != name), readers := s.readers.filter (·.name != name) }
  if !mine.isEmpty || !read.isEmpty then
    if mine.any (·.channel.isNone) then flushAll
  let ended ← mine.mapM (endWriter start)
  match (ended ++ read.map InputStream.fate).getLast? with
  | some fate => return .ofNat (fateNumber fate)
  | none => return .number (-1)

def openFile (appends : Bool) (path : Octets) : Work Channel := do
  match ← act (Tool.openOutput appends path) with
  | .ok channel => return channel
  | .error fault =>
    failWith ("cannot open \"".toList ++ path ++ "\" for output (".toList ++ fault.text.toList ++
      [')'])

def emitTo (target : Target) (name text : Octets) : Work Unit := do
  match (← get).writers.find? (·.name == name) with
  | some _ => pure ()
  | none => do
    match target with
    | .command => do
      flushAll
      modify fun s => { s with writers := { name, channel := none } :: s.writers }
    | target => do
      let channel ← openFile (target == .appended) name
      modify fun s => { s with writers := { name, channel := some channel } :: s.writers }
  let extended (w : OutputStream) : OutputStream :=
    if w.name = name then { w with pending := w.pending.add text } else w
  modify fun s => { s with writers := s.writers.map extended }

def printTo (target : Target) (name text : Octets) : Work Unit := do
  match target, String.ofList name with
  | .command, _ => emitTo .command name text
  | _, "/dev/stdout" | _, "-" => emit text
  | _, "/dev/stderr" => act (printError text)
  | target, _ => emitTo target name text

/-! ## Regular expressions -/

def regex (text : Octets) : Work Regex := do
  match (← get).regexes[text]? with
  | some r => return r
  | none =>
    match readRegex text with
    | .ok r => do
      modify fun s => { s with regexes := s.regexes.insert text r }
      return r
    | .error reason =>
      failAt ("regular expression compile failed (".toList ++ reason.toList ++ ")\n".toList ++ text)

/-! ## Fields -/

def splitAtChar (c : Char) (text : Octets) : List Octets := Text.splitOn c text

def blankWords : (fuel : Nat) → Octets → List Octets
  | 0, _ => []
  | fuel + 1, cs =>
    match cs.dropWhile Sum.isSpace with
    | [] => []
    | cs =>
      let word := cs.takeWhile fun c => !Sum.isSpace c
      word :: blankWords fuel (cs.drop word.length)

def splitAtMatches (r : Regex) : (fuel : Nat) → Octets → (last : Option Char) → List Octets
  | 0, cs, _ => [cs]
  | fuel + 1, cs, last =>
    match firstFilled (cs.length + 1) [] cs last with
    | some found => found.before :: splitAtMatches r fuel found.after found.text.getLast?
    | none => [cs]
where
  firstFilled : (fuel : Nat) → (passed cs : Octets) → (last : Option Char) → Option Regex.Found
    | 0, _, _, _ => none
    | fuel + 1, passed, cs, last =>
      match Regex.find? false r cs last with
      | none => none
      | some found =>
        if found.text.isEmpty then
          match found.after with
          | [] => none
          | c :: after => firstFilled fuel (c :: (found.before.reverse ++ passed)) after (some c)
        else some { found with before := passed.reverse ++ found.before }

def splitFields (separator text : Octets) : Work (List Octets) := do
  match separator with
  | [' '] => return blankWords (text.length + 1) text
  | [] => return text.map fun c => [c]
  | separator =>
    if text.isEmpty then return []
    match separator with
    | [c] => return splitAtChar c text
    | separator => return splitAtMatches (← regex separator) (text.length + 1) text none

def setRecord (text : Octets) : Work Unit := do
  let fields ← splitFields (← knownText Known.fieldSeparator) text
  modify fun s => { s with record := text, isStale := false, fields := (fields.map .input).toArray }

def record : Work Octets := do
  let s ← get
  if !s.isStale then return s.record
  let between ← knownText Known.outputFieldSeparator
  let texts ← s.fields.toList.mapM spell
  let text := List.intercalate between texts
  modify fun s => { s with record := text, isStale := false }
  return text

def resize (count : Nat) : Work Unit :=
  modify fun s => { s with
    fields := (s.fields.extract 0 count) ++ Array.replicate (count - s.fields.size) (.text [])
    isStale := true }

def fieldNumber (cell : Cell) : Work Nat := do
  let n := boundedWhole cell.toNumber
  if n < 0 then failAt ("negative field index $".toList ++ intText n)
  return n.toNat

def field (number : Nat) : Work Cell := do
  if number = 0 then return .input (← record)
  return ((← get).fields[number - 1]?).getD (.text [])

def setField (number : Nat) (cell : Cell) : Work Unit := do
  if number = 0 then setRecord (← spell cell)
  else
    if (← get).fields.size < number then resize number
    modify fun s => { s with fields := s.fields.setIfInBounds (number - 1) cell, isStale := true }

/-! ## Input -/

/-- Takes a record from a text; `none` at its end. -/
def takeRecord (input : Tool.InputText) : Work (Option (Octets × Tool.InputText)) := do
  let separator ← knownText Known.recordSeparator
  let ended (record : Octets) : Work (Option (Octets × Tool.InputText)) := do
    if input.isCut then act starve
    return if record.isEmpty then none else some (record, { input with rest := [] })
  match separator with
  | [] =>
    let text := input.rest.dropWhile (· == '\n')
    match paragraph? (text.length + 1) text with
    | some (record, rest) =>
      return some (record, { input with rest := rest.dropWhile (· == '\n') })
    | none => ended ((text.reverse.dropWhile (· == '\n')).reverse)
  | [c] =>
    let record := input.rest.takeWhile (· != c)
    match input.rest.drop record.length with
    | _ :: rest => return some (record, { input with rest })
    | [] => ended record
  | separator =>
    match Regex.find? false (← regex separator) input.rest none with
    | some found =>
      if found.text.isEmpty then ended input.rest
      else return some (found.before, { input with rest := found.after })
    | none => ended input.rest
where
  paragraph? : (fuel : Nat) → Octets → Option (Octets × Octets)
    | 0, _ | _, [] => none
    | _, '\n' :: '\n' :: rest => some ([], rest)
    | fuel + 1, c :: cs => (paragraph? fuel cs).map fun (text, rest) => (c :: text, rest)

def assignNamed (name value : Octets) : Work Unit := do
  let value := ((quotedValue (value.length + 1) value))
  let s ← get
  match s.program.names.findIdx? (·.1 == name) with
  | some index =>
    if index = Known.fieldCount then resize (boundedWhole (Cell.input value).toNumber).toNat
    else setKnown index (.input value)
  | none => pure ()
where
  quotedValue : (fuel : Nat) → Octets → Octets
    | 0, cs => cs
    | _, [] => []
    | fuel + 1, '\\' :: '\x22' :: cs => '\x22' :: quotedValue fuel cs
    | fuel + 1, '\\' :: 'e' :: cs => '\\' :: 'e' :: quotedValue fuel cs
    | fuel + 1, '\\' :: cs =>
      match takeEscape? cs with
      | some (c, rest) => c :: quotedValue fuel rest
      | none => '\\' :: quotedValue fuel cs
    | fuel + 1, c :: cs => c :: quotedValue fuel cs

def isAssignment (operand : Octets) : Bool :=
  let name := operand.takeWhile (· != '=')
  isName name && name.length < operand.length

def setFileName (name : Octets) : Work Unit := do
  setKnown Known.fileName (.input name)
  setKnown Known.fileRecordCount (.number 0)

def openOperand (path : Octets) : Work Unit := do
  setFileName path
  match ← act (Tool.openInput path) with
  | .ok text => modify fun s => { s with input := some text, hasFile := true }
  | .error .isADirectory => failWith "read error (Is a directory)".toList
  | .error fault =>
    failWith ("cannot open \"".toList ++ path ++ "\" (".toList ++ fault.text.toList ++ [')'])

/-- Opens the next operand that names a file; the standard input if there was none. -/
def openNext : (fuel : Nat) → Work Bool
  | 0 => return false
  | fuel + 1 => do
    let s ← get
    let operands := ((s.cells[Known.argumentCount]?).getD .unset).toNumber
    if Float.ofNat s.nextOperand < operands then
      modify fun s => { s with nextOperand := s.nextOperand + 1 }
      let table := (s.tables[Known.arguments]?).getD {}
      let operand ← spell (table.get ⟨natText s.nextOperand, none⟩)
      if operand.isEmpty then openNext fuel
      else if isAssignment operand then
        let (name, value) := Text.cut '=' operand
        assignNamed name (value.getD [])
        openNext fuel
      else
        openOperand operand
        return true
    else if s.hasFile then return false
    else
      openOperand ['-']
      return true

def nextRecord : (fuel : Nat) → Work (Option Octets)
  | 0 => return none
  | fuel + 1 => do
    let s ← get
    if s.inputEnded then return none
    match s.input with
    | some input => do
      match ← takeRecord input with
      | some (text, input) => do
        modify fun s => { s with input := some input }
        count Known.recordCount
        count Known.fileRecordCount
        return some text
      | none => do
        modify fun s => { s with input := none }
        nextRecord fuel
    | none => do
      let operands := ((s.cells[Known.argumentCount]?).getD .unset).toNumber
      if ← openNext (operands.toUInt64.toNat + 2) then nextRecord fuel
      else
        modify fun s => { s with inputEnded := true }
        return none

def fileBound : Nat := 1000000

def outputOf (start : Start) (command : Octets) : Act (Tool.InputText × Fate) := do
  let outer ← get
  let (m, channel) := outer.newStream { text := [], capacity := some outer.capacity }
  set (m.connect 1 (some channel))
  let fate ← start "/bin/sh" command
  let m ← get
  set ((m.closeStream channel).connect 1 (outer.channel? 1))
  let stream := (m.stream? channel).getD { text := [] }
  return ({ rest := stream.rest, isCut := stream.isCut }, fate)

/-- Takes a record from a file or from what a command prints: the record, or why there is none. -/
def readFrom (start : Start) (isCommand : Bool) (name : Octets) : Work (Except Int Octets) := do
  let isMine (r : InputStream) : Bool := r.name == name && r.isCommand == isCommand
  let s ← get
  if !(s.readers.any isMine) then
    if isCommand then
      flushAll
      let (text, fate) ← act (outputOf start name)
      modify fun s => { s with readers := { name, isCommand, text, fate } :: s.readers }
    else
      match ← act (Tool.openInput name) with
      | .error .isADirectory => failWith "read error (Is a directory)".toList
      | .error _ => return .error (-1)
      | .ok text => modify fun s => { s with readers := { name, isCommand, text } :: s.readers }
  match (← get).readers.find? isMine with
  | none => return .error (-1)
  | some reader => do
    match ← takeRecord reader.text with
    | none => return .error 0
    | some (text, rest) => do
      let passed (r : InputStream) : InputStream := if isMine r then { r with text := rest } else r
      modify fun s => { s with readers := s.readers.map passed }
      return .ok text

end Work

end NextRelease.Shell.Awk
