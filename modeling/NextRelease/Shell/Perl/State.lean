import NextRelease.Shell.Perl.Function
import NextRelease.Shell.Perl.Reader
import NextRelease.Shell.Tool.Basic
import Std.Data.HashMap
import Std.Data.HashSet

/-!
What a script works on. Variables are bound to cells, lists and tables that references may share; a
name is looked up first among the variables of the blocks around, then among those that all share.
-/

namespace NextRelease.Shell.Perl

inductive Leave where
  | died (cause : Scalar)
  | exit
  | last (label : Octets)
  | next (label : Octets)
  | redo (label : Octets)
  | giveBack (values : List Scalar)

structure Table where
  entries : Std.HashMap Octets (Nat × Nat) := {}
  count : Nat := 0
  pending : Option (List Octets) := none
  deriving Inhabited

namespace Table

def cell? (t : Table) (key : Octets) : Option Nat := (t.entries[key]?).map (·.2)

def put (t : Table) (key : Octets) (cell : Nat) : Table :=
  let place := ((t.entries[key]?).map (·.1)).getD t.count
  { t with entries := t.entries.insert key (place, cell), count := t.count + 1 }

def erase (t : Table) (key : Octets) : Table := { t with entries := t.entries.erase key }

def keys (t : Table) : List Octets :=
  let pairs := t.entries.toList.map fun (key, place, _) => (place, key)
  (pairs.mergeSort fun a b => a.1 ≤ b.1).map (·.2)

end Table

abbrev Env := List (Octets × Nat)

structure Code where
  name : Octets := []
  body : List Statement
  env : Option Env

inductive Saved where
  | binding (name : Octets) (id : Option Nat)
  | cell (id : Nat) (value : Scalar)
  | entry (table : Nat) (key : Octets) (cell : Option Nat)
  | function (name : Octets) (id : Option Nat)

structure Handle where
  input : Option Tool.InputText := none
  channel : Option Channel := none
  command : Option (List Octets) := none
  cell : Option Nat := none
  names : Option (List Octets) := none
  fate : Option Fate := none
  pending : Written := {}
  records : Nat := 0

structure Frame where
  name : Octets
  package : Octets
  line : Nat
  arguments : Nat

structure Found where
  text : Array Char
  place : Match
  pattern : Pattern
  groups : Groups

abbrev Node := Nat × Nat

structure Mortal where
  node : Node
  birth : Nat

structure State where
  file : Octets
  line : Nat := 1
  cells : Array Scalar := #[]
  fixed : Std.HashSet Nat := {}
  lists : Array (Array Nat) := #[]
  tables : Array Table := #[]
  codes : Array Code := #[]
  env : Env := []
  topEnv : Env := []
  globals : Std.HashMap Octets Nat := {}
  functions : Std.HashMap Octets Nat := {}
  saved : List Saved := []
  found : Option Found := none
  handles : List (Octets × Handle) := []
  opened : Nat := 0
  texts : Nat := 0
  selected : Octets := "STDOUT".toList
  out : Written := {}
  lastRead : Option Octets := none
  wants : Option Bool := none
  places : Std.HashMap Nat (Nat × Bool) := {}
  patterns : Std.HashMap Octets (Pattern × Groups) := {}
  inRange : List Nat := []
  namesLeft : List (Nat × List Octets) := []
  depth : Nat := 0
  frames : List Frame := []
  classes : Std.HashMap Node Octets := {}
  mortals : List Mortal := []
  births : Nat := 0
  began : Nat := 0
  lastBegan : Nat := 0
  gaps : List (Nat × Nat) := []
  envs : List Env := []
  weak : Std.HashSet Nat := {}
  package : Octets := "main".toList
  isStrict : Bool := false
  overloads : List ((Octets × Octets) × Scalar) := []
  isReading : Bool := false
  rewritten : Option Octets := none
  lasts : List Nat := []
  seed : Nat := 42
  status : Nat := 0

abbrev Work := ExceptT Leave (StateT State Act)

structure Starter where
  line : (text : Octets) → Act Fate
  words : List Octets → Act (Option Fate)

def act {α : Type} (a : Act α) : Work α := ExceptT.lift (StateT.lift a)

namespace Work

def caught {α : Type} (work : Work α) : Work (Except Leave α) :=
  ExceptT.mk do return .ok (← work.run)

/-! ## Cells, lists and tables -/

def newCell (v : Scalar) : Work Nat := do
  let id := (← get).cells.size
  modify fun s => { s with cells := s.cells.push v }
  return id

def cell (id : Nat) : Work Scalar := return ((← get).cells[id]?).getD .undefined

def setCell (id : Nat) (v : Scalar) : Work Unit :=
  modify fun s => { s with
    cells := s.cells.setIfInBounds id v
    weak := if s.weak.isEmpty then s.weak else s.weak.erase id
    places := if s.places.isEmpty then s.places else s.places.erase id }

def newList (cells : Array Nat) : Work Nat := do
  let id := (← get).lists.size
  modify fun s => { s with lists := s.lists.push cells }
  return id

def list (id : Nat) : Work (Array Nat) := return ((← get).lists[id]?).getD #[]

def setList (id : Nat) (cells : Array Nat) : Work Unit :=
  modify fun s => { s with lists := s.lists.setIfInBounds id cells }

def newTable : Work Nat := do
  let id := (← get).tables.size
  modify fun s => { s with tables := s.tables.push {} }
  return id

def readTable {α : Type} (id : Nat) (look : Table → α) : Work α :=
  return look ((← get).tables[id]?.getD {})

def changeTable (id : Nat) (change : Table → Table) : Work Unit :=
  modify fun s => { s with tables := s.tables.modify id change }

def newCells (vs : List Scalar) : Work (List Nat) := vs.mapM newCell

def listValues (id : Nat) : Work (List Scalar) := do
  (← list id).toList.mapM cell

def fillList (id : Nat) (vs : List Scalar) : Work Unit := do
  setList id (← newCells vs).toArray

def itemAt? (id : Nat) (index : Int) : Work (Option Nat) := do
  let cells ← list id
  let index := if index < 0 then index + cells.size else index
  return if index < 0 then none else cells[index.toNat]?

def extend (id size : Nat) : Work Unit := do
  let missing := size - (← list id).size
  if missing != 0 then
    let cells ← newCells (List.replicate missing .undefined)
    modify fun s => { s with lists := s.lists.modify id fun old => old ++ cells.toArray }

def entryOf (id : Nat) (key : Octets) : Work Nat := do
  match ← readTable id fun t => t.cell? key with
  | some cell => return cell
  | none => do
    let cell ← newCell .undefined
    changeTable id fun t => t.put key cell
    return cell

def tableValues (id : Nat) : Work (List Scalar) := do
  let keys ← readTable id Table.keys
  let pairs ← keys.mapM fun key => do
    return [Scalar.text key, ← cell (← entryOf id key)]
  return pairs.flatten

def putPairs (id : Nat) : List Scalar → Work Unit
  | [] => return ()
  | [key] => do setCell (← entryOf id key.toText) .undefined
  | key :: v :: rest => do
    setCell (← entryOf id key.toText) v
    putPairs id rest

def fillTable (id : Nat) (vs : List Scalar) : Work Unit := do
  changeTable id fun _ => {}
  putPairs id vs

def newOf : Sigil → Work Nat
  | .scalar => newCell .undefined
  | .list => newList #[]
  | .table => newTable
  | .code => return 0

/-! ## Names -/

def sharedName (sigil : Sigil) (name : Octets) : Octets :=
  let bare := if "main::".toList.isPrefixOf name then name.drop 6
    else if "::".toList.isPrefixOf name then name.drop 2
    else name
  sigil.char :: bare

def shared (sigil : Sigil) (name : Octets) : Work Nat := do
  let full := sharedName sigil name
  match (← get).globals[full]? with
  | some id => return id
  | none => do
    let id ← newOf sigil
    modify fun s => { s with globals := s.globals.insert full id }
    return id

def idOf (sigil : Sigil) (name : Octets) : Work Nat := do
  match (← get).env.lookup (sigil.char :: name) with
  | some id => return id
  | none => shared sigil name

def bindShared (full : Octets) (id : Nat) : Work Unit :=
  modify fun s => { s with globals := s.globals.insert full id }

def declareOwn (sigil : Sigil) (name : Octets) : Work Nat := do
  let id ← newOf sigil
  modify fun s => { s with env := (sigil.char :: name, id) :: s.env }
  return id

def special (name : String) : Work Scalar := do cell (← shared .scalar name.toList)

def setSpecial (name : String) (v : Scalar) : Work Unit := do
  setCell (← shared .scalar name.toList) v

def setFault (code : Nat) : Work Unit := setSpecial "!" (.fault code)

def setFileFault (fault : FileFault) : Work Unit := setFault fault.systemError.1

def groupOf (number : Nat) : Work Scalar := do
  match (← get).found with
  | none => return .undefined
  | some found =>
    let part (start stop : Nat) : Scalar := .text (found.text.extract start stop).toList
    if number = 0 then return part found.place.start found.place.stop
    else
      match found.place.spans.lookup number with
      | some (start, stop) => return part start stop
      | none => return .undefined

/-- The value of a variable that is computed; `none` for all others. -/
def computed? (name : Octets) : Work (Option Scalar) := do
  match name with
  | [c] =>
    if c.isAlpha || c = '_' then return none
    else if c.isDigit && c != '0' then return some (← groupOf (readNat name))
    else
      let s ← get
      match c, s.found with
      | '&', _ => return some (← groupOf 0)
      | '\x27', some found =>
        return some (.text (found.text.extract found.place.stop found.text.size).toList)
      | '+', some found =>
        return some (← groupOf ((found.place.spans.map (·.1)).foldl max 0))
      | '.', _ =>
        match s.lastRead.bind fun name => s.handles.lookup name with
        | some handle => return some (.ofNat handle.records)
        | none => return some .undefined
      | c, some found =>
        if isBackquote c then return some (.text (found.text.extract 0 found.place.start).toList)
        else return none
      | _, none => return none
  | ['^', 'N'] =>
    match (← get).found.bind fun found => found.place.spans.head? with
    | some (number, _) => return some (← groupOf number)
    | none => return some .undefined
  | c :: _ => if c.isDigit then return some (← groupOf (readNat name)) else return none
  | [] => return none

def valueOf (name : Octets) : Work Scalar := do
  match ← computed? name with
  | some v => return v
  | none => cell (← idOf .scalar name)

/-! ## Classes -/

def classOf? (v : Scalar) : Work (Option Octets) := do
  match v with
  | .truth _ => return some "JSON::PP::Boolean".toList
  | v =>
    let classes := (← get).classes
    return v.target?.bind fun target => classes[target]?

def lineage : (fuel : Nat) → (seen : List Octets) → Octets → Work (List Octets)
  | 0, _, _ => return []
  | fuel + 1, seen, name => do
    if seen.contains name then return []
    let own := sharedName .list (name ++ "::ISA".toList)
    let parents ← match (← get).globals[own]? with
      | some id => do pure ((← listValues id).map Scalar.toText)
      | none => pure []
    let above ← parents.mapM fun parent => lineage fuel (name :: seen) parent
    return name :: above.flatten

def lineageBound : Nat := 100

def lineageOf (name : Octets) : Work (List Octets) := do
  return (← lineage lineageBound [] name).eraseDups

def inMain (name : Octets) : Octets :=
  if "main::".toList.isPrefixOf name then name.drop 6 else name

def methodIn? (classes : List Octets) (name : Octets) : Work (Option Nat) := do
  let functions := (← get).functions
  return classes.findSome? fun className => functions[inMain (className ++ "::".toList ++ name)]?

def isPackage (name : Octets) : Work Bool := do
  let s ← get
  let front := name ++ "::".toList
  return s.package == name || s.functions.toList.any (fun entry => front.isPrefixOf entry.1) ||
    s.globals.toList.any (fun entry => front.isPrefixOf (entry.1.drop 1)) ||
    s.classes.toList.any fun entry => entry.2 == name

def overload? (v : Scalar) (operator : String) : Work (Option Scalar) := do
  let overloads := (← get).overloads
  if overloads.isEmpty then return none
  match ← classOf? v with
  | none => return none
  | some className =>
    return (← lineageOf className).findSome? fun name => overloads.lookup (name, operator.toList)

def regexClass : Octets := "Regexp".toList

def plainText (v : Scalar) : Work Octets := do
  match v, ← classOf? v with
  | .truth _, _ | v, none => return v.toText
  | .cellRef id, some className =>
    if className = regexClass then return (← cell id).toText
    else return className ++ '=' :: v.toText
  | v, some className => return className ++ '=' :: v.toText

/-! ## What is put back -/

def putBack (count : Nat) : (fuel : Nat) → Work Unit
  | 0 => return ()
  | fuel + 1 => do
    let saved := (← get).saved
    if saved.length ≤ count then return ()
    match saved with
    | [] => return ()
    | one :: rest => do
      modify fun s => { s with saved := rest }
      match one with
      | .binding full (some id) => bindShared full id
      | .binding full none => modify fun s => { s with globals := s.globals.erase full }
      | .cell id v => setCell id v
      | .entry table key (some cell) => changeTable table fun t => t.put key cell
      | .entry table key none => changeTable table fun t => t.erase key
      | .function name (some id) =>
        modify fun s => { s with functions := s.functions.insert name id }
      | .function name none => modify fun s => { s with functions := s.functions.erase name }
      putBack count fuel

def inBlock {α : Type} (work : Work α) : Work α := do
  let outer ← get
  let env := outer.env
  let count := outer.saved.length
  modify fun s => { s with gaps := (outer.began, outer.births) :: outer.gaps }
  let result ← caught work
  modify fun s => { s with
    env, package := outer.package, isStrict := outer.isStrict, began := outer.began
    gaps := outer.gaps }
  let saved := (← get).saved.length
  if count < saved then putBack count (saved + 1)
  ExceptT.mk (pure result)

def save (one : Saved) : Work Unit := modify fun s => { s with saved := one :: s.saved }

def bindFor (full : Octets) (id : Nat) : Work Unit := do
  save (.binding full ((← get).globals[full]?))
  bindShared full id

/-! ## Messages -/

/-- Where the script is, as messages tell it. -/
def place : Work Octets := do
  let s ← get
  let here := if s.line = 0 then []
    else " at ".toList ++ s.file ++ " line ".toList ++ natText s.line
  let reading := s.lastRead.bind fun name => (s.handles.lookup name).map (name, ·)
  let kind := match ← special "/" with
    | .text ['\n'] => " line ".toList
    | _ => " chunk ".toList
  match reading with
  | some (name, handle) =>
    if handle.records = 0 then return here ++ ".\n".toList
    else
      let shown := if name = "ARGV".toList then [] else name.takeWhile (· != ' ')
      return here ++ ", <".toList ++ shown ++ ['>'] ++ kind ++ natText handle.records ++
        ".\n".toList
  | none => return here ++ ".\n".toList

def failAt {α : Type} (text : String) : Work α := do
  throw (.died (.text (text.toList ++ (← place))))

def fixedCell (v : Scalar) : Work Nat := do
  let id ← newCell v
  modify fun s => { s with fixed := s.fixed.insert id }
  return id

def changeCell (id : Nat) (v : Scalar) : Work Unit := do
  let s ← get
  if !s.fixed.isEmpty && s.fixed.contains id then
    failAt "Modification of a read-only value attempted"
  setCell id v

def newTextName : Work Octets := do
  modify fun s => { s with texts := s.texts + 1 }
  return "(eval ".toList ++ natText (← get).texts ++ [')']

/-! ## Output -/

def printSize : Nat := 8192

def flush : Work Unit := do
  let text := (← get).out.text
  modify fun s => { s with out := {} }
  if !text.isEmpty then act (print text)

def setHandle (name : Octets) (handle : Handle) : Work Unit :=
  modify fun s => { s with
    handles := (name, handle) :: s.handles.filter fun entry => entry.1 != name }

def handle? (name : Octets) : Work (Option Handle) := return (← get).handles.lookup name

def flushHandle (name : Octets) : Work Unit := do
  match ← handle? name with
  | some handle =>
    match handle.channel with
    | some channel => do
      setHandle name { handle with pending := {} }
      act (modify fun m => m.put channel handle.pending.text)
    | none => pure ()
  | none => pure ()

def flushAll : Work Unit := do
  flush
  (← get).handles.forM fun entry => flushHandle entry.1

/-- Prints to a handle; the answer is whether that could be done. -/
def emitTo (name text : Octets) : Work Bool := do
  match String.ofList name, ← handle? name with
  | "STDERR", none => do
    act (printError text)
    return true
  | "STDOUT", none => do
    modify fun s => { s with out := s.out.add text }
    if printSize ≤ (← get).out.size || (← special "|").isTrue then flush
    return true
  | _, none => do
    setFault 9
    return false
  | _, some handle =>
    match handle.cell, handle.channel.isSome || handle.command.isSome with
    | some id, _ => do
      setCell id (.text ((← cell id).toText ++ text))
      return true
    | none, true => do
      setHandle name { handle with pending := handle.pending.add text }
      if handle.command.isNone && printSize ≤ handle.pending.size + text.length then
        flushHandle name
      return true
    | none, false => do
      setFault 9
      return false

def warn (text : Octets) : Work Unit := act (printError text)

/-! ## Commands -/

def environment : Work (List (Octets × Variable)) := do
  let id ← shared .table "ENV".toList
  let keys ← readTable id Table.keys
  keys.mapM fun key => do
    return (key, { value := some (← cell (← entryOf id key)).toText, exported := true })

def running {α : Type} (start : Act α) : Work α := do
  flushAll
  let bindings ← environment
  let keep (entry : Octets × Variable) : Bool := !entry.2.exported
  act do
    let outer ← get
    set { outer with bindings := bindings ++ outer.bindings.filter keep }
    let result ← start.attempt
    modify fun m => { m with bindings := outer.bindings }
    ExceptT.mk (pure result)

def needsShell (text : Octets) : Bool :=
  let text := if text.getLast? = some '\n' then text.dropLast else text
  let word := text.takeWhile isNameChar
  text.any (fun c => "$&*(){}[]\x27\x22;\\|?<>~\n".toList.contains c || isBackquote c) ||
    (text.drop word.length).head? = some '='

def startCommand (start : Starter) (words : List Octets) : Act (Option Fate) := do
  match words with
  | [text] =>
    if needsShell text then return some (← start.line text)
    else
      match wordsOfText (text.length + 1) text with
      | [] => return none
      | words => start.words words
  | words => start.words words

def noteFate (fate : Option Fate) : Work Int := do
  let n : Int := match fate with
    | some (.status n) => 256 * n
    | some (.signal n) => n
    | none => -1
  setSpecial "?" (.whole n)
  if fate.isNone then setFault 2
  return n

def outputOf (start : Starter) (words : List Octets) : Work (Tool.InputText × Option Fate) :=
  running do
    let outer ← get
    let (m, channel) := outer.newStream { text := [], capacity := some outer.capacity }
    set (m.connect 1 (some channel))
    let result ← (startCommand start words).attempt
    let m ← get
    set ((m.closeStream channel).connect 1 (outer.channel? 1))
    let stream := (m.stream? channel).getD { text := [] }
    let fate ← ExceptT.mk (pure result)
    return ({ rest := stream.rest, isCut := stream.isCut }, fate)

def feed (start : Starter) (words : List Octets) (text : Octets) : Work (Option Fate) :=
  running do
    let outer ← get
    let (m, channel) := outer.newStream { text }
    set (m.connect 0 (some channel))
    let result ← (startCommand start words).attempt
    modify fun m => (m.closeStream channel).connect 0 (outer.channel? 0)
    ExceptT.mk (pure result)

/-- Closes a handle; the answer is whether that could be done. -/
def closeHandle (start : Starter) (name : Octets) : Work Bool := do
  match ← handle? name with
  | none =>
    match String.ofList name with
    | "STDOUT" => do
      flush
      return true
    | "STDIN" | "STDERR" => return true
    | _ => return false
  | some handle => do
    flushHandle name
    modify fun s => { s with
      handles := s.handles.filter fun entry => entry.1 != name
      lastRead := s.lastRead.filter (· != name) }
    match handle.command, handle.fate with
    | some words, _ => do
      let n ← noteFate (← feed start words handle.pending.text)
      return n = 0
    | none, some fate => do
      let n ← noteFate (some fate)
      return n = 0
    | none, none => return true

/-! ## Input -/

/-- Takes a record from a text; `none` at its end. -/
def takeRecord (input : Tool.InputText) : Work (Option (Octets × Tool.InputText)) := do
  let ended (text : Octets) : Work (Option (Octets × Tool.InputText)) := do
    if input.isCut then act starve
    return if text.isEmpty then none else some (text, { input with rest := [] })
  match ← special "/" with
  | .undefined => ended input.rest
  | separator =>
    match separator.toText with
    | ['\n'] =>
      let line := firstLine input.rest
      if line.getLast? = some '\n' then
        return some (line, { input with rest := input.rest.drop line.length })
      else ended line
    | [] =>
      let text := input.rest.dropWhile (· == '\n')
      match placeOf? ['\n', '\n'] 0 text with
      | some size =>
        return some (text.take size ++ ['\n', '\n'],
          { input with rest := (text.drop size).dropWhile (· == '\n') })
      | none => ended text
    | mark =>
      match placeOf? mark 0 input.rest with
      | some size =>
        let size := size + mark.length
        return some (input.rest.take size, { input with rest := input.rest.drop size })
      | none => ended input.rest

def openStandard (name : Octets) : Work Unit := do
  if name = "STDIN".toList && (← handle? name).isNone then
    let input ← act (Tool.takeInput 0)
    setHandle name { input := some input }

/-- Takes a record from a handle. -/
def readFrom (name : Octets) : Work (Option Octets) := do
  openStandard name
  match ← handle? name with
  | none => return none
  | some handle => do
    modify fun s => { s with lastRead := some name }
    match handle.input with
    | none => return none
    | some input =>
      match ← takeRecord input with
      | none => do
        setHandle name { handle with input := some { input with rest := [] } }
        return none
      | some (text, input) => do
        setHandle name { handle with input := some input, records := handle.records + 1 }
        return some text

def endRewriting : Work Unit := do
  if (← get).rewritten.isSome then
    flushHandle "ARGVOUT".toList
    modify fun s => { s with
      rewritten := none, selected := "STDOUT".toList
      handles := s.handles.filter fun entry => entry.1 != "ARGVOUT".toList }

def beginRewriting (path : Octets) (ending old : Octets) : Work Unit := do
  if !ending.isEmpty then
    let backup := if ending.contains '*' then Tool.replaceAll ['*'] path (ending.length + 1) ending
      else path ++ ending
    let _ ← act (Tool.writeFile backup old)
  match ← act (Tool.openOutput false path) with
  | .ok channel => do
    setHandle "ARGVOUT".toList { channel := some channel }
    modify fun s => { s with rewritten := some path, selected := "ARGVOUT".toList }
  | .error _ => pure ()

/-- Opens the next operand; one that cannot be opened is reported and passed over. -/
def openNext : (fuel : Nat) → Work Bool
  | 0 => return false
  | fuel + 1 => do
    endRewriting
    let operands ← shared .list "ARGV".toList
    let first := !(← get).isReading
    let cells ← list operands
    let paths ← if first && cells.isEmpty then pure [['-']]
      else pure ((← (cells.toList.take 1).mapM cell).map Scalar.toText)
    if !(first && cells.isEmpty) then setList operands (cells.extract 1 cells.size)
    modify fun s => { s with isReading := true }
    match paths with
    | [] => return false
    | path :: _ => do
      setSpecial "ARGV" (.text path)
      let name := "ARGV".toList
      let handle := (← handle? name).getD {}
      match ← act (Tool.openInput path) with
      | .ok input => do
        setHandle name { handle with input := some input }
        match ← special "^I" with
        | .undefined => pure ()
        | ending => beginRewriting path ending.toText input.rest
        return true
      | .error .isADirectory => do
        setHandle name { handle with input := some { rest := [] } }
        return true
      | .error fault => do
        setFileFault fault
        warn ("Can't open ".toList ++ path ++ ": ".toList ++ fault.text.toList ++ (← place))
        openNext fuel

def fileBound : Nat := 1000000

def readOperands : (fuel : Nat) → Work (Option Octets)
  | 0 => return none
  | fuel + 1 => do
    let name := "ARGV".toList
    let handle := (← handle? name).getD {}
    if !(← get).isReading then
      setHandle name { handle with input := none }
      if ← openNext fileBound then readOperands fuel
      else
        modify fun s => { s with isReading := false }
        return none
    else
      match ← readFrom name with
      | some text => return some text
      | none => do
        if ← openNext fileBound then readOperands fuel
        else
          endRewriting
          modify fun s => { s with isReading := false }
          return none

def readRecord (name : Octets) : Work (Option Octets) :=
  if name.isEmpty || name = "ARGV".toList then readOperands fileBound else readFrom name

def readRecords (name : Octets) : (fuel : Nat) → Work (List Octets)
  | 0 => return []
  | fuel + 1 => do
    match ← readRecord name with
    | some text => return text :: (← readRecords name fuel)
    | none => return []

def isAtEnd (name : Octets) : Work Bool := do
  openStandard name
  match ← handle? name with
  | some handle => return (handle.input.map fun input => input.rest.isEmpty).getD true
  | none => return true

/-! ## Patterns -/

def pattern (text flags : Octets) : Work (Pattern × Groups) := do
  let flags := flags.filter fun c => "imsxn".toList.contains c
  let key := flags ++ '/' :: text
  match (← get).patterns[key]? with
  | some known => return known
  | none =>
    match readPattern (changeFlags {} true flags) text with
    | .ok read => do
      modify fun s => { s with patterns := s.patterns.insert key read }
      return read
    | .error problem => failAt (String.ofList (problem.message text))

end Work

end NextRelease.Shell.Perl
