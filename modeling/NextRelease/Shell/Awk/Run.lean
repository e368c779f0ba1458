import NextRelease.Shell.Awk.Reader
import NextRelease.Shell.Awk.State
import NextRelease.Shell.Tool.Date

/-!
Running programs for records: expressions, statements and rules. Every step takes fuel, of which
there is more than any program uses that ends.
-/

namespace NextRelease.Shell.Awk

inductive Goal where
  | named (symbol : Symbol)
  | element (table : Nat) (key : Key)
  | field (number : Nat)

namespace Work

def caught (work : Work Unit) : Work (Option Leave) :=
  ExceptT.mk do
    match ← work.run with
    | .ok () => return .ok none
    | .error leave => return .ok (some leave)

/-! ## Variables and tables -/

def tableOf (symbol : Symbol) : Work (Option Nat) := do
  let s ← get
  match symbol with
  | .shared index =>
    return if (s.program.names[index]?.map (·.2)).getD false then some index else none
  | .parameter index =>
    match s.slots[index]? with
    | some (.table index) => return some index
    | _ => return none

def tableAt (symbol : Symbol) : Work Nat := return (← tableOf symbol).getD 0

def changeTable (index : Nat) (change : Table → Table) : Work Unit :=
  modify fun s => { s with tables := s.tables.modify index change }

def readTable {α : Type} (index : Nat) (look : Table → α) : Work α := do
  return look ((← get).tables[index]?.getD {})

def valueOf (symbol : Symbol) : Work Cell := do
  match symbol with
  | .shared index =>
    if index = Known.fieldCount then return .ofNat (← get).fields.size else known index
  | .parameter index =>
    match (← get).slots[index]? with
    | some (.cell cell) => return cell
    | _ => return .unset

def load (goal : Goal) : Work Cell := do
  match goal with
  | .named symbol => valueOf symbol
  | .element table key => do
    changeTable table fun t => t.use true key
    readTable table fun t => t.get key
  | .field number => field number

def store (goal : Goal) (cell : Cell) : Work Unit := do
  match goal with
  | .named (.shared index) =>
    if index = Known.fieldCount then
      let n := boundedWhole cell.toNumber
      if n < 0 then failAt "negative value assigned to NF".toList
      resize n.toNat
    else setKnown index cell
  | .named (.parameter index) =>
    modify fun s => { s with slots := s.slots.setIfInBounds index (.cell cell) }
  | .element table key => changeTable table fun t => (t.use true key).put key cell
  | .field number => setField number cell

def keyOf (cells : List Cell) : Work Key := do
  match cells with
  | [.text s] | [.input s] => return ⟨s, none⟩
  | [cell] => return Key.ofCell (← conversion) cell
  | cells => do
    let between ← knownText Known.subscriptSeparator
    return ⟨List.intercalate between (← cells.mapM spell), none⟩

/-! ## Functions of values -/

def partOf (text : Octets) (start : Int) (size : Option Int) : Octets :=
  let rest := text.drop (start - 1).toNat
  match size with
  | none => rest
  | some size => rest.take (if start < 0 then size - start else size).toNat

def indexOf (part : Octets) : (place : Nat) → Octets → Nat
  | place, [] => if part.isEmpty then place else 0
  | place, c :: cs => if part.isPrefixOf (c :: cs) then place else indexOf part (place + 1) cs

def secondsOf (text : Octets) : Option Int :=
  match (blankWords (text.length + 1) text).map fun word => boundedWhole (leadingNumber word).1 with
  | year :: month :: day :: hour :: minute :: second :: _ =>
    some ((Calendar.normalized year month day).number * 86400 + hour * 3600 + minute * 60 + second)
  | _ => none

def builtin (start : Start) (f : Builtin) (cells : List Cell) : Work Cell := do
  let x := (cells.head?.getD .unset).toNumber
  let text : Work Octets := spell (cells.head?.getD .unset)
  match f, cells with
  | .length, _ => return .ofNat (← text).length
  | .index, [_, part] => return .ofNat (indexOf (← spell part) 1 (← text))
  | .substr, _ :: first :: rest =>
    let size := rest.head?.map fun cell => boundedWhole cell.toNumber
    return .text (partOf (← text) (boundedWhole first.toNumber) size)
  | .sprintf, format :: cells => do
    let format ← spell format
    let filled := fill (← conversion) (format.length + 1) 1 format cells
    match filled.fault with
    | none => return .text filled.out
    | some fault => failAt (fault ++ "sprintf(\"".toList ++ format ++ "\")".toList)
  | .sin, _ => return .number x.sin
  | .cos, _ => return .number x.cos
  | .atan2, [_, y] => return .number (x.atan2 y.toNumber)
  | .exp, _ => return .number x.exp
  | .log, _ => return .number x.log
  | .int, _ => return .number (if x < 0 then x.ceil else x.floor)
  | .sqrt, _ => return .number x.sqrt
  | .rand, _ => do
    let s ← get
    let next := (s.seed * 1103515245 + 12345) % 2147483648
    set { s with seed := next }
    return .number (Float.ofNat next / 2147483648)
  | .srand, _ => do
    let s ← get
    let now := Tool.presentSeconds (← act get)
    let seed := if cells.isEmpty then now.toNat else (boundedWhole x).natAbs
    set { s with seed }
    return .ofNat s.seed
  | .close, _ => close start (← text)
  | .system, _ => do
    flushAll
    let fate ← act (start "sh" (← text))
    return .ofNat (fateNumber fate)
  | .toupper, _ => return .text ((← text).map Char.toUpper)
  | .tolower, _ => return .text ((← text).map Char.toLower)
  | .fflush, _ => do
    let name ← text
    if name.isEmpty then
      flushAll
      return .number 0
    if (← get).writers.any (·.name == name) then
      flushWriters
      return .number 0
    return .number (-1)
  | .systime, _ => return .number (Float.ofInt (Tool.presentSeconds (← act get)))
  | .mktime, _ => do
    let text ← text
    return .number (Float.ofInt ((secondsOf text).getD (-1)))
  | .strftime, _ => do
    let format ← text
    let now := Tool.presentSeconds (← act get)
    let seconds := match cells with
      | _ :: time :: _ => boundedWhole time.toNumber
      | _ => now
    let moment : Moment := { seconds }
    return .text (moment.text (if cells.isEmpty then "%c".toList else format))
  | _, _ => return .unset

/-! ## Substitution -/

def replacementFor (found : Octets) : Octets → Octets
  | '\\' :: '&' :: cs => '&' :: replacementFor found cs
  | '\\' :: '\\' :: cs => '\\' :: replacementFor found cs
  | '&' :: cs => found ++ replacementFor found cs
  | c :: cs => c :: replacementFor found cs
  | [] => []

def substituted (all : Bool) (r : Regex) (replacement text : Octets) : Octets × Nat :=
  let found := if all then Regex.findAll false r (text.length + 2) text none false
    else (Regex.find? false r text none).toList
  match found.getLast? with
  | none => (text, 0)
  | some last =>
    (found.flatMap (fun f => f.before ++ replacementFor f.text replacement) ++ last.after,
      found.length)

/-! ## Printing -/

def printedText (cell : Cell) : Work Octets := do
  match cell with
  | .number x =>
    match wholeText? x with
    | some s => return s
    | none => return writeNumber (← knownText Known.outputConversion) x
  | cell => spell cell

def printedLine (cells : List Cell) : Work Octets := do
  let ending ← knownText Known.outputRecordSeparator
  match cells with
  | [] => return (← record) ++ ending
  | cells => do
    let between ← knownText Known.outputFieldSeparator
    return List.intercalate between (← cells.mapM printedText) ++ ending

def newTable : Work Slot := do
  let index := (← get).tables.size
  modify fun s => { s with tables := s.tables.push {} }
  return .table index

def mostSlots : Nat := 1010

end Work

open Work

mutual

def eval (start : Start) : (fuel : Nat) → Expr → Work Cell
  | 0, _ => return .unset
  | fuel + 1, e => do
    match e with
    | .number x => return .number x
    | .text s => return .text s
    | .regex s => return .ofBool (Regex.find? false (← regex s) (← record) none).isSome
    | .named symbol => valueOf symbol
    | .group e => eval start fuel e
    | .element _ _ | .field _ => load (← goalOf start fuel e)
    | .assign target value => do
      -- the goal is found first: what the value does may change the subscripts
      let goal ← goalOf start fuel target
      let cell ← eval start fuel value
      store goal cell
      return cell
    | .update op target value => do
      let goal ← goalOf start fuel target
      let y := (← eval start fuel value).toNumber
      let cell := Cell.number (op.apply (← load goal).toNumber y)
      store goal cell
      return cell
    | .step up before target => do
      let goal ← goalOf start fuel target
      let x := (← load goal).toNumber
      let y := if up then x + 1 else x - 1
      store goal (.number y)
      return .number (if before then x else y)
    | .arithmetic op left right => do
      let x := (← eval start fuel left).toNumber
      let y := (← eval start fuel right).toNumber
      return .number (op.apply x y)
    | .negate e => return .number (-(← eval start fuel e).toNumber)
    | .plus e => return .number (← eval start fuel e).toNumber
    | .not e => return .ofBool !(← eval start fuel e).isTrue
    | .compare op left right => do
      let a ← eval start fuel left
      let b ← eval start fuel right
      return .ofBool (op.holds (compareCells (← conversion) a b))
    | .matches negated subject pattern => do
      let text ← spell (← eval start fuel subject)
      let r ← pattern? start fuel pattern
      return .ofBool ((Regex.find? false r text none).isSome != negated)
    | .both left right => do
      if (← eval start fuel left).isTrue then return .ofBool (← eval start fuel right).isTrue
      else return .ofBool false
    | .either left right => do
      if (← eval start fuel left).isTrue then return .ofBool true
      else return .ofBool (← eval start fuel right).isTrue
    | .choose condition accepted refused => do
      if (← eval start fuel condition).isTrue then eval start fuel accepted
      else eval start fuel refused
    | .join left right => do
      let a ← spell (← eval start fuel left)
      let b ← spell (← eval start fuel right)
      return .text (a ++ b)
    | .contains table subscripts => do
      let key ← keyOf (← evalAll start fuel subscripts)
      let index ← tableAt table
      changeTable index fun t => t.use false key
      return .ofBool (← readTable index fun t => t.has key)
    | .call function arguments => apply start fuel function arguments
    | .builtin .length [.named symbol] => do
      match ← tableOf symbol with
      | some index => return .ofNat (← readTable index Table.size)
      | none => return .ofNat (← spell (← valueOf symbol)).length
    | .builtin f arguments => do
      let cells ← evalAll start fuel arguments
      builtin start f cells
    | .find subject pattern => do
      let text ← spell (← eval start fuel subject)
      let r ← pattern? start fuel pattern
      let (place, size) : Nat × Int := match Regex.find? false r text none with
        | some found => (found.before.length + 1, found.text.length)
        | none => (0, -1)
      setKnown Known.matchStart (.ofNat place)
      setKnown Known.matchLength (.number (Float.ofInt size))
      return .ofNat place
    | .split subject table separator => do
      let text ← spell (← eval start fuel subject)
      let parts ← match separator with
        | none => do splitFields (← knownText Known.fieldSeparator) text
        | some (.regex s) => do
          let r ← regex s
          pure (if text.isEmpty then [] else splitAtMatches r (text.length + 1) text none)
        | some separator => do splitFields (← spell (← eval start fuel separator)) text
      let index ← tableAt table
      changeTable index fun _ => .ofList (parts.map .input)
      return .ofNat parts.length
    | .substitute all pattern replacement target => do
      let r ← pattern? start fuel pattern
      let replacement ← spell (← eval start fuel replacement)
      let goal ← goalOf start fuel target
      let text ← spell (← load goal)
      let (text, count) := substituted all r replacement text
      if count != 0 then store goal (.text text)
      return .ofNat count
    | .getline source operand target => do
      let goal ← match target with
        | none => pure (Goal.field 0)
        | some target => goalOf start fuel target
      match source with
      | .input => do
        match ← nextRecord fileBound with
        | none => return .number 0
        | some text => do
          store goal (.input text)
          return .number 1
      | source => do
        let name ← spell (← eval start fuel operand)
        match ← readFrom start (source == .command) name with
        | .error n => return .number (Float.ofInt n)
        | .ok text => do
          store goal (.input text)
          return .number 1
termination_by structural fuel => fuel

def evalAll (start : Start) : (fuel : Nat) → List Expr → Work (List Cell)
  | 0, _ => return []
  | fuel + 1, es => do
    match es with
    | [] => return []
    | e :: es => do
      let cell ← eval start fuel e
      return cell :: (← evalAll start fuel es)
termination_by structural fuel => fuel

def pattern? (start : Start) : (fuel : Nat) → Expr → Work Regex
  | 0, _ => return .empty
  | fuel + 1, e => do
    match e with
    | .regex s => regex s
    | e => do regex (← spell (← eval start fuel e))
termination_by structural fuel => fuel

def goalOf (start : Start) : (fuel : Nat) → Expr → Work Goal
  | 0, _ => return .field 0
  | fuel + 1, e => do
    match e with
    | .named symbol => return .named symbol
    | .element table subscripts => do
      let key ← keyOf (← evalAll start fuel subscripts)
      return .element (← tableAt table) key
    | .field number => return .field (← fieldNumber (← eval start fuel number))
    | _ => return .field 0
termination_by structural fuel => fuel

def handOver (start : Start) : (fuel : Nat) → List Bool → List Expr → Work (List Slot)
  | 0, _, _ => return []
  | fuel + 1, parameters, arguments => do
    match parameters, arguments with
    | [], _ => return []
    | isTable :: parameters, arguments => do
      let slot ← match isTable, arguments with
        | true, .named symbol :: _ => do
          match ← tableOf symbol with
          | some index => pure (Slot.table index)
          | none => newTable
        | true, _ => newTable
        | false, e :: _ => do pure (Slot.cell (← eval start fuel e))
        | false, [] => pure (Slot.cell .unset)
      return slot :: (← handOver start fuel parameters (arguments.drop 1))
termination_by structural fuel => fuel

def apply (start : Start) : (fuel : Nat) → (function : Nat) → List Expr → Work Cell
  | 0, _, _ => return .unset
  | fuel + 1, number, arguments => do
    match (← get).program.functions[number]? with
    | none => return .unset
    | some function => do
      let outer ← get
      let slots ← handOver start fuel function.parameters arguments
      modify fun s => { s with slots := slots.toArray, held := s.held + slots.length + 1 }
      if mostSlots < (← get).held then
        Work.failWith "program limit exceeded: eval stack size=1024".toList
      let ended ← caught (run start fuel function.body)
      modify fun s => { s with
        slots := outer.slots, held := outer.held, tables := s.tables.extract 0 outer.tables.size }
      match ended with
      | none => return .unset
      | some (.giveBack cell) => return cell
      | some leave => throw leave
termination_by structural fuel => fuel

def run (start : Start) : (fuel : Nat) → Statement → Work Unit
  | 0, _ => return ()
  | fuel + 1, statement => do
    match statement with
    | .expression e => do
      let _ ← eval start fuel e
    | .print formatted arguments target => do
      let cells ← evalAll start fuel arguments
      let (text, fault) ← match formatted, cells with
        | true, format :: cells => do
          let format ← spell format
          let filled := fill (← conversion) (format.length + 1) 1 format cells
          pure (filled.out, filled.fault.map fun fault =>
            fault ++ "printf(\"".toList ++ format ++ "\")".toList)
        | _, cells => do pure (← printedLine cells, none)
      match target with
      | none => emit text
      | some (target, name) => do
        let name ← spell (← eval start fuel name)
        printTo target name text
      match fault with
      | some fault => failAt fault
      | none => pure ()
    | .block statements => runAll start fuel statements
    | .choose condition accepted refused => do
      if (← eval start fuel condition).isTrue then run start fuel accepted
      else run start fuel refused
    | .loop testsFirst condition between body =>
      runLoop start fuel testsFirst condition between body
    | .each target table body => do
      let goal ← goalOf start fuel target
      let index ← tableAt table
      -- the keys that are there at first; what the turns do to the table makes no difference
      let keys ← readTable index fun t => t.keys.2
      changeTable index fun t => t.keys.1
      runEach start fuel goal keys body
    | .delete table subscripts => do
      let key ← keyOf (← evalAll start fuel subscripts)
      let index ← tableAt table
      changeTable index fun t => t.erase key
    | .clear table => do
      let index ← tableAt table
      changeTable index fun _ => {}
    | .next => throw .next
    | .nextFile => throw .nextFile
    | .exit status => do
      match status with
      | some e => do
        let n := boundedWhole (← eval start fuel e).toNumber
        modify fun s => { s with status := (n % 256).toNat }
      | none => pure ()
      throw .exit
    | .stop => throw .stop
    | .goOn => throw .goOn
    | .giveBack value => do
      match value with
      | some e => throw (.giveBack (← eval start fuel e))
      | none => throw (.giveBack .unset)
termination_by structural fuel => fuel

def runAll (start : Start) : (fuel : Nat) → List Statement → Work Unit
  | 0, _ => return ()
  | fuel + 1, statements => do
    match statements with
    | [] => return ()
    | s :: statements => do
      run start fuel s
      runAll start fuel statements
termination_by structural fuel => fuel

def runLoop (start : Start) : (fuel : Nat) → (testsFirst : Bool) →
  (condition between : Option Expr) →
    (body : Statement) → Work Unit
  | 0, _, _, _, _ => return ()
  | fuel + 1, testsFirst, condition, between, body => do
    let goesOn ← match testsFirst, condition with
      | true, some condition => do pure (← eval start fuel condition).isTrue
      | _, _ => pure true
    if goesOn then
      match ← caught (run start fuel body) with
      | none | some .goOn => do
        match between with
        | some e => do
          let _ ← eval start fuel e
        | none => pure ()
        runLoop start fuel true condition between body
      | some .stop => return ()
      | some leave => throw leave
termination_by structural fuel => fuel

def runEach (start : Start) : (fuel : Nat) → Goal → List Octets → (body : Statement) → Work Unit
  | 0, _, _, _ => return ()
  | fuel + 1, goal, keys, body => do
    match keys with
    | [] => return ()
    | key :: keys => do
      store goal (.text key)
      match ← caught (run start fuel body) with
      | none | some .goOn => runEach start fuel goal keys body
      | some .stop => return ()
      | some leave => throw leave
termination_by structural fuel => fuel

end

/-! ## Rules -/

def stepBound : Nat := 1152921504606846976

/-- Whether a rule is followed for the record. -/
def applies (start : Start) (trigger : Trigger) : Work Bool := do
  let holds (e : Expr) : Work Bool := do return (← eval start stepBound e).isTrue
  match trigger with
  | .always => return true
  | .when e => holds e
  | .range first last number => do
    let inside := ((← get).inRange[number]?).getD false
    let begins ← if inside then pure true else holds first
    if begins then
      let ends ← holds last
      modify fun s => { s with inRange := s.inRange.setIfInBounds number !ends }
    return begins
  | _ => return false

def follow (start : Start) (rule : Rule) : Work Unit := do
  if ← applies start rule.trigger then
    match rule.body with
    | some body => run start stepBound body
    | none => do emit (← printedLine [])

def runRecords (start : Start) (rules : List Rule) : (fuel : Nat) → Work Unit
  | 0 => return ()
  | fuel + 1 => do
    match ← nextRecord fileBound with
    | none => return ()
    | some text => do
      setRecord text
      match ← caught (rules.forM (follow start)) with
      | none | some .next => runRecords start rules fuel
      | some .nextFile => do
        modify fun s => { s with input := none }
        runRecords start rules fuel
      | some leave => throw leave

/-- Ends all that is read or printed to. -/
def finishStreams (start : Start) : Work Unit := do
  let writers := (← get).writers
  modify fun s => { s with writers := [] }
  flushFiles writers
  writers.forM fun w => do
    if w.channel.isNone then
      let _ ← endWriter start w
  flush
where
  flushFiles (writers : List OutputStream) : Work Unit :=
    writers.forM fun w => do
      if w.channel.isSome then
        let _ ← endWriter start w

def runProgram (start : Start) (program : Program) : Work Unit := do
  let isFirst (rule : Rule) : Bool := match rule.trigger with
    | .first => true
    | _ => false
  let isLast (rule : Rule) : Bool := match rule.trigger with
    | .last => true
    | _ => false
  let bodies (rules : List Rule) : Work Unit :=
    rules.forM fun rule => run start stepBound (rule.body.getD (.block []))
  let lasts := program.rules.filter isLast
  let others := program.rules.filter fun rule => !isFirst rule && !isLast rule
  let main : Work Unit := do
    bodies (program.rules.filter isFirst)
    if !lasts.isEmpty || !others.isEmpty then runRecords start others stepBound
  let goesOn ← match ← caught main with
    | some .failed => pure false
    | _ => pure true
  if goesOn then
    let _ ← caught (bodies lasts)
  finishStreams start

end NextRelease.Shell.Awk

/-! ## The call

How the program for records is called: with its text, which may stand in files, with values for
variables, and with what it is to read.
-/

namespace NextRelease.Shell.Awk

def versionText : String :=
  "mawk 1.3.4 20200120\nCopyright 2008-2019,2020, Thomas E. Dickey\n" ++
  "Copyright 1991-1996,2014, Michael D. Brennan\n\n" ++
  "random-funcs:       srandom/random\nregex-funcs:        internal\n" ++
  "compiled limits:\nsprintf buffer      8192\nmaximum-integer     2147483647\n"

def usageText : String :=
  "Usage: mawk [Options] [Program] [file ...]\n\nProgram:\n" ++
  "    The -f option value is the name of a file containing program text.\n" ++
  "    If no -f option is given, a \"--\" ends option processing; the following\n" ++
  "    parameters are the program text.\n\nOptions:\n" ++
  "    -f program-file  Program  text is read from file instead of from the\n" ++
  "                     command-line.  Multiple -f options are accepted.\n" ++
  "    -F value         sets the field separator, FS, to value.\n" ++
  "    -v var=value     assigns value to program variable var.\n" ++
  "    --               unambiguous end of options.\n\n" ++
  "    Implementation-specific options are prefixed with \"-W\".  They can be\n" ++
  "    abbreviated:\n\n" ++
  "    -W version       show version information and exit.\n" ++
  "    -W compat        pre-POSIX 2001.\n" ++
  "    -W dump          show assembler-like listing of program and exit.\n" ++
  "    -W help          show this message and exit.\n" ++
  "    -W interactive   set unbuffered output, line-buffered input.\n" ++
  "    -W exec file     use file as program as well as last option.\n" ++
  "    -W posix         stricter POSIX checking.\n" ++
  "    -W random=number set initial random seed.\n" ++
  "    -W sprintf=number adjust size of sprintf buffer.\n" ++
  "    -W usage         show this message and exit.\n"

structure Request where
  files : List Octets := []
  separator : Option Octets := none
  assignments : List Octets := []
  special : List Octets := []
  operands : List Octets := []

/-- Reads the arguments of a call, or tells what is wrong with them. -/
def readRequest : (fuel : Nat) → List Octets → Except Octets Request
  | 0, operands => .ok { operands }
  | fuel + 1, words => do
    match words with
    | ['-', '-'] :: operands => return { operands }
    | ('-' :: '-' :: name) :: words => do
      let request ← readRequest fuel words
      return { request with special := name :: request.special }
    | ('-' :: c :: attached) :: words => do
      let takes (use : Octets → Request → Request) : Except Octets Request := do
        if !attached.isEmpty then return use attached (← readRequest fuel words)
        match words with
        | value :: words => return use value (← readRequest fuel words)
        | [] => throw ("option -".toList ++ [c] ++ " lacks argument".toList)
      match c with
      | 'f' => takes fun value r => { r with files := value :: r.files }
      | 'F' => takes fun value r => { r with separator := some (r.separator.getD value) }
      | 'v' => takes fun value r => { r with assignments := value :: r.assignments }
      | 'W' => takes fun value r => { r with special := value :: r.special }
      | c => throw ("not an option: -".toList ++ c :: attached)
    | operands => return { operands }

def programText (name : Octets) (files : List Octets) : Act (Option Octets) := do
  let texts ← files.mapM fun path => do
    match ← Tool.openInput path with
    | .ok text => return some text.rest
    | .error fault => do
      Tool.fail 2 name ("cannot open \"".toList ++ path ++ "\" (".toList ++ fault.text.toList ++
        [')'])
      return none
  return (texts.mapM id).map fun texts => List.intercalate ['\n'] texts

def startState (name : Octets) (program : Program) (operands : List Octets)
    (environment : List (Octets × Octets)) : State :=
  let cells : Array Cell := Array.replicate program.names.size .unset
  let set (cells : Array Cell) (index : Nat) (cell : Cell) : Array Cell :=
    cells.setIfInBounds index cell
  let known : List (Nat × Cell) :=
    [(Known.recordCount, .number 0), (Known.fileRecordCount, .number 0),
      (Known.fieldSeparator, .text [' ']), (Known.outputFieldSeparator, .text [' ']),
      (Known.outputRecordSeparator, .text ['\n']), (Known.recordSeparator, .text ['\n']),
      (Known.subscriptSeparator, .text ['\x1c']), (Known.conversion, .text "%.6g".toList),
      (Known.outputConversion, .text "%.6g".toList),
      (Known.argumentCount, .ofNat (operands.length + 1))]
  let cells := known.foldl (fun cells (index, cell) => set cells index cell) cells
  let words := name :: operands
  let arguments := (words.zip (List.range words.length)).map fun (word, n) =>
    (natText n, Cell.input word)
  let tables : Array Table := Array.replicate program.names.size {}
  let tables := tables.setIfInBounds Known.arguments (.ofPairs arguments)
  let tables := tables.setIfInBounds Known.environment
    (.ofPairs (environment.map fun entry => (entry.1, .input entry.2)))
  { name, program, cells, tables, inRange := Array.replicate program.ranges false }

def call (start : Start) : Tool := fun path arguments => do
  finish 0
  let name := ((Text.splitOn '/' path).getLast?).getD path
  let complain (text : Octets) : Act Unit := Tool.fail 2 name text
  match readRequest (arguments.length + 1) arguments with
  | .error text => complain text
  | .ok request => do
    let special := request.special.map String.ofList
    let known :=
      ["version", "help", "usage", "posix", "compat", "interactive", "dump", "traditional"]
    let isFor (word full : String) : Bool := word.toList.isPrefixOf full.toList && word != ""
    match special.find? fun word => !known.any (isFor word) with
    | some word => complain ("not an option: --".toList ++ word.toList)
    | none =>
      if special.any fun word => isFor word "version" then print versionText.toList
      else if special.any fun word => isFor word "help" || isFor word "usage" then
        print usageText.toList
      else if request.files.isEmpty && request.operands.isEmpty then
        printError usageText.toList
      else
        match request.assignments.find? fun word => !Work.isAssignment word with
        | some word => complain ("improper assignment: -v ".toList ++ word)
        | none => do
          let text ← if request.files.isEmpty then pure request.operands.head?
            else programText name request.files
          let operands := if request.files.isEmpty then request.operands.drop 1
            else request.operands
          match text with
          | none => pure ()
          | some text =>
            let pairs := request.assignments.map fun word => Text.cut '=' word
            match readProgram text (pairs.map (·.1)) with
            | .error messages => do
              messages.forM (Tool.report name)
              finish 2
            | .ok program => do
              let state := startState name program operands (← get).environment
              let work : Work Unit := do
                match request.separator with
                | some value => Work.assignNamed "FS".toList value
                | none => pure ()
                pairs.forM fun (name, value) => Work.assignNamed name (value.getD [])
                runProgram start program
              let (_, state) ← work.run.run state
              finish state.status

end NextRelease.Shell.Awk
