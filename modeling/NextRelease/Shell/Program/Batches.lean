import NextRelease.Shell.Program.Basic
import NextRelease.Shell.Sum
import NextRelease.Shell.Tool.Lines

/-!
Running a program again and again with what is read as its arguments. The text that is read is first
turned into steps, and the steps then fill command lines and run them.
-/

namespace NextRelease.Shell

namespace Batches

/-- How the text is taken apart and the command lines are filled. -/
structure Rule where
  words : Option Nat := none
  lines : Option Nat := none
  mark : Option Octets := none
  delimiter : Option Char := none
  last : Option Octets := none
  size : Nat := 131072
  isStrict : Bool := false

inductive Step where
  | word (text : Octets)
  | lineEnd
  | pause
  | line (text : Octets)
  | hole
  | fault (text : Octets)

inductive Mode where
  | space
  | normal
  | quoted (mark : Char)
  | escaped

structure Reading where
  mode : Mode := .space
  word : Octets := []
  length : Nat := 0
  isFirst : Bool := true
  isWord : Bool := false
  previous : Option Char := none
  hasWarned : Bool := false

def openQuote (mark : Char) : Octets :=
  ("unmatched " ++ (if mark = '\x22' then "double" else "single") ++
    " quote; by default quotes are special to xargs unless you use the -0 option").toList

def tooLong : Octets := "argument line too long".toList

def whole (text : Octets) : Octets := text.takeWhile (· != '\x00')

def wordSteps (rule : Rule) (text : Octets) : List Step × Bool :=
  if rule.last = some text then ([], true)
  else ([if rule.mark.isSome then .line text else .word text], false)

def steps (rule : Rule) (room : Nat) : Reading → Octets → List Step
  | r, [] =>
    if r.word.isEmpty then []
    else
      match r.mode with
      | .quoted mark => [.fault (openQuote mark)]
      | _ => (wordSteps rule (whole r.word.reverse)).1 ++ [.pause]
  | r, c :: cs =>
    let next := { r with previous := some c }
    let add : List Step :=
      let warned := r.hasWarned || c == '\x00'
      let warning := if c == '\x00' && !r.hasWarned then [Step.hole] else []
      if room ≤ r.length then warning ++ [.fault tooLong]
      else
        let mode := match r.mode with
          | .quoted mark => .quoted mark
          | _ => .normal
        warning ++ steps rule room
          { next with mode, word := c :: r.word, length := r.length + 1, hasWarned := warned } cs
    let inWord : List Step :=
      if c = '\n' then
        let ends := if r.previous.any fun c => c == ' ' || c == '\t' then [] else [Step.lineEnd]
        let found := wordSteps rule (whole r.word.reverse)
        if found.2 then ends ++ (if r.isFirst then [] else [.pause])
        else ends ++ found.1 ++ [.pause] ++ steps rule room { hasWarned := r.hasWarned } cs
      else if rule.mark.isNone && (c = ' ' || c = '\t') then
        let found := wordSteps rule (whole r.word.reverse)
        if found.2 then (if r.isFirst then [] else [.pause])
        else
          found.1 ++ steps rule room
            { next with mode := .space, word := [], length := 0, isFirst := false } cs
      else if c = '\\' then steps rule room { next with mode := .escaped } cs
      else if c = '\x27' || c = '\x22' then
        steps rule room { next with mode := .quoted c, isWord := true } cs
      else add
    match r.mode with
    | .space =>
      if c = ' ' || (9 ≤ c.toNat && c.toNat ≤ 13) then steps rule room next cs else inWord
    | .normal => inWord
    | .quoted mark =>
      if c = '\n' then [.fault (openQuote mark)]
      else if c = mark then steps rule room { next with mode := .normal } cs
      else add
    | .escaped => add

def itemSteps (rule : Rule) (room : Nat) (delimiter : Char) (text : Octets) : List Step :=
  (Tool.partsBefore delimiter text).flatMap fun item =>
    if room < item.length then [.fault tooLong]
    else
      let item := whole item
      [.lineEnd, if rule.mark.isSome then .line item else .word item, .pause]

/-! ## Command lines -/

structure Filling where
  words : List Octets := []
  size : Nat
  lines : Nat := 0
  hasRun : Bool := false
  status : Option Nat := none
  isOver : Bool := false

def sizeOf (words : List Octets) : Nat := (words.map fun word => word.length + 1).foldl (· + ·) 0

structure Runner where
  name : Octets
  rule : Rule
  command : List Octets
  run : List Octets → Act (Option Nat × Bool)

namespace Runner

def isFull (runner : Runner) (f : Filling) : Bool := runner.rule.words == some f.words.length

def runLine (runner : Runner) (f : Filling) (words : List Octets) : Act Filling := do
  let (status, isOver) ← runner.run words
  return { size := sizeOf runner.command, hasRun := true, status := status.or f.status, isOver }

def flush (runner : Runner) (f : Filling) : Act Filling :=
  runner.runLine f (runner.command ++ f.words.reverse)

def giveUp (runner : Runner) (f : Filling) (text : Octets) : Act Filling := do
  Tool.report runner.name text
  return { f with isOver := true, status := some 1 }

def noFit : Octets := "cannot fit single argument within argument list size limit".toList

def push (runner : Runner) (f : Filling) (word : Octets) : Act Filling := do
  let rule := runner.rule
  let size := word.length + 1
  if rule.size < f.size + size && f.words.isEmpty then return ← runner.giveUp f noFit
  if rule.size < f.size + size && rule.isStrict && (rule.words.isSome || rule.lines.isSome) then
    return ← runner.giveUp f "argument list too long".toList
  let f ← if rule.size < f.size + size then runner.flush f else pure f
  if f.isOver then return f
  let f := { f with words := word :: f.words, size := f.size + size }
  if runner.isFull f then runner.flush f else return f

def insert (runner : Runner) (f : Filling) (mark line : Octets) : Act Filling := do
  let size := runner.rule.size
  let words := runner.command.take 1 ++ (runner.command.drop 1).map fun word =>
    Tool.replaceAll mark line (word.length + 1) word
  if words.any fun word => size ≤ word.length then runner.giveUp f "command too long".toList
  else if size < sizeOf words then runner.giveUp f "argument list too long".toList
  else runner.runLine f words

def step (runner : Runner) (f : Filling) (step : Step) : Act Filling := do
  if f.isOver then return f
  match step with
  | .word text => runner.push f text
  | .lineEnd => return { f with lines := f.lines + 1 }
  | .pause =>
    match runner.rule.lines with
    | some count =>
      if count ≤ f.lines then return { (← runner.flush f) with lines := 0 } else return f
    | none => return f
  | .line text => runner.insert f (runner.rule.mark.getD []) text
  | .hole => do
    Tool.report runner.name
      ("WARNING: a NUL character occurred in the input.  It cannot be passed " ++
        "through in the argument list.  Did you mean to use the --null option?").toList
    return f
  | .fault text => do
    let f ← if runner.rule.mark.isSome || f.words.isEmpty || runner.rule.isStrict then pure f
      else runner.flush f
    if f.isOver then return f else runner.giveUp f text

def all (runner : Runner) (runsEmpty : Bool) (steps : List Step) : Act Nat := do
  let start := sizeOf runner.command
  let f : Filling := { size := start }
  let f ← if runner.rule.mark.isNone && runner.rule.size < start then runner.giveUp f noFit
    else steps.foldlM runner.step f
  let isLeft := !f.words.isEmpty || (runsEmpty && !f.hasRun)
  let f ← if runner.rule.mark.isNone && !f.isOver && isLeft then runner.flush f else pure f
  return f.status.getD 0

end Runner

/-! ## Calls -/

def readCount (letter : Char) (least : Int) (isFatal : Bool) (value : Octets) :
    Except Octets (Nat × Option Octets) :=
  let option := " for -".toList ++ letter :: " option".toList
  let text := value.dropWhile isBlank
  let digits := if text.head? == some '+' || text.head? == some '-' then text.drop 1 else text
  if !isNumber digits then .error ("invalid number \"".toList ++ value ++ ['\x22'] ++ option)
  else
    let n : Int := if text.head? == some '-' then -(readNat digits) else readNat digits
    if n < least then
      let reason := "value ".toList ++ value ++ option ++ " should be >= ".toList ++
        (toString least).toList
      if isFatal then .error reason else .ok (least.toNat, some reason)
    else .ok (n.toNat, none)

/-- Reads the character that ends an item. -/
def readDelimiter (text : Octets) : Except Octets Char :=
  let escape := "Invalid escape sequence ".toList ++ text ++
    " in input delimiter specification".toList
  let numbered (base : Nat) (most : String) (digits : Octets) : Except Octets Char :=
    let front := digits.takeWhile fun c => (Sum.digitOf? base c).isSome
    let value := (front.filterMap (Sum.digitOf? base)).foldl (fun n d => n * base + d) 0
    if 255 < value then .error (escape ++ "; character values must not exceed ".toList ++
      most.toList ++ ['.'])
    else if front.length < digits.length then
      .error (escape ++ "; trailing characters ".toList ++ digits.drop front.length ++
        " not recognised.".toList)
    else .ok (Char.ofNat value)
  match text with
  | [c] => .ok c
  | '\\' :: c :: cs =>
    match c with
    | 'a' => .ok '\x07'
    | 'b' => .ok '\x08'
    | 'f' => .ok '\x0c'
    | 'n' => .ok '\n'
    | 'r' => .ok '\r'
    | 't' => .ok '\t'
    | 'v' => .ok '\x0b'
    | '\\' => .ok '\\'
    | 'x' => numbered 16 "ff" cs
    | c => if c.isDigit then numbered 8 "377" (c :: cs) else .error (escape ++ ['.'])
  | _ =>
    .error ("Invalid input delimiter specification ".toList ++ text ++
      (": the delimiter must be either a single character or an escape sequence starting " ++
        "with \\.").toList)

def flags : List Tool.Flag :=
  [⟨'0', "null", false⟩, ⟨'a', "arg-file", true⟩, ⟨'d', "delimiter", true⟩, ⟨'E', "", true⟩,
    ⟨'e', "eof", .maybe⟩, ⟨'I', "", true⟩, ⟨'i', "replace", .maybe⟩, ⟨'L', "", true⟩,
    ⟨'l', "max-lines", .maybe⟩, ⟨'n', "max-args", true⟩, ⟨'o', "open-tty", false⟩,
    ⟨'p', "interactive", false⟩, ⟨'r', "no-run-if-empty", false⟩, ⟨'s', "max-chars", true⟩,
    ⟨'t', "verbose", false⟩, ⟨'x', "exit", false⟩, ⟨'P', "max-procs", true⟩,
    ⟨'S', "process-slot-var", true⟩]

abbrev Refusal := Octets × Bool

structure Reader where
  rule : Rule := {}
  remarks : List Octets := []

def Reader.remark (r : Reader) (text : Octets) : Reader := { r with remarks := r.remarks ++ [text] }

def Reader.forget (r : Reader) (isGiven : Bool) (former latter : String) (rule : Rule → Rule) :
    Reader :=
  if isGiven then
    { r with rule := rule r.rule }.remark
      ("warning: options " ++ former ++ " and " ++ latter ++
        " are mutually exclusive, ignoring previous " ++ former ++ " value").toList
  else r

def Reader.read (r : Reader) (option : Char × Octets) : Except Refusal Reader := do
  let count (least : Int) (isFatal : Bool) : Except Refusal (Nat × Option Octets) :=
    (readCount option.1 least isFatal option.2).mapError (·, true)
  let noWords (latter : String) (r : Reader) : Reader :=
    r.forget r.rule.words.isSome "--max-args" latter fun rule => { rule with words := none }
  let noLines (latter : String) (r : Reader) : Reader :=
    r.forget r.rule.lines.isSome "--max-lines" latter fun rule => { rule with lines := none }
  let noMark (latter : String) (r : Reader) : Reader :=
    r.forget r.rule.mark.isSome "--replace" latter fun rule => { rule with mark := none }
  let lined (latter : String) (n : Nat) : Reader :=
    let r := noMark latter (noWords latter r)
    { r with rule := { r.rule with lines := some n } }
  match option.1 with
  | '0' => return { r with rule := { r.rule with delimiter := some '\x00' } }
  | 'd' =>
    match readDelimiter option.2 with
    | .ok c => return { r with rule := { r.rule with delimiter := some c } }
    | .error text => throw (text, false)
  | 'E' | 'e' =>
    return { r with rule := { r.rule with last := if option.2.isEmpty then none else option.2 } }
  | 'I' | 'i' =>
    let latter := "--replace/-I/-i"
    let r := noLines latter (noWords latter r)
    let mark := if option.1 == 'i' && option.2.isEmpty then "\x7b\x7d".toList else option.2
    return { r with rule := { r.rule with mark := some mark } }
  | 'L' => return lined "-L" (← count 1 true).1
  | 'l' =>
    let n ← if option.2.isEmpty then pure 1 else (count 1 true).map (·.1)
    return lined "--max-lines/-l" n
  | 'n' =>
    let n := (← count 1 true).1
    let r := noLines "--max-args/-n" r
    if n = 1 && r.rule.mark.isSome then return r
    let r := noMark "--max-args/-n" r
    return { r with rule := { r.rule with words := some n } }
  | 's' =>
    let (n, remark) ← count 1 false
    let r := { r with rule := { r.rule with size := n } }
    return match remark with
      | some text => r.remark text
      | none => r
  | 'P' => do
    let _ ← count 0 true
    return r
  | 'x' => return { r with rule := { r.rule with isStrict := true } }
  | _ => return r

def readRule (options : Tool.Options) : Except Refusal Reader := do
  let r ← options.foldlM Reader.read {}
  if r.rule.delimiter.isSome && r.rule.last.isSome then
    return r.remark "warning: the -E option has no effect if -0 or -d is used.\n".toList
  return r

def outcome (name program : Octets) (fate : Fate) : Act (Option Nat × Bool) := do
  match fate with
  | .signal signal =>
    Tool.report name (program ++ ": terminated by signal ".toList ++ natText signal)
    return (some 125, true)
  | .status 255 =>
    Tool.report name (program ++ ": exited with status 255; aborting".toList)
    return (some 124, true)
  | .status 0 => return (none, false)
  | .status _ => return (some 123, false)

end Batches

def runBatches (call : Caller) (name : Octets) (arguments : List Octets) : Act Unit := do
  finish 0
  match Tool.readOptions true Batches.flags (arguments.length + 1) arguments with
  | .error text => Tool.misuse 1 name text
  | .ok (options, words) =>
    match Batches.readRule options with
    | .error (text, true) => Tool.misuse 1 name text
    | .error (text, false) => Tool.fail 1 name text
    | .ok reader => do
      reader.remarks.forM (Tool.report name)
      let command := if words.isEmpty then ["echo".toList] else words
      let program := command.head?.getD []
      let rule := reader.rule
      let source := options.value? 'a'
      let text ← match ← Tool.content (source.getD ['-']) with
        | .ok text => pure text
        | .error fault =>
          if let some path := source then
            Tool.fail 1 name ("Cannot open input file ".toList ++ Tool.inQuotes path ++
              ": ".toList ++ fault.text)
            return
          pure []
      let outer ← get
      if source.isNone then set (outer.connect 0 (some (.device .null)))
      let slot := options.value? 'S'
      let run (words : List Octets) : Act (Option Nat × Bool) := do
        let shown := Text.joinWith ' ' (words.map Tool.quotedIfPeculiar)
        if options.has 'p' then
          printError shown
          Tool.report name
            "failed to open /dev/tty for reading: No such device or address".toList
          return (some 1, true)
        if options.has 't' then printError (shown ++ ['\n'])
        let m ← get
        match m.findProgram program with
        | .error fault => do
          Tool.report name (program ++ ": ".toList ++ Tool.faultText fault)
          return (some (if fault = .notFound then 127 else 126), true)
        | .ok (path, found) =>
          if let some key := slot then
            let bound : Variable := { value := some ['0'], exported := true }
            modify fun m => { m with
              bindings := (m.bindings.filter fun entry => entry.1 != key) ++ [(key, bound)] }
          Batches.outcome name program (← awaitCall call path found program (words.drop 1))
      let room := rule.size - (if rule.mark.isSome then 0 else Batches.sizeOf command) - 1
      let steps := match rule.delimiter with
        | some c => Batches.itemSteps rule room c text
        | none => Batches.steps rule room {} text
      let runner : Batches.Runner := { name, rule, command, run }
      let status ← runner.all (!options.has 'r') steps
      modify fun m => { m.connect 0 (outer.channel? 0) with bindings := outer.bindings }
      finish status

end NextRelease.Shell
