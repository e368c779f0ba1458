import NextRelease.Shell.Edit.State
import NextRelease.Shell.Tool.Reading

/-!
Running scripts: each line is taken, the commands that are for it are carried out in order, and at
the end it is printed unless that was forbidden.
-/

namespace NextRelease.Shell.Edit

inductive Outcome where
  | goOn
  | jumped (place : Nat)
  | done
  | deleted
  | again

namespace Work

/-! ## Choosing lines -/

def faultAtEnd {α : Type} (reason : String) : Work α := do
  let source := (← get).settings.source
  let left := match source.file with
    | some _ => 0
    | none => source.text.length
  throw (.failed (.fault source left reason.toList))

def expressionFor (expression : Option Expression) : Work Expression := do
  match expression.or (← get).lastUsed with
  | some expression => do
    modify fun s => { s with lastUsed := some expression }
    return expression
  | none => faultAtEnd "no previous regular expression"

def addressHolds (address : Address) : Work Bool := do
  let s ← get
  match address with
  | .line n => return s.number == max n 1
  | .last => isLast
  | .holds expression => do
    let e ← expressionFor expression
    return (e.regex.find? e.manner s.space none).isSome
  | .every first step => return first ≤ s.number && (s.number - first) % step == 0
  | .after _ | .multiple _ => return false

def lastLine? (number : Nat) : Address → Option Nat
  | .line n => some n
  | .after count => some (number + count)
  | .multiple 0 => some number
  | .multiple factor => some ((number / factor + 1) * factor)
  | _ => none

def closeRange (place : Nat) : Work Unit :=
  modify fun s => { s with ranges := s.ranges.filter (·.1 != place) }

def isChosen (place : Nat) (choice : Choice) : Work Bool := do
  let s ← get
  match choice.start, choice.stop with
  | none, _ => return true
  | some start, none => addressHolds start
  | some start, some stop =>
    match s.ranges.lookup place with
    | some (some last) => do
      if last ≤ s.number then closeRange place
      return s.number ≤ last
    | some none => do
      if ← addressHolds stop then closeRange place
      return true
    | none => do
      if !(← addressHolds start) then return false
      let last := lastLine? s.number stop
      if last.all (s.number < ·) then
        modify fun s => { s with ranges := (place, last) :: s.ranges }
      return true

/-! ## Commands -/

def outputOf (start : Octets → Act Fate) (command : Octets) : Work Octets :=
  act (capture do
    let _ ← start command)

def runSpace (start : Octets → Act Fate) : Work Unit := do
  let s ← get
  let text ← outputOf start (Wide.toOctets s.space)
  let text := if text.getLast? == some s.settings.ending then text.dropLast else text
  modify fun s => { s with space := Wide.ofOctets text }

def replaced? (sub : Substitution) (e : Expression) (line : List Char) : Option (List Char) :=
  let all := e.regex.findAll e.manner (line.length + 2) line none false
  let first := sub.first.getD 1
  let isReplaced (n : Nat) : Bool := if sub.all then first ≤ n else n == first
  let front := (all.zipIdx 1).flatMap fun (found, n) =>
    found.before ++ if isReplaced n then replacement found none sub.pieces else found.text
  if (all.zipIdx 1).any fun (_, n) => isReplaced n then
    some (front ++ (all.getLast?.map (·.after)).getD line)
  else none

def substitute (start : Octets → Act Fate) (sub : Substitution) : Work Unit := do
  let e ← expressionFor sub.expression
  if let some reason := if e.isBare then lostGroup? e sub.pieces else none then faultAtEnd reason
  match replaced? sub e (← get).space with
  | none => return ()
  | some space => do
    modify fun s => { s with space, replaced := true }
    if sub.prints = .beforeRun then putLine space
    if sub.runs then runSpace start
    let s ← get
    if sub.prints = .afterRun then putLine s.space
    match sub.target with
    | some path => writeLine path s.space s.isWhole
    | none => return ()

def listedChar (c : Char) : Octets :=
  match c with
  | '\\' => "\\\\".toList
  | '\x07' => "\\a".toList
  | '\x08' => "\\b".toList
  | '\x0c' => "\\f".toList
  | '\n' => "\\n".toList
  | '\r' => "\\r".toList
  | '\t' => "\\t".toList
  | '\x0b' => "\\v".toList
  | c =>
    if 32 ≤ c.toNat && c.toNat < 127 then [c]
    else
      let digits := Nat.toDigits 8 c.toNat
      '\\' :: List.replicate (3 - digits.length) '0' ++ digits

def listed (width : Nat) : (column : Nat) → Octets → Octets
  | _, [] => ['$']
  | column, c :: cs =>
    let text := listedChar c
    if 0 < width && width - 1 < column + text.length then
      '\\' :: '\n' :: text ++ listed width text.length cs
    else text ++ listed width (column + text.length) cs

def behindBlock : (depth : Nat) → List Command → Nat
  | _, [] => 0
  | depth, command :: commands =>
    match command.action, depth with
    | .opening, depth => behindBlock (depth + 1) commands + 1
    | .closing, 0 => 1
    | .closing, depth + 1 => behindBlock depth commands + 1
    | _, depth => behindBlock depth commands + 1

def labelPlace (program : Array Command) (name : Octets) : Nat :=
  let places := program.toList.zipIdx.filterMap fun (command, place) =>
    match command.action with
    | .label other => if name == other then some place else none
    | _ => none
  if name.isEmpty then program.size else places.getLast?.getD program.size

def exchangeChar (source goal : List Char) (c : Char) : Char := ((source.zip goal).lookup c).getD c

def queueUp (queued : Queued) : Work Unit :=
  modify fun s => { s with queue := s.queue ++ [queued] }

def perform (start : Octets → Act Fate) (place : Nat) (action : Action) : Work Outcome := do
  let s ← get
  let ending := s.settings.ending
  let space := s.space
  match action with
  | .opening | .closing | .label _ => return .goOn
  | .delete => return .deleted
  | .deleteFirst =>
    if space.contains ending then
      set { s with space := (space.dropWhile (· != ending)).drop 1 }
      return .again
    else return .deleted
  | .print => putLine space
  | .printFirst =>
    if space.contains ending then
      putText (Wide.toOctets (space.takeWhile (· != ending)) ++ [ending])
    else putLine space
  | .quit prints status => do
    if prints then
      if !s.settings.isQuiet then putLine space
      putQueue
    throw (.quit status)
  | .lineNumber => putText (natText s.number ++ [ending])
  | .fileName => putText (s.inputName ++ [ending])
  | .list width =>
    putText (listed (width.getD s.settings.width) 0 (Wide.toOctets space) ++ [ending])
  | .substitute sub => substitute start sub
  | .exchange source goal => set { s with space := space.map (exchangeChar source goal) }
  | .append text => queueUp (.text text)
  | .insert text => putText text
  | .change text => do
    -- of a range of lines only the last one is answered with the text
    if (s.ranges.lookup place).isNone then putText text
    return .deleted
  | .run none => runSpace start
  | .run (some command) => putText (← outputOf start command)
  | .next => do
    if ← isLast then return .done
    if !s.settings.isQuiet then putLine space
    match ← takeLine? with
    | some line => modify fun s => { s with space := line }
    | none => return .deleted
  | .join => do
    if ← isLast then return .done
    match ← takeLine? with
    | some line => modify fun s => { s with space := space ++ ending :: line }
    | none => return .deleted
  | .hold appends => set { s with held := if appends then s.held ++ ending :: space else space }
  | .recall appends =>
    set { s with space := if appends then space ++ ending :: s.held else s.held }
  | .swap => set { s with space := s.held, held := space }
  | .clear => set { s with space := [] }
  | .jump kind name => do
    let jumps := match kind with
      | .always => true
      | .ifReplaced => s.replaced
      | .unlessReplaced => !s.replaced
    -- what has been replaced counts from the last time that it was asked for
    if kind != .always then set { s with replaced := false }
    if jumps then return .jumped (labelPlace s.program name)
  | .readFile path isFirst =>
    if isFirst then
      match ← contentOf path with
      | .ok text => putText text
      | .error _ => pure ()
    else queueUp (.file path)
  | .readLine path =>
    match ← takeLineOf path with
    | some text => queueUp (.text text)
    | none => pure ()
  | .write path onlyFirst =>
    if onlyFirst && space.contains ending then
      writeLine path (space.takeWhile (· != ending)) true
    else writeLine path space s.isWhole
  return .goOn

def runFrom (start : Octets → Act Fate) : (fuel : Nat) → (place : Nat) → Work Outcome
  | 0, _ => return .done
  | fuel + 1, place => do
    let program := (← get).program
    match program[place]? with
    | none => return .done
    | some command =>
      if (← isChosen place command.choice) != command.choice.negated then
        match ← perform start place command.action with
        | .goOn => runFrom start fuel (place + 1)
        | .jumped goal => runFrom start fuel goal
        | outcome => return outcome
      else
        match command.action with
        | .opening =>
          runFrom start fuel (place + 1 + behindBlock 0 (program.toList.drop (place + 1)))
        | _ => runFrom start fuel (place + 1)

def runLines (start : Octets → Act Fate) : (fuel : Nat) → (keeps : Bool) → Work Unit
  | 0, _ => return ()
  | fuel + 1, keeps => do
    if !keeps then
      match ← takeLine? with
      | some line => modify fun s => { s with space := line }
      | none => throw (.quit 0)
    match ← runFrom start fuel 0 with
    | .again => runLines start fuel true
    | .deleted => runLines start fuel false
    | _ => do
      let s ← get
      if !s.settings.isQuiet then putLine s.space
      runLines start fuel false

end Work

/-! ## The call

The call of the editor: its options, its script, and the texts that it edits.
-/

def flags : List Tool.Flag :=
  [⟨'b', "binary", false⟩, ⟨'u', "unbuffered", false⟩, ⟨'u', "line-buffered", false⟩,
    ⟨'\x01', "debug", false⟩, ⟨'e', "expression", true⟩, ⟨'f', "file", true⟩,
    ⟨'\x02', "follow-symlinks", false⟩, ⟨'i', "in-place", .maybe⟩, ⟨'l', "line-length", true⟩,
    ⟨'n', "quiet", false⟩, ⟨'\x03', "posix", false⟩, ⟨'n', "silent", false⟩,
    ⟨'E', "regexp-extended", false⟩, ⟨'r', "", false⟩, ⟨'\x04', "sandbox", false⟩,
    ⟨'s', "separate", false⟩, ⟨'z', "null-data", false⟩, ⟨'z', "zero-terminated", false⟩]

def sourcesOf (name : Octets) : (number : Nat) → Tool.Options → Act (Option (List Source))
  | _, [] => return some []
  | number, (letter, value) :: options => do
    match letter with
    | 'e' => do
      let some more ← sourcesOf name (number + 1) options | return none
      return some ({ number, text := value } :: more)
    | 'f' =>
      match ← Tool.content value with
      | .ok text => do
        let some more ← sourcesOf name number options | return none
        return some ({ file := some value, text } :: more)
      | .error fault => do
        let reason := match fault with
          | .file .isADirectory => "read error on ".toList ++ value ++ ": Is a directory".toList
          | fault => "couldn't open file ".toList ++ value ++ ": ".toList ++ fault.text
        Tool.fail 4 name reason
        return none
    | _ => sourcesOf name number options

def keepingOf (options : Tool.Options) : Option Keeping :=
  (options.value? 'i').map fun suffix =>
    { pattern := if suffix.isEmpty then none
        else some (if suffix.contains '*' then suffix else '*' :: suffix)
      followsLinks := options.has '\x02' }

def asksForEnd (command : Command) : Bool :=
  let isLast (address : Option Address) : Bool := match address with
    | some .last => true
    | _ => false
  isLast command.choice.start || isLast command.choice.stop

/-- Edits all inputs; answers whether the script has left off before their end. -/
def editAll (start : Octets → Act Fate) (targets : List Octets) (script : Except Mistake Reading)
    (s : State) : Act Bool := do
  let work : Work Unit := do
    Work.openTargets targets
    match script with
    | .error mistake => throw (.failed mistake)
    | .ok _ =>
      tryCatch (Work.runLines start 1152921504606846976 false) fun halt => do
        match halt with
        | .quit _ => if s.settings.inPlace.isSome then Work.closeInput
        | .failed _ => pure ()
        throw halt
  let (result, s) ← work.run.run s
  print s.printed.text
  match result with
  | .error (.quit status) => do
    finish (if s.isMissing then 2 else status)
    match s.input with
    | some input => do
      if Tool.isStandard input.path then Tool.putBack input.lines.flatten
      return !input.lines.isEmpty
    | none => return false
  | .error (.failed mistake) => do
    Tool.fail mistake.status s.settings.name mistake.text
    return true
  | .ok () => return false

/-- Edits texts; `start` runs a command. -/
def call (start : Octets → Act Fate) : Tool := fun name arguments => do
  finish 0
  match Tool.readOptions false flags (arguments.length + 1) arguments with
  | .error text => Tool.misuse 1 name text
  | .ok (options, operands) =>
    let isGiven := options.any fun option => option.1 = 'e' || option.1 = 'f'
    if !isGiven && operands.isEmpty then
      Tool.misuse 1 name "no script specified".toList
      return
    let some given ← sourcesOf name 1 options | return
    let (sources, operands) := if isGiven then (given, operands)
      else ([{ number := 1, text := operands.head?.getD [] }], operands.drop 1)
    let style : Style :=
      { isExtended := options.has 'E' || options.has 'r', isConfined := options.has '\x04' }
    let (script, targets) := readScript style sources
    let keeping := keepingOf options
    let settings : Settings :=
      { name
        isQuiet := options.has 'n' || (script.toOption.any (·.isQuiet))
        isSeparate := options.has 's' || keeping.isSome
        inPlace := keeping
        ending := if options.has 'z' then '\x00' else '\n'
        width := ((options.value? 'l').map readNat).getD 70
        source := sources.getLast?.getD { text := [] } }
    let program := ((script.toOption.map (·.commands)).getD []).toArray
    let s : State :=
      { settings, program, paths := Tool.inputs operands
        ranges := Work.firstRanges program }
    if script.toOption.isSome && keeping.isSome && operands.isEmpty then
      Tool.fail 4 name "no input files".toList
      return
    let edit := editAll start targets script s
    let _ ← if program.any asksForEnd then readWhole edit else readEnough edit id

end NextRelease.Shell.Edit
