import NextRelease.Shell.Program.Basic
import NextRelease.Shell.Tool.Values

/-!
Programs about programs: where they are, and in what circumstances they run.
-/

namespace NextRelease.Shell

namespace Search

def pathsOf (m : Machine) (word : Octets) : List Octets :=
  let paths := if word.contains '/' then [word]
    else m.searchPath.map fun directory =>
      (if directory.isEmpty then ['.'] else directory) ++ '/' :: word
  paths.filter fun path => !word.isEmpty && (m.programAt path).toOption.isSome

end Search

def which : Tool := fun name arguments => do
  finish 0
  match Tool.readOptions true (Tool.plainFlags "as") (arguments.length + 1) arguments with
  | .error text => do
    let letter := (text.dropWhile (· != '\x27')).drop 1 |>.takeWhile (· != '\x27')
    printError ("Illegal option -".toList ++ letter ++ ['\n'])
    printError ("Usage: /usr/bin/".toList ++ name ++ " [-as] args\n".toList)
    finish 2
  | .ok (options, words) => do
    if words.isEmpty then finish 1
    let m ← get
    words.forM fun word => do
      let paths := Search.pathsOf m word
      if paths.isEmpty then finish 1
      else if !options.has 's' then
        (if options.has 'a' then paths else paths.take 1).forM fun path => print (path ++ ['\n'])

/-! ## Other circumstances

Programs that do no more than run another one in other circumstances: with another environment, in
another directory, or less urgently.
-/

def absenceStatus (fault : FileFault) : Nat := if fault = .notFound then 127 else 126

def runAs (call : Caller) (mode : Mode) (name refusal : Octets) (words : List Octets) :
    Act Unit := do
  let program := words.head?.getD []
  match (← get).findProgram program with
  | .error fault =>
    Tool.fail (absenceStatus fault) name (refusal ++ ": ".toList ++ Tool.faultText fault)
  | .ok (path, found) => call mode path found program (words.drop 1)

namespace Environment

inductive SplitFault where
  | openQuote
  | expansion (rest : Octets)
  | escape (c : Char)
  | lastBackslash

def SplitFault.text : SplitFault → Octets
  | openQuote => "no terminating quote in -S string".toList
  | expansion rest =>
    "only $\x7bVARNAME\x7d expansion is supported, error at: ".toList ++ rest
  | escape c => "invalid sequence '\\".toList ++ c :: "' in -S".toList
  | lastBackslash => "invalid backslash at end of string in -S".toList

def splitWords (value : Octets → Option Octets) : (fuel : Nat) → Octets → (word : Option Octets) →
    (quote : Option Char) → Except SplitFault (List Octets)
  | 0, _, word, _ => .ok word.toList
  | _, [], word, none => .ok word.toList
  | _, [], _, some _ => .error .openQuote
  | fuel + 1, c :: cs, word, quote =>
    let take (text rest : Octets) : Except SplitFault (List Octets) :=
      splitWords value fuel rest (some (word.getD [] ++ text)) quote
    let ends (rest : Octets) : Except SplitFault (List Octets) := do
      return word.toList ++ (← splitWords value fuel rest none none)
    if some c = quote then splitWords value fuel cs word none
    else if quote.isNone && (c = '\x27' || c = '\x22') then
      splitWords value fuel cs (some (word.getD [])) (some c)
    else if quote.isNone && (isBlank c || (11 ≤ c.toNat && c.toNat ≤ 13)) then ends cs
    else if c = '#' && quote.isNone && word.isNone then .ok []
    else if c = '$' && quote != some '\x27' then
      match cs with
      | '\x7b' :: rest =>
        let name := rest.takeWhile isNameChar
        match rest.drop name.length with
        | '\x7d' :: rest =>
          if name.isEmpty then .error (.expansion (c :: cs))
          else
            match value name with
            | some text => take text rest
            | none => splitWords value fuel rest word quote
        | _ => .error (.expansion (c :: cs))
      | _ => .error (.expansion (c :: cs))
    else if c = '\\' then
      match quote, cs with
      | _, [] => .error .lastBackslash
      | some '\x27', d :: rest =>
        if d = '\x27' || d = '\\' then take [d] rest else take [c, d] rest
      | _, d :: rest =>
        match d with
        | '_' => if quote.isSome then take [' '] rest else ends rest
        | 'c' => if quote.isSome then .error (.escape 'c') else .ok word.toList
        | 'f' => take ['\x0c'] rest
        | 'n' => take ['\n'] rest
        | 'r' => take ['\r'] rest
        | 't' => take ['\t'] rest
        | 'v' => take ['\x0b'] rest
        | _ =>
          if "\"#$'\\".toList.contains d then take [d] rest else .error (.escape d)
    else take [c] cs

def flags : List Tool.Flag :=
  [⟨'i', "ignore-environment", false⟩, ⟨'0', "null", false⟩, ⟨'u', "unset", true⟩,
    ⟨'C', "chdir", true⟩, ⟨'S', "split-string", true⟩, ⟨'v', "debug", false⟩,
    ⟨'d', "default-signal", .maybe⟩, ⟨'g', "ignore-signal", .maybe⟩,
    ⟨'b', "block-signal", .maybe⟩, ⟨'l', "list-signal-handling", false⟩]

def readCall (value : Octets → Option Octets) : (fuel : Nat) → List Octets →
    Except (Octets × Bool) (Tool.Options × List Octets)
  | 0, words => .ok ([], words)
  | fuel + 1, words =>
    match Tool.readOptions true flags (words.length + 1) words with
    | .error text => .error (text, true)
    | .ok (options, rest) =>
      match options.value? 'S' with
      | none => .ok (options, rest)
      | some text =>
        match splitWords value (text.length + 1) text none none with
        | .error fault => .error (fault.text, false)
        | .ok inner => do
          let (more, rest) ← readCall value fuel (inner ++ rest)
          return ((options.filter fun option => option.1 != 'S') ++ more, rest)

def assign (bindings : List (Octets × Variable)) (key : Octets) (value : Option Octets) :
    List (Octets × Variable) :=
  let bound : Variable := { value, exported := true }
  if bindings.any (·.1 == key) then
    bindings.map fun entry => if entry.1 == key then (key, bound) else entry
  else bindings ++ [(key, bound)]

end Environment

/-- Runs a program with some of the environment changed. -/
def runEnv (call : Caller) (mode : Mode) (name : Octets) (arguments : List Octets) : Act Unit := do
  finish 0
  let outer ← get
  let valueOf (key : Octets) : Option Octets := (outer.bindings.lookup key).bind (·.value)
  match Environment.readCall valueOf 16 arguments with
  | .error (text, helps) => if helps then Tool.misuse 125 name text else Tool.fail 125 name text
  | .ok (options, words) =>
    -- a lone hyphen asks for an empty environment
    let isBare := words.head? = some ['-']
    let words := if isBare then words.drop 1 else words
    let isAssignment (word : Octets) : Bool := word.contains '='
    let assigned := words.takeWhile isAssignment
    let words := words.drop assigned.length
    if let some key := (options.values 'u').find? fun key => key.isEmpty || key.contains '=' then
      Tool.fail 125 name ("cannot unset ".toList ++ Tool.inQuotes key ++
        ": Invalid argument".toList)
      return
    if options.has '0' && !words.isEmpty then
      Tool.misuse 125 name "cannot specify --null (-0) with command".toList
      return
    if options.has 'C' && words.isEmpty then
      Tool.misuse 125 name "must specify command with --chdir (-C)".toList
      return
    let kept := if options.has 'i' || isBare then [] else
      outer.bindings.filter fun entry => entry.2.exported &&
        !(options.values 'u').contains entry.1
    let bindings := assigned.foldl
      (fun bindings word =>
        let (key, value) := Text.cut '=' word
        Environment.assign bindings key value)
      kept
    if words.isEmpty then
      let ending := if options.has '0' then '\x00' else '\n'
      bindings.forM fun entry => print (entry.1 ++ '=' :: (entry.2.value.getD []) ++ [ending])
    else
      let program := words.head?.getD []
      let directory := options.value? 'C'
      let fault := directory.bind fun path => match outer.status? path with
        | .ok .directory => none
        | .ok _ => some FileFault.notADirectory
        | .error fault => some fault
      if let some fault := fault then
        Tool.fail 125 name ("cannot change directory to ".toList ++
          Tool.shellQuoted (directory.getD []) ++ ": ".toList ++ Tool.faultText fault)
        return
      let place := directory.bind fun path => (outer.files.locate (outer.route path)).toOption
      set { outer with
        bindings, cwd := place.getD outer.cwd, logical := place.getD outer.logical }
      let m ← get
      let directories := if (m.value? "PATH".toList).isSome then m.searchPath
        else ["/bin".toList, "/usr/bin".toList]
      let found := if program.isEmpty then .error .notFound
        else m.findProgramIn directories program
      match found with
      | .error fault => do
        Tool.fail (absenceStatus fault) name
          (Tool.inQuotes program ++ ": ".toList ++ Tool.faultText fault)
        if fault = .notFound && program.any fun c => c == ' ' || (9 ≤ c.toNat && c.toNat ≤ 13) then
          Tool.report name "use -[v]S to pass options in shebang lines".toList
      | .ok (path, found) =>
        (call mode path found program (words.drop 1)).andFinally
          (modify fun m => { m with
            bindings := outer.bindings, cwd := outer.cwd, logical := outer.logical })

/-! ## Urgency -/

def readAdjustment (name : Octets) : (fuel : Nat) → (given : Option Octets) → List Octets →
    Except Octets (Option Octets × List Octets)
  | 0, given, words => .ok (given, words)
  | _, given, [] => .ok (given, [])
  | fuel + 1, given, word :: words =>
    let isNumeric := match word with
      | '-' :: '-' :: c :: _ | '-' :: '+' :: c :: _ | '-' :: c :: _ => c.isDigit
      | _ => false
    if isNumeric then readAdjustment name fuel (some (word.drop 1)) words
    else
      let flag : Tool.Flag := ⟨'n', "adjustment", true⟩
      match Tool.readOptions true [flag] (words.length + 2) (word :: words) with
      | .error text => .error text
      | .ok ([], rest) => .ok (given, rest)
      | .ok (options, rest) => readAdjustment name fuel ((options.value? 'n').or given) rest

def runNice (call : Caller) (mode : Mode) (name : Octets) (arguments : List Octets) : Act Unit := do
  finish 0
  match readAdjustment name (arguments.length + 1) none arguments with
  | .error text => Tool.misuse 125 name text
  | .ok (given, words) =>
    let bare := (given.getD "10".toList).dropWhile fun c => isBlank c
    let digits := if bare.head? = some '-' || bare.head? = some '+' then bare.drop 1 else bare
    if !isNumber digits then
      Tool.fail 125 name ("invalid adjustment ".toList ++ Tool.inQuotes (given.getD []))
    else if words.isEmpty then
      if given.isSome then Tool.misuse 125 name "a command must be given with an adjustment".toList
      else print ((toString (← get).niceness).toList ++ ['\n'])
    else
      let size : Int := if bare.head? = some '-' then -(readNat digits) else readNat digits
      let outer ← get
      set { outer with niceness := max (-20) (min 19 (outer.niceness + size)) }
      (runAs call mode name (Tool.inQuotes (words.head?.getD [])) words).andFinally
        (modify fun m => { m with niceness := outer.niceness })

def runUnhung (call : Caller) (mode : Mode) (name : Octets) (arguments : List Octets) :
    Act Unit := do
  finish 0
  match Tool.readOptions true [] (arguments.length + 1) arguments with
  | .error text => Tool.misuse 125 name text
  | .ok (_, []) => Tool.misuse 125 name "missing operand".toList
  | .ok (_, words) =>
    let refusal := "failed to run command ".toList ++ Tool.shellQuoted (words.head?.getD [])
    let outer ← get
    let hangUp := 1
    modify fun m => { m with
      traps := (m.traps.filter fun trap => trap.1 != hangUp) ++ [(hangUp, [])] }
    (runAs call mode name refusal words).andFinally
      (modify fun m => { m with traps := outer.traps })

def runBuffered (call : Caller) (mode : Mode) (name : Octets) (arguments : List Octets) :
    Act Unit := do
  finish 0
  let flags : List Tool.Flag :=
    [⟨'i', "input", true⟩, ⟨'o', "output", true⟩, ⟨'e', "error", true⟩]
  match Tool.readOptions true flags (arguments.length + 1) arguments with
  | .error text => Tool.misuse 125 name text
  | .ok (options, words) =>
    let isMode (value : Octets) : Bool := value == ['L'] || (Tool.count? value).isSome
    if options.any fun option => option.1 == 'i' && option.2 == ['L'] then
      Tool.misuse 125 name "line buffering stdin is meaningless".toList
    else
      match options.find? fun option => !isMode option.2, words with
      | some (_, value), _ => Tool.fail 125 name ("invalid mode ".toList ++ Tool.inQuotes value)
      | none, [] => Tool.misuse 125 name "missing operand".toList
      | none, words =>
        if options.isEmpty then
          Tool.misuse 125 name "you must specify a buffering mode option".toList
        else
          runAs call mode name
            ("failed to run command ".toList ++ Tool.inQuotes (words.head?.getD [])) words

/-! ## Limits

Programs that may only take some time.
-/

def nanoseconds? (text : Octets) : Option Nat :=
  match cutDecimal text with
  | some (digits, power, unit) =>
    let factor := match String.ofList unit with
      | "m" => 60
      | "h" => 3600
      | "d" => 86400
      | _ => 1
    if Tool.isDuration text then
      let exponent := power + 9
      if 0 ≤ exponent then some (digits * Nat.pow 10 exponent.toNat * factor)
      else some (digits * factor / Nat.pow 10 (-exponent).toNat)
    else none
  | none => if Tool.isDuration text then some (Nat.pow 10 24) else none

def runTimeout (call : Caller) (mode : Mode) (name : Octets) (arguments : List Octets) :
    Act Unit := do
  finish 0
  let flags :=
    [⟨'s', "signal", true⟩, ⟨'k', "kill-after", true⟩, ⟨'p', "preserve-status", false⟩,
      ⟨'v', "verbose", false⟩, ⟨'f', "foreground", false⟩]
  match Tool.readOptions true flags (arguments.length + 1) arguments with
  | .error text => Tool.misuse 125 name text
  | .ok (options, length :: program :: rest) =>
    let word := (options.value? 's').getD "TERM".toList
    let plainName := if (word.map Char.toUpper).take 3 == "SIG".toList then word.drop 3 else word
    match nanoseconds? length, (options.value? 'k').map nanoseconds?, signal? 0 plainName with
    | _, some none, _ =>
      Tool.misuse 125 name ("invalid time interval ".toList ++
        Tool.inQuotes ((options.value? 'k').getD []))
    | none, _, _ => Tool.misuse 125 name ("invalid time interval ".toList ++ Tool.inQuotes length)
    | _, _, none => Tool.misuse 125 name (Tool.inQuotes word ++ ": invalid signal".toList)
    | some most, killAfter, some signal =>
      match (← get).findProgram program with
      | .error fault =>
        let status := if fault = .notFound then 127 else 126
        Tool.fail status name ("failed to run command ".toList ++ Tool.inQuotes program ++
          ": ".toList ++ Tool.faultText fault)
      | .ok (path, found) => do
        let outer ← get
        let process := outer.nextProcess
        let limit := outer.files.now + Int.ofNat most
        let alarms : List Alarm := if most = 0 then [] else
          { time := limit, signal, process, toGroup := true } ::
            (killAfter.join.map fun more =>
              { time := limit + Int.ofNat more, signal := killSignal, process
                toGroup := true : Alarm }).toList
        set { outer with nextProcess := process + 1, alarms := outer.alarms ++ alarms }
        let result ← (call {} path found program rest).attempt
        modify fun m => { m with alarms := outer.alarms }
        let tell : Act Unit := do
          if options.has 'v' then
            Tool.report name ("sending signal ".toList ++ (signalName signal).toList ++
              " to command ".toList ++ Tool.inQuotes program)
        match result with
        | .error (.expired owner sent) =>
          if owner != process then throw (.expired owner sent)
          tell
          if sent = killSignal then
            if mode.last then throw (.killed killSignal) else noteEnd (.signal killSignal)
          else finish (if options.has 'p' then 128 + sent else 124)
        | result =>
          if most != 0 && limit ≤ (← get).files.now then
            tell
            match ← fateOf result with
            | .signal sent => finish (if options.has 'p' then 128 + sent else 124)
            | .status status => finish (if options.has 'p' then status else 124)
          else
            match ← fateOf result with
            | .signal sent =>
              if mode.last then throw (.killed sent) else noteEnd (.signal sent)
            | .status _ => pure ()
  | .ok _ => do
    printError (Tool.helpHint name)
    finish 125

end NextRelease.Shell
