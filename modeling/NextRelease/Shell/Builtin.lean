import NextRelease.Shell.Expand
import NextRelease.Shell.Format
import NextRelease.Shell.Signal
import NextRelease.Shell.Test

/-!
The commands that are part of the shell and run no other command. Each takes its arguments and
leaves a status.
-/

namespace NextRelease.Shell

/-! ## Arguments -/

def numberOf (text : Octets) : Act Nat := do
  let refuse : Act Nat := failWith ("Illegal number: ".toList ++ text)
  match Test.number text with
  | .ok n => if n < 0 || 2147483647 < n then refuse else return n.toNat
  | .error _ => refuse

def splitOptions (known : String) : List Octets → Act (Octets × List Octets)
  | [] => return ([], [])
  | word :: words => do
    match word with
    | ['-', '-'] => return ([], words)
    | '-' :: c :: cs => do
      match (c :: cs).find? fun c => !known.toList.contains c with
      | some c => failWith ("Illegal option -".toList ++ [c])
      | none => do
        let (options, words) ← splitOptions known words
        return (c :: cs ++ options, words)
    | _ => return ([], word :: words)

def splitAssignment (word : Octets) : Act (Octets × Option Octets) := do
  let (name, value) := Text.cut '=' word
  if !isName name then failWith (name ++ ": bad variable name".toList)
  return (name, value)

def singleQuoted (text : Octets) : Octets :=
  ['\x27'] ++ text.flatMap (fun c => if c = '\x27' then "'\"'\"'".toList else [c]) ++ ['\x27']

def byName (bindings : List (Octets × Variable)) : List (Octets × Variable) :=
  bindings.mergeSort fun a b => (compare a.1 b.1).isLE

def printVariables (front : String) (chosen : Variable → Bool) : Act Unit := do
  let m ← get
  (byName m.bindings).forM fun entry => do
    if chosen entry.2 then
      let value := match entry.2.value with
        | some value => '=' :: singleQuoted value
        | none => []
      print (front.toList ++ entry.1 ++ value ++ ['\n'])

/-! ## Output -/

def echo (arguments : List Octets) : Act Unit := do
  let (isPart, words) := match arguments with
    | ['-', 'n'] :: words => (true, words)
    | words => (false, words)
  let text := Text.joinWith ' ' words
  let (text, isCut) := unescape (text.length + 1) text
  print (if isPart || isCut then text else text ++ ['\n'])
  finish 0

def printf (arguments : List Octets) : Act Unit := do
  let (_, words) ← splitOptions "" arguments
  match words with
  | [] => failWith "usage: printf format [arg ...]".toList
  | text :: rest => do
    let f := format {} text (rest.length + 1) rest
    print f.out
    f.complaints.forM complain
    match f.ended with
    | some (.failed reason) => failWith reason
    | _ => finish (if f.complaints.isEmpty then 0 else 1)

def test (words : List Octets) : Act Unit := do
  match Test.check (← get) words with
  | .error problem => failWith problem.text
  | .ok holds => finish (if holds then 0 else 1)

def bracketTest (words : List Octets) : Act Unit :=
  if words.getLast? = some [']'] then test words.dropLast else failWith "missing ]".toList

/-! ## The working directory -/

def logicalNames (here : List String) (path : Octets) : List String :=
  let path := Path.ofString (textOf path)
  path.names.foldl (fun names name => if name = ".." then names.dropLast else names ++ [name])
    (if path.isAbsolute then [] else here)

def startsOnItsOwn (path : Octets) : Bool :=
  match (Text.splitOn '/' path).head? with
  | some first => path.head? == some '/' || first == ['.'] || first == ['.', '.']
  | none => false

def changeDirectory (arguments : List Octets) : Act Unit := do
  let (options, words) ← splitOptions "LP" arguments
  let m ← get
  let value (name : String) : Octets := (m.value? name.toList).getD []
  let (goal, shows) := match words with
    | [] => (value "HOME", false)
    | ['-'] :: _ => (value "OLDPWD", true)
    | goal :: _ => (goal, false)
  let isPhysical := options.getLast? = some 'P'
  let bases := if startsOnItsOwn goal then [] else Text.splitOn ':' (value "CDPATH")
  let goal := if goal.isEmpty then ['.'] else goal
  let wayFrom (base : Octets) : Octets :=
    if base.isEmpty || base.getLast? = some '/' then base ++ goal else base ++ '/' :: goal
  let found := bases.find? fun base => m.hasKind .directory (wayFrom base)
  let shows := shows || found.any fun base => !base.isEmpty
  let path := (found.map wayFrom).getD goal
  let names := logicalNames m.logical path
  let route := if isPhysical then m.route path else .ofNames names
  match m.files.status route, m.files.locate route with
  | .ok .directory, .ok place => do
    let logical := if isPhysical then place else names
    set { m with cwd := place, logical }
    let note (name : String) (names : List String) : Act Unit := do
      assign name.toList (Machine.directoryText names)
    note "OLDPWD" m.logical
    note "PWD" logical
    if shows then print (Machine.directoryText logical ++ ['\n'])
    finish 0
  | _, _ => failWith ("can't cd to ".toList ++ goal)

def printDirectory (arguments : List Octets) : Act Unit := do
  let (options, _) ← splitOptions "LP" arguments
  let m ← get
  print (Machine.directoryText (if options.getLast? = some 'P' then m.cwd else m.logical) ++ ['\n'])
  finish 0

/-! ## Variables -/

def saveVariable (name : Octets) : Act Unit :=
  modify fun m =>
    match m.saved with
    | [] => m
    | saved :: outer =>
      if (saved.lookup name).isSome then m
      else { m with saved := ((name, m.bindings.lookup name) :: saved) :: outer }

def declare (mark : Variable → Variable) (words : List Octets) : Act Unit := do
  words.forM fun word => do
    let (name, value) ← splitAssignment word
    match value with
    | some value => assign name value
    | none => pure ()
    modify fun m => m.setVariable name (some (mark ((m.bindings.lookup name).getD {})))
  finish 0

def exportNames (arguments : List Octets) : Act Unit := do
  let (options, words) ← splitOptions "p" arguments
  if !options.isEmpty || words.isEmpty then
    printVariables "export " Variable.exported
    finish 0
  else declare (fun v => { v with exported := true }) words

def readOnly (arguments : List Octets) : Act Unit := do
  let (options, words) ← splitOptions "p" arguments
  if !options.isEmpty || words.isEmpty then
    printVariables "readonly " Variable.readOnly
    finish 0
  else declare (fun v => { v with readOnly := true }) words

def makeLocal (words : List Octets) : Act Unit := do
  if (← get).saved.isEmpty then failWith "not in a function".toList
  words.forM fun word => do
    let (name, value) ← splitAssignment word
    saveVariable name
    match value with
    | some value => assign name value
    | none => pure ()
  finish 0

def unset (arguments : List Octets) : Act Unit := do
  let (options, names) ← splitOptions "vf" arguments
  if options.getLast? = some 'f' then
    modify fun m => { m with functions := m.functions.filter fun f => !names.contains f.1 }
  else
    names.forM fun name => do
      let m ← get
      if !isName name then failWith (name ++ ": bad variable name".toList)
      if ((m.bindings.lookup name).map Variable.readOnly).getD false then
        failWith (name ++ ": is read only".toList)
      set (m.setVariable name none)
  finish 0

/-! ## Options and arguments -/

def shellOptions : List (Option Char × String) :=
  optionLetters.map some |>.zip
    ["errexit", "noglob", "ignoreeof", "interactive", "monitor", "noexec", "stdin", "xtrace",
      "verbose", "vi", "emacs", "noclobber", "allexport", "notify", "nounset", "privileged"]
    |>.append [(none, "nolog"), (none, "debug")]

def setOption (isOn : Bool) (letter : Char) : Act Unit :=
  modify fun m =>
    let others := m.options.filter (· != letter)
    { m with options := if isOn then letter :: others else others }

def printOptions (asCommands : Bool) : Act Unit := do
  let m ← get
  if !asCommands then print "Current option settings\n".toList
  shellOptions.forM fun option => do
    let isOn := (option.1.map m.hasOption).getD false
    let name := option.2.toList
    if asCommands then
      print ((if isOn then "set -o " else "set +o ").toList ++ name ++ ['\n'])
    else
      print (name ++ List.replicate (16 - name.length) ' ' ++
        (if isOn then "on\n" else "off\n").toList)

/-- Sets the options at the head of the arguments; answers what is left, and whether a hyphen or two
ended them. -/
def setOptions : List Octets → Act (List Octets × Bool)
  | [] => return ([], false)
  | word :: words => do
    match word with
    | ['-', '-'] => return (words, true)
    | ['-'] => return (words, !words.isEmpty)
    | sign :: c :: cs =>
      if sign = '-' ∨ sign = '+' then
        let isOn := sign == '-'
        let letters := c :: cs
        letters.forM fun c => do
          if c != 'o' && !shellOptions.any (·.1 == some c) then
            failWith ("Illegal option ".toList ++ [sign, c])
          if c != 'o' then setOption isOn c
        if letters.contains 'o' then
          match words with
          | [] => do
            printOptions (!isOn)
            return ([], false)
          | name :: words => do
            match shellOptions.find? fun option => option.2.toList == name with
            | some (letter, _) => letter.toList.forM (setOption isOn)
            | none => failWith ("Illegal option ".toList ++ [sign] ++ "o ".toList ++ name)
            setOptions words
        else setOptions words
      else return (word :: words, false)
    | _ => return (word :: words, false)

def setShell (arguments : List Octets) : Act Unit := do
  if arguments.isEmpty then printVariables "" fun v => v.value.isSome
  else
    let (words, ends) ← setOptions arguments
    if ends || !words.isEmpty then
      modify fun m => { m with arguments := words, optionOffset := none }
  finish 0

def shift (arguments : List Octets) : Act Unit := do
  let count ← match arguments with
    | [] => pure 1
    | n :: _ => numberOf n
  let m ← get
  if m.arguments.length < count then failWith "can't shift that many".toList
  set { m with arguments := m.arguments.drop count, optionOffset := none }
  finish 0

/-- Takes the next option off the arguments. -/
def getOption (arguments : List Octets) : Act Unit := do
  let (_, words) ← splitOptions "" arguments
  match words with
  | known :: name :: rest => do
    let m ← get
    let words := if rest.isEmpty then m.arguments else rest
    let stored := max 1 (readNat ((m.value? "OPTIND".toList).getD ['1']))
    let isOver := words.length + 1 < stored
    let index := if isOver then 1 else stored
    let isQuiet := known.head? == some ':'
    let inWord := match if isOver then none else m.optionOffset with
      | some offset => if index ≤ 1 then [] else (words[index - 2]?.getD []).drop offset
      | none => []
    let finishWith (index : Nat) (offset : Option Nat) (found : Char) (argument : Option Octets)
        (status : Nat) : Act Unit := do
      match argument with
      | some value => assign "OPTARG".toList value
      | none => modify fun m => m.setVariable "OPTARG".toList none
      assign "OPTIND".toList (natText index)
      assign name [found]
      modify fun m => { m with optionOffset := offset }
      finish status
    let started : Option (Octets × Nat) :=
      if !inWord.isEmpty then some (inWord, index)
      else
        match words[index - 1]? with
        | some ['-', '-'] => none
        | some ('-' :: c :: cs) => some (c :: cs, index + 1)
        | _ => none
    match started with
    | some (c :: cs, index) => do
      let offset := if cs.isEmpty then none
        else some ((words[index - 2]?.getD []).length - cs.length)
      match if c = ':' then [] else known.dropWhile (· != c) with
      | [] =>
        if isQuiet then finishWith index offset '?' (some [c]) 0
        else
          printError ("Illegal option -".toList ++ [c, '\n'])
          finishWith index offset '?' none 0
      | _ :: ':' :: _ =>
        if !cs.isEmpty then finishWith index none c (some cs) 0
        else
          match words[index - 1]? with
          | some argument => finishWith (index + 1) none c (some argument) 0
          | none =>
            if isQuiet then finishWith index none ':' (some [c]) 0
            else
              printError ("No arg for -".toList ++ [c] ++ " option\n".toList)
              finishWith index none '?' none 0
      | _ => finishWith index offset c (some []) 0
    | _ =>
      let isMark := inWord.isEmpty && words[index - 1]? == some ['-', '-']
      let argument := m.value? "OPTARG".toList
      finishWith (if isMark then index + 1 else index) none '?' argument 1
  | _ => failWith "Usage: getopts optstring var [arg...]".toList

/-! ## Input -/

def readMarked (raw : Bool) : (fuel : Nat) → Act (Marked × Bool)
  | 0 => return ([], false)
  | fuel + 1 => do
    let line ← readLine 0
    let isWhole := line.getLast? == some '\n'
    let text := (withoutBreak line).filter fun c => c.toNat != 0
    if raw then return (marked false text, isWhole)
    else
      let (front, joins) := unquote text
      if joins && isWhole then
        let (more, isWhole) ← readMarked raw fuel
        return (front ++ more, isWhole)
      else return (front, isWhole)
where
  unquote : Octets → Marked × Bool
    | [] => ([], false)
    | ['\\'] => ([], true)
    | '\\' :: c :: cs => let (rest, joins) := unquote cs; ((c, true) :: rest, joins)
    | c :: cs => let (rest, joins) := unquote cs; ((c, false) :: rest, joins)

def lastField (separators : Octets) (text : Marked) : Octets :=
  let ends (c : Char × Bool) : Bool := !c.2 && separators.contains c.1
  let endsAsBlank (c : Char × Bool) : Bool := ends c && isBlank c.1
  let trim (cs : Marked) : Marked := (cs.reverse.dropWhile endsAsBlank).reverse
  let whole := trim text
  match whole.getLast? with
  | some c =>
    let field := trim whole.dropLast
    plain (if ends c && !field.any ends then field else whole)
  | none => []

def readFields (separators : Octets) : (count : Nat) → Marked → List Octets
  | 0, _ => []
  | count + 1, text =>
    let ends (c : Char × Bool) : Bool := !c.2 && separators.contains c.1
    let dropBlanks (cs : Marked) : Marked := cs.dropWhile fun c => ends c && isBlank c.1
    let text := dropBlanks text
    if count = 0 then [lastField separators text]
    else
      let field := text.takeWhile fun c => !ends c
      let rest := match dropBlanks (text.drop field.length) with
        | c :: rest => if ends c then dropBlanks rest else c :: rest
        | [] => []
      plain field :: readFields separators count rest

def readVariables (arguments : List Octets) : Act Unit := do
  let (names, isRaw) ← options arguments
  if names.isEmpty then failWith "arg count".toList
  let (line, isWhole) ← readMarked isRaw 10000
  let m ← get
  (names.zip (readFields m.separators names.length line)).forM fun entry => do
    if !isName entry.1 then failWith (entry.1 ++ ": bad variable name".toList)
    assign entry.1 entry.2
  finish (if isWhole then 0 else 1)
where
  options : List Octets → Act (List Octets × Bool)
    | ['-', 'p'] :: _ :: words => options words
    | words => do
      let (options, names) ← splitOptions "r" words
      return (names, options.contains 'r')

/-! ## Words that stand for texts -/

def aliasText (name text : Octets) : Octets := name ++ '=' :: singleQuoted text

def setAliases (words : List Octets) : Act Unit := do
  finish 0
  let m ← get
  if words.isEmpty then
    (m.aliases.mergeSort fun a b => (compare a.1 b.1).isLE).forM fun entry =>
      print (aliasText entry.1 entry.2 ++ ['\n'])
  words.forM fun word => do
    let m ← get
    match Text.cut '=' word with
    | (name, some text) =>
      set { m with aliases := (name, text) :: m.aliases.filter fun entry => entry.1 != name }
    | (name, none) =>
      match m.aliases.lookup name with
      | some text => print (aliasText name text ++ ['\n'])
      | none => do
        printError ("alias: ".toList ++ name ++ " not found\n".toList)
        finish 1

def removeAliases (arguments : List Octets) : Act Unit := do
  let (options, names) ← splitOptions "a" arguments
  finish 0
  if !options.isEmpty then modify fun m => { m with aliases := [] }
  names.forM fun name => do
    let m ← get
    if (m.aliases.lookup name).isSome then
      set { m with aliases := m.aliases.filter fun entry => entry.1 != name }
    else
      printError ("unalias: ".toList ++ name ++ " not found\n".toList)
      finish 1

/-! ## Permissions -/

def permissionText (mask : Nat) : Octets :=
  let side (who : Char) (denied : Nat) : Octets :=
    [who, '='] ++ (if denied / 4 % 2 = 0 then ['r'] else []) ++
      (if denied / 2 % 2 = 0 then ['w'] else []) ++ if denied % 2 = 0 then ['x'] else []
  Text.joinWith ',' [side 'u' (mask / 64), side 'g' (mask / 8), side 'o' mask]

def octalMask? : (value : Nat) → Octets → Option Nat
  | value, [] => some (value % 512)
  | value, c :: cs => (octalValue? c).bind fun d => octalMask? (value * 8 + d) cs

def permissionLetters (allowed : Nat) (letters : Octets) : Nat :=
  letters.foldl
    (fun value c => value ||| match c with
      | 'r' => 4
      | 'w' => 2
      | 'x' => 1
      | 'u' => allowed / 64 % 8
      | 'g' => allowed / 8 % 8
      | 'o' => allowed % 8
      | 'X' => if allowed &&& 0o111 = 0 then 0 else 1
      | _ => 0)
    0

/-- What is allowed when a mode of letters has changed what was allowed at first; `none` for a mode
that cannot be read. `sides` has a bit for each of those that the letters before an operator name. -/
def changeAllowed (first : Nat) : (fuel sides now : Nat) → Octets → Option Nat
  | 0, _, _, _ => none
  | _, _, now, [] => some now
  | fuel + 1, sides, now, cs =>
    let who := cs.takeWhile ("augo".toList.contains ·)
    let named := who.foldl
      (fun sides c => sides ||| match c with
        | 'u' => 0o100
        | 'g' => 0o010
        | 'o' => 0o001
        | _ => 0o111)
      sides
    let named := if named = 0 then 0o111 else named
    match cs.drop who.length with
    | operator :: rest =>
      let letters := rest.takeWhile ("rwxugoXs".toList.contains ·)
      let value := permissionLetters first letters * named
      let next? := match operator with
        | '-' => some (now - (now &&& value))
        | '=' => some (value ||| (now - (now &&& (named * 7))))
        | '+' => some (now ||| value)
        | _ => none
      match next?, rest.drop letters.length with
      | some next, ',' :: rest => changeAllowed first fuel 0 next rest
      | some next, rest =>
        if rest.isEmpty || (rest.head?.map ("=+-".toList.contains ·)).getD false then
          changeAllowed first fuel named next rest
        else none
      | none, _ => none
    | [] => none

def umask (arguments : List Octets) : Act Unit := do
  let (options, words) ← splitOptions "S" arguments
  let m ← get
  match words with
  | [] => do
    let digits := Nat.toDigits 8 m.mask
    print ((if options.isEmpty then List.replicate (4 - digits.length) '0' ++ digits
      else permissionText m.mask) ++ ['\n'])
  | word :: _ =>
    if (word.head?.map Char.isDigit).getD false then
      match octalMask? 0 word with
      | some mask => set { m with mask }
      | none => failWith ("Illegal number: ".toList ++ word)
    else
      match changeAllowed (511 - m.mask) (word.length + 1) 0 (511 - m.mask) word with
      | some allowed => set { m with mask := 511 - allowed }
      | none => failWith ("Illegal mode: ".toList ++ word)
  finish 0

/-! ## Leaving -/

def statusOf (arguments : List Octets) : Act Nat := do
  match arguments with
  | [] => return (← get).status
  | n :: _ => numberOf n

def exitShell (arguments : List Octets) : Act Unit := do
  match arguments, (← get).leaving with
  | [], some status => finish status
  | _, _ => finish (← statusOf arguments)
  throw .exit

def returnFrom (arguments : List Octets) : Act Unit := do
  finish (← statusOf arguments)
  throw .returned

def leaveLoops (stop : Nat → Stop) (arguments : List Octets) : Act Unit := do
  let count ← match arguments with
    | [] => pure 1
    | n :: _ => numberOf n
  if count = 0 then failWith ("Illegal number: ".toList ++ arguments.head?.getD [])
  let m ← get
  finish 0
  if m.loops != 0 then throw (stop (min count m.loops))

/-! ## Signals -/

def takeSignal (signal : Nat) : Act Unit := do
  let m ← get
  match m.traps.lookup signal with
  | some text => if !text.isEmpty then set { m with pending := m.pending ++ [signal] }
  | none => if !harmlessSignals.contains signal then throw (.killed signal)

def sendSignal (signal process : Nat) : Act Bool := do
  let m ← get
  if process = m.process then
    if m.isPart then
      if signal != 0 then set { m with sent := m.sent ++ [signal] }
    else
      let traps := if signal = killSignal then m.traps.filter (·.1 != killSignal) else m.traps
      set { m with traps }
      if signal != 0 then takeSignal signal
    return true
  else return false

def killUsage : Octets :=
  ("Usage: kill [-s sigspec | -signum | -sigspec] [pid | job]... or\n" ++
    "kill -l [exitstatus]").toList

def listSignals : List Octets → Act Unit
  | [] => do
    print "0\n".toList
    signalNames.forM fun name => print (name.toList ++ ['\n'])
    finish 0
  | word :: _ => do
    let number ← numberOf word
    let number := if 128 < number then number - 128 else number
    if number = 0 || signalNames.length < number then
      failWith ("invalid signal number or exit status: ".toList ++ word)
    print ((signalName number).toList ++ ['\n'])
    finish 0

/-- Sends a signal to processes as `send` does, which takes a word for a process. -/
def kill (send : Nat → Octets → Act Bool) (arguments : List Octets) : Act Unit := do
  let (signal, words) ← match arguments with
    | ['-', 'l'] :: words => pure (none, words)
    | ['-', 's'] :: name :: words => do
      match signal? 1 name with
      | some signal => pure (some signal, words)
      | none => failWith ("invalid signal number or name: ".toList ++ name)
    | ['-', '-'] :: words => pure (some 15, words)
    | ('-' :: c :: cs) :: words => do
      match signal? 1 (c :: cs) with
      | some signal => pure (some signal, words)
      | none => failWith ("Illegal option -".toList ++ [c])
    | words => pure (some 15, words)
  match signal with
  | none => listSignals words
  | some signal => do
    if words.isEmpty then failWith killUsage
    let sent ← words.mapM fun word => do
      let isThere ← send signal word
      if !isThere then complain "No such process\n".toList
      return isThere
    finish (if sent.all id then 0 else 1)

def trap (arguments : List Octets) : Act Unit := do
  let (_, words) ← splitOptions "" arguments
  match words with
  | [] => do
    let traps := (← get).traps.mergeSort fun a b => a.1 ≤ b.1
    traps.forM fun entry =>
      print ("trap -- ".toList ++ singleQuoted entry.2 ++ ' ' :: (signalName entry.1).toList ++
        ['\n'])
    finish 0
  | first :: rest =>
    let (action, names) := if rest.isEmpty || isNumber first then (none, words)
      else (if first = ['-'] then none else some first, rest)
    setTraps action names
where
  setTraps (action : Option Octets) : List Octets → Act Unit
    | [] => finish 0
    | name :: names => do
      match signal? 0 name with
      | some signal => do
        modify fun m =>
          let others := m.traps.filter (·.1 != signal)
          { m with traps := match action with
            | some text => (signal, text) :: others
            | none => others }
        setTraps action names
      | none => do
        printError ("trap: ".toList ++ name ++ ": bad trap\n".toList)
        finish 1

/-! ## Limits -/

def resources : List (Char × String × String) :=
  [('t', "time(seconds)", "unlimited"), ('f', "file(blocks)", "unlimited"),
    ('d', "data(kbytes)", "unlimited"), ('s', "stack(kbytes)", "8192"),
    ('c', "coredump(blocks)", "0"), ('m', "memory(kbytes)", "unlimited"),
    ('l', "locked memory(kbytes)", "8192"), ('p', "process", "unlimited"),
    ('n', "nofiles", "1048576"), ('v', "vmemory(kbytes)", "unlimited"), ('w', "locks", "unlimited"),
    ('r', "rtprio", "0")]

def ulimit (arguments : List Octets) : Act Unit := do
  let (options, words) ← splitOptions "HSatfdscmlpnvwr" arguments
  let chosen := ((options.filter fun c => c != 'H' && c != 'S').getLast?).getD 'f'
  if options.contains 'a' then
    resources.forM fun resource => do
      let padding := List.replicate (20 - resource.2.1.length) ' '
      print (resource.2.1.toList ++ padding ++ ' ' :: resource.2.2.toList ++ ['\n'])
  else
    match words with
    | [] => print (((resources.lookup chosen).map (·.2)).getD "" ++ "\n").toList
    | [word] =>
      if word != "unlimited".toList && !isNumber word then failWith "bad number".toList
    | _ => failWith "too many arguments".toList
  finish 0

/-! ## All of them -/

def runningBuiltins : List String :=
  [".", "eval", "exec", "command", "wait", "jobs", "kill", "type", "hash", "fg", "bg"]

def builtins : List (String × (List Octets → Act Unit)) :=
  [(":", fun _ => finish 0), ("true", fun _ => finish 0), ("false", fun _ => finish 1),
    ("echo", echo), ("printf", printf), ("test", test), ("[", bracketTest),
    ("cd", changeDirectory), ("chdir", changeDirectory), ("pwd", printDirectory),
    ("export", exportNames), ("readonly", readOnly), ("local", makeLocal), ("unset", unset),
    ("set", setShell), ("shift", shift), ("getopts", getOption), ("read", readVariables),
    ("exit", exitShell), ("return", returnFrom), ("break", leaveLoops .broken),
    ("continue", leaveLoops .continued), ("trap", trap),
    ("umask", umask), ("alias", setAliases), ("unalias", removeAliases),
    ("ulimit", ulimit),
    ("times", fun _ => do
      print "0m0.000000s 0m0.000000s\n0m0.000000s 0m0.000000s\n".toList
      finish 0)]

def isBuiltin (name : Octets) : Bool :=
  let name := String.ofList name
  runningBuiltins.contains name || (builtins.lookup name).isSome

def isSpecial (name : Octets) : Bool :=
  name = "local".toList || specialCommands.contains (String.ofList name)

def declares (name : Octets) : Bool :=
  ["export", "readonly", "local"].contains (String.ofList name)

end NextRelease.Shell
