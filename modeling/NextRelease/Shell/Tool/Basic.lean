import NextRelease.Shell.Machine

/-!
What the tools have in common: their options, their messages, and how they get at what they read. A
tool is given the name by which it was called and its arguments; the status that it leaves is zero
until something goes wrong.
-/

namespace NextRelease.Shell

abbrev Tool := (name : Octets) → (arguments : List Octets) → Act Unit

namespace Tool

/-! ## Messages -/

def isPeculiar (c : Char) : Bool :=
  " !\"#$&'()*;<=>?[\\^|~\t\n".toList.contains c || isBackquote c || c.toNat < 32

def isBrace (c : Char) : Bool := c == '\x7b' || c == '\x7d'

def hiddenEscape? (c : Char) : Option Octets :=
  match c with
  | '\n' => some "\\n".toList
  | '\t' => some "\\t".toList
  | '\r' => some "\\r".toList
  | c =>
    match c.toNat with
    | 7 => some "\\a".toList
    | 8 => some "\\b".toList
    | 11 => some "\\v".toList
    | 12 => some "\\f".toList
    | n =>
      if 32 ≤ n && n != 127 then none
      else
        let digits := Nat.toDigits 8 n
        some ('\\' :: List.replicate (3 - digits.length) '0' ++ digits)

def escapedInQuotes : Octets → Octets
  | [] => []
  | c :: cs =>
    let text :=
      if c = '\\' then "\\\\".toList
      else if (octets "’").isPrefixOf (c :: cs) then ['\\', c]
      else (hiddenEscape? c).getD [c]
    text ++ escapedInQuotes cs

def inQuotes (text : Octets) : Octets := octets "‘" ++ escapedInQuotes text ++ octets "’"

def singleQuotedPieces : (escaping : Bool) → Octets → Octets
  | _, [] => []
  | escaping, c :: cs =>
    match hiddenEscape? c with
    | some text => (if escaping then text else "'$'".toList ++ text) ++ singleQuotedPieces true cs
    | none =>
      if c = '\x27' then "'\\''".toList ++ singleQuotedPieces false cs
      else (if escaping then "''".toList else []) ++ c :: singleQuotedPieces false cs

def shellQuoted (text : Octets) : Octets :=
  let isMild (c : Char) : Bool :=
    "' ".toList.contains c || !(isPeculiar c || isBrace c || (hiddenEscape? c).isSome)
  let head := (text.head?.filter fun c => c == '#' || c == '~').toList
  let endsHidden := ((text.getLast?.bind hiddenEscape?).isSome)
  if text.contains '\x27' && (text.drop head.length).all isMild then ['\x22'] ++ text ++ ['\x22']
  else ['\x27'] ++ singleQuotedPieces (text.contains '\x27' && endsHidden) text ++ ['\x27']

def quotedIfPeculiar (text : Octets) : Octets :=
  let isInner (c : Char) : Bool := c != '#' && c != '~' && isPeculiar c
  let isOuter := text.head? == some '#' || text.head? == some '~' ||
    (text.length == 1 && text.all isBrace)
  if text.isEmpty || text.any isInner || isOuter then shellQuoted text
  else text

def report (name text : Octets) : Act Unit := printError (name ++ ": ".toList ++ text ++ ['\n'])

def fail (status : Nat) (name text : Octets) : Act Unit := do
  report name text
  finish status

def helpHint (name : Octets) : Octets :=
  "Try '".toList ++ name ++ " --help' for more information.\n".toList

def misuse (status : Nat) (name text : Octets) : Act Unit := do
  fail status name text
  printError (helpHint name)

def faultText (fault : FileFault) : Octets := fault.text.toList

def about (path : Octets) (fault : FileFault) : Octets :=
  quotedIfPeculiar path ++ ": ".toList ++ faultText fault

/-! ## Options -/

inductive ValueUse where
  | never
  | maybe
  | always
  deriving DecidableEq

instance : Coe Bool ValueUse := ⟨fun isTaken => if isTaken then .always else .never⟩

structure Flag where
  letter : Char
  name : String := ""
  takesValue : ValueUse := .never

def plainFlags (letters : String) : List Flag := letters.toList.map fun letter => { letter }

def valueFlags (letters : String) : List Flag :=
  letters.toList.map fun letter => { letter, takesValue := .always }

abbrev Options := List (Char × Octets)

namespace Options

def has (options : Options) (letter : Char) : Bool := options.any (·.1 == letter)

def values (options : Options) (letter : Char) : List Octets :=
  (options.filter (·.1 == letter)).map (·.2)

def value? (options : Options) (letter : Char) : Option Octets := (options.values letter).getLast?

def last? (options : Options) (letters : String) : Option Char :=
  ((options.map (·.1)).filter letters.toList.contains).getLast?

end Options

def readLetters (flags : List Flag) (words : List Octets) :
    Octets → Except Octets (Options × List Octets)
  | [] => .ok ([], words)
  | c :: cs => do
    match flags.find? (·.letter == c) with
    | none => throw ("invalid option -- '".toList ++ [c, '\x27'])
    | some flag =>
      match flag.takesValue, cs, words with
      | .never, _, _ =>
        let (options, words) ← readLetters flags words cs
        return ((c, []) :: options, words)
      | .maybe, _, _ => return ([(c, cs)], words)
      | .always, [], value :: words => return ([(c, value)], words)
      | .always, [], [] => throw ("option requires an argument -- '".toList ++ [c, '\x27'])
      | .always, _, _ => return ([(c, cs)], words)

def flagFor (flags : List Flag) (word name : Octets) : Except Octets Flag :=
  match flags.find? fun flag => flag.name.toList == name && !name.isEmpty with
  | some flag => .ok flag
  | none =>
    let near := flags.filter fun flag => flag.name != "" && name.isPrefixOf flag.name.toList
    match near with
    | [] => .error ("unrecognized option '--".toList ++ word ++ "'".toList)
    | [flag] => .ok flag
    | _ =>
      .error ("option '--".toList ++ word ++ "' is ambiguous; possibilities:".toList ++
        near.flatMap fun flag => (" '--" ++ flag.name ++ "'").toList)

def readName (flags : List Flag) (word : Octets) (words : List Octets) :
    Except Octets (Options × List Octets) :=
  let (name, value) := Text.cut '=' word
  match flagFor flags word name with
  | .error text => .error text
  | .ok flag =>
    let quoted := ("'--" ++ flag.name ++ "'").toList
    match flag.takesValue, value, words with
    | .never, some _, _ =>
      .error ("option ".toList ++ quoted ++ " doesn't allow an argument".toList)
    | .never, none, _ | .maybe, none, _ => .ok ([(flag.letter, [])], words)
    | _, some value, _ => .ok ([(flag.letter, value)], words)
    | .always, none, value :: words => .ok ([(flag.letter, value)], words)
    | .always, none, [] => .error ("option ".toList ++ quoted ++ " requires an argument".toList)

/-- Parts the options from the operands; `inOrder` says that the first operand ends the options. -/
def readOptions (inOrder : Bool) (flags : List Flag) :
    (fuel : Nat) → List Octets → Except Octets (Options × List Octets)
  | 0, words => .ok ([], words)
  | _, [] => .ok ([], [])
  | fuel + 1, word :: words => do
    let goOn (read : Options × List Octets) : Except Octets (Options × List Octets) := do
      let (options, operands) ← readOptions inOrder flags fuel read.2
      return (read.1 ++ options, operands)
    match word with
    | ['-', '-'] => return ([], words)
    | '-' :: '-' :: name => goOn (← readName flags name words)
    | '-' :: c :: cs => goOn (← readLetters flags words (c :: cs))
    | _ =>
      if inOrder then return ([], word :: words)
      else
        let (options, operands) ← readOptions inOrder flags fuel words
        return (options, word :: operands)

def withOptions (inOrder : Bool) (flags : List Flag) (misuseStatus : Nat)
    (work : Octets → Options → List Octets → Act Unit) : Tool := fun name arguments => do
  finish 0
  match readOptions inOrder flags (arguments.length + 1) arguments with
  | .error text => misuse misuseStatus name text
  | .ok (options, operands) => work name options operands

/-- What a word chooses, which may be cut short as long as one choice is left; the names of a choice
stand together. A word that chooses nothing is refused. -/
def choose {α : Type} (status : Nat) (name subject : Octets) (choices : List (List String × α))
    (word : Octets) : Act (Option α) := do
  let fits (accepts : Octets → Bool) : List (List String × α) :=
    choices.filter fun choice => choice.1.any fun name => accepts name.toList
  match fits (· == word), fits word.isPrefixOf with
  | choice :: _, _ | [], [choice] => return some choice.2
  | [], near => do
    let reason := if near.isEmpty then "invalid" else "ambiguous"
    fail status name (reason.toList ++ " argument ".toList ++ inQuotes word ++ " for ".toList ++
      subject)
    printError ("Valid arguments are:\n".toList ++ choices.flatMap fun choice =>
      "  - ".toList ++
        List.intercalate ", ".toList (choice.1.map fun word => inQuotes word.toList) ++
        ['\n'])
    printError (helpHint name)
    return none

def confirms (name question : Octets) : Act Bool := do
  printError (name ++ ": ".toList ++ question ++ "? ".toList)
  return (← readLine 0).head?.any "yY".toList.contains

def confirmsIf (asks : Bool) (name question : Octets) : Act Bool :=
  if asks then confirms name question else return true

/-! ## Input -/

def isStandard (path : Octets) : Bool := path == ['-']

def descriptorAt? (path : Octets) : Option Nat :=
  if isStandard path then some 0 else descriptorOf? path

inductive InputFault where
  | file (fault : FileFault)
  | closed

def InputFault.text : InputFault → Octets
  | file fault => faultText fault
  | closed => closedText

def openPipe (path : Octets) : Act Channel := do
  let (m, channel) := (← get).connectPipe path
  set m
  return channel

/-- The content of a file, or what is left of the standard input for a hyphen; `limit` is the number
of octets that are wanted at most. -/
def contentUpTo (limit : Option Nat) (path : Octets) : Act (Except InputFault Octets) := do
  let m ← get
  match descriptorAt? path with
  | some descriptor =>
    match m.channel? descriptor with
    | none =>
      return .error (if isStandard path then .closed else .file .notFound)
    | some .directory => return .error (.file .isADirectory)
    | some _ =>
      match limit with
      | some count => return .ok (← readOctets descriptor count)
      | none => return .ok (← readAll descriptor)
  | none =>
    match m.status? path with
    | .error fault => return .error (.file fault)
    | .ok .device =>
      if m.isPipe path then return .ok (← takeAll (← openPipe path))
      match limit with
      | some count => return .ok (deviceText count (m.deviceAt path))
      | none => return .ok (← takeAll (.device (m.deviceAt path)))
    | .ok _ =>
      match m.files.read (m.route path) with
      | .error fault => return .error (.file fault)
      | .ok bytes => return .ok (ofBytes bytes)

def content (path : Octets) : Act (Except InputFault Octets) := contentUpTo none path

def inputs (operands : List Octets) : List Octets := if operands.isEmpty then [['-']] else operands

def contents (status : Nat) (name : Octets) (operands : List Octets) : Act Octets := do
  let texts ← (inputs operands).mapM fun path => do
    match ← content path with
    | .ok text => return text
    | .error fault => do
      fail status name (quotedIfPeculiar path ++ ": ".toList ++ fault.text)
      return []
  return texts.flatten

def complainIfClosed (name : Octets) (operands : List Octets) (said : Octets) : Act Unit := do
  if (inputs operands).any isStandard && ((← get).channel? 0).isNone then
    fail 1 name (said ++ ": ".toList ++ closedText)

def putBack (rest : Octets) : Act Unit :=
  modify fun m =>
    match m.channel? 0 with
    | some channel =>
      if ((m.stream? channel).bind Stream.fileSize).isSome then m.setStream channel rest else m
    | none => m

def writeFile (path text : Octets) : Act (Except FileFault Unit) := do
  let m ← get
  match descriptorOf? path with
  | some descriptor => do
    putTo descriptor text
    return .ok ()
  | none =>
    if m.isPipe path then
      let channel ← openPipe path
      modify fun m => m.put channel text
      return .ok ()
    match m.files.locate (m.route path), m.files.write (m.route path) (toBytes text) with
    | .error fault, _ | _, .error fault => return .error fault
    | .ok place, .ok files => do
      let isNew := (m.files.get? place).isNone
      set { m with files := if isNew then m.makeFile place (toBytes text) else files }
      return .ok ()

def changeFiles (change : Machine → Except FileFault FileTree) : Act (Except FileFault Unit) := do
  let m ← get
  match change m with
  | .error fault => return .error fault
  | .ok files => do
    set { m with files }
    return .ok ()

structure InputText where
  rest : Octets
  isCut : Bool := false

def takeInput (descriptor : Nat) : Act InputText := do
  let m ← get
  match m.channel? descriptor with
  | none | some (.device .null) => return { rest := [] }
  | some channel =>
    let isCut := match channel with
      | .device _ => true
      | channel => (m.stream? channel).any Stream.isCut
    return { rest := ← readEnough (takeAll channel) fun _ => true, isCut }

/-- Why nothing can be read at a path, or what can. -/
def openInput (path : Octets) : Act (Except FileFault InputText) := do
  let m ← get
  match descriptorAt? path with
  | some descriptor =>
    if m.channel? descriptor = some .directory then return .error .isADirectory
    return .ok (← takeInput descriptor)
  | none =>
    match m.status? path with
    | .error fault => return .error fault
    | .ok .directory => return .error .isADirectory
    | .ok .device => do
      if m.isPipe path then return .ok { rest := ← takeAll (← openPipe path) }
      let device := m.deviceAt path
      return .ok { rest := ← readEnough (takeAll (.device device)) fun _ => true
                   isCut := device != .null }
    | .ok .file =>
      match m.files.read (m.route path) with
      | .error fault => return .error fault
      | .ok bytes => return .ok { rest := ofBytes bytes }

def openOutput (appends : Bool) (path : Octets) : Act (Except FileFault Channel) := do
  let m ← get
  match m.status? path with
  | .ok .directory => return .error .isADirectory
  | .ok .device =>
    if m.isPipe path then return .ok (← openPipe path)
    return .ok (.device (m.deviceAt path))
  | status =>
    let old : Octets := match status with
      | .ok _ =>
        if appends then ((m.files.read (m.route path)).toOption.map ofBytes).getD [] else []
      | .error _ => []
    match ← writeFile path old with
    | .error fault => return .error fault
    | .ok () => return ((← get).files.locate (m.route path)).map .file

/-! ## Paths -/

def joined (directory name : Octets) : Octets :=
  if directory.getLast? == some '/' then directory ++ name else directory ++ '/' :: name

def namesIn (m : Machine) (place : Place) : List Octets :=
  let names := (m.files.below place).filterMap fun entry =>
    match entry.1 with
    | [name] => some (octets name)
    | _ => none
  names.mergeSort fun a b => (compare a b).isLE

structure Found where
  place : Place
  node : FileNode

namespace Found

def isDirectory (found : Found) : Bool :=
  match found.node with
  | .directory => true
  | _ => false

def isFile (found : Found) : Bool :=
  match found.node with
  | .file _ => true
  | _ => false

def isLink (found : Found) : Bool :=
  match found.node with
  | .link _ => true
  | _ => false

def isSame (m : Machine) (a b : Found) : Bool := (m.files.namesAt a.place).contains b.place

end Found

def look (m : Machine) (follows : Bool) (path : Octets) : Except FileFault Found := do
  match descriptorOf? path with
  | some descriptor =>
    if follows && (m.channel? descriptor).isSome then
      return ⟨["dev", "fd", toString descriptor], .device .pipe⟩
  | none => pure ()
  let place ← if follows || path.getLast? == some '/' then do
      let _ ← m.status? path
      m.files.locate (m.route path)
    else m.entry path
  match m.files.get? place with
  | some node => return ⟨place, node⟩
  | none => throw .notFound

/-! ## Texts -/

def replaceAll (old new : Octets) : (fuel : Nat) → Octets → Octets
  | 0, cs => cs
  | _, [] => []
  | fuel + 1, c :: cs =>
    if !old.isEmpty && old.isPrefixOf (c :: cs) then
      new ++ replaceAll old new fuel ((c :: cs).drop old.length)
    else c :: replaceAll old new fuel cs

/-! ## Numbers -/

def count? (text : Octets) : Option Nat :=
  let digits := text.takeWhile Char.isDigit
  let factor := match text.drop digits.length with
    | [] => some 1
    | ['b'] => some 512
    | ['k'] | ['K'] | ['K', 'i', 'B'] => some 1024
    | ['k', 'B'] | ['K', 'B'] => some 1000
    | ['m'] | ['M'] | ['M', 'i', 'B'] => some 1048576
    | ['M', 'B'] => some 1000000
    | ['G'] | ['G', 'i', 'B'] => some 1073741824
    | ['G', 'B'] => some 1000000000
    | _ => none
  if text.isEmpty then none
  else factor.map ((if digits.isEmpty then 1 else readNat digits) * ·)

def padLeft (width : Nat) (text : Octets) : Octets :=
  List.replicate (width - text.length) ' ' ++ text

def padRight (width : Nat) (text : Octets) : Octets :=
  text ++ List.replicate (width - text.length) ' '

end Tool

end NextRelease.Shell
