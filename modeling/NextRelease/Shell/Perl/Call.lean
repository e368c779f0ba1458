import NextRelease.Shell.Perl.Run

/-!
How scripts are called: with switches that tell where the script is and what surrounds it, and with
what it is to read.
-/

namespace NextRelease.Shell.Perl

structure Request where
  lines : List Octets := []
  loops : Bool := false
  prints : Bool := false
  splits : Bool := false
  separator : Option Octets := none
  trims : Bool := false
  input : Scalar := .text ['\n']
  output : Scalar := .undefined
  ending : Option Octets := none
  checks : Bool := false
  modules : List Octets := []
  places : List Octets := []
  showsVersion : Bool := false
  operands : List Octets := []

structure Misuse where
  status : Nat
  text : Octets

def separatorOf (digits : Octets) : Scalar :=
  match digits with
  | 'x' :: digits => .text (characterOctets (Sum.valueOf 16 digits))
  | ['0'] => .text []
  | digits =>
    let n := Sum.valueOf 8 digits
    if n = 0o777 then .undefined else .text (characterOctets n)

/-- Reads the letters of a word behind its hyphen; some take the next word. -/
def readSwitches : (fuel : Nat) → Request → Octets → List Octets →
    Except Misuse (Request × List Octets)
  | 0, r, _, words => .ok (r, words)
  | _, r, [], words => .ok (r, words)
  | fuel + 1, r, c :: cs, words =>
    let flag (r : Request) := readSwitches fuel r cs words
    let octal := cs.takeWhile fun c => (octalValue? c).isSome
    match c with
    | 'e' | 'E' =>
      if !cs.isEmpty then .ok ({ r with lines := r.lines ++ [cs] }, words)
      else
        match words with
        | text :: words => .ok ({ r with lines := r.lines ++ [text] }, words)
        | [] => .error ⟨25, "No code specified for -".toList ++ [c] ++ ".\n".toList⟩
    | 'n' => flag { r with loops := true }
    | 'p' => flag { r with loops := true, prints := true }
    | 'a' => flag { r with loops := true, splits := true }
    | 'F' => .ok ({ r with loops := true, splits := true, separator := some cs }, words)
    | 'l' =>
      let output := if octal.isEmpty then r.input
        else .text (characterOctets (Sum.valueOf 8 octal))
      readSwitches fuel { r with trims := true, output } (cs.drop octal.length) words
    | '0' =>
      let digits := match cs with
        | 'x' :: more => 'x' :: more.takeWhile fun c => (Sum.digitOf? 16 c).isSome
        | _ => octal
      let input := if digits.isEmpty then .text ['\x00'] else separatorOf digits
      readSwitches fuel { r with input } (cs.drop digits.length) words
    | 'i' =>
      let ending := cs.takeWhile fun c => !isSpaceChar c
      .ok ({ r with ending := some ending }, words)
    | 'M' | 'm' => .ok ({ r with modules := r.modules ++ [cs] }, words)
    | 'I' =>
      match cs, words with
      | [], place :: words => .ok ({ r with places := r.places ++ [place] }, words)
      | place, words => .ok ({ r with places := r.places ++ [place] }, words)
    | 'c' => flag { r with checks := true }
    | 'v' => flag { r with showsVersion := true }
    | 'C' => readSwitches fuel r (cs.dropWhile Char.isAlphanum) words
    | '-' => if cs.isEmpty then .ok (r, words) else .error ⟨25, unknown (c :: cs)⟩
    | c =>
      if "wWXtTuUsSxf".toList.contains c then flag r
      else .error ⟨25, unknown (c :: cs)⟩
where
  unknown (cs : Octets) : Octets :=
    "Unrecognized switch: -".toList ++ cs ++ "  (-h will show valid options).\n".toList

def readRequest : (fuel : Nat) → Request → List Octets → Except Misuse Request
  | 0, r, words => .ok { r with operands := words }
  | fuel + 1, r, words =>
    match words with
    | ['-', '-'] :: words => .ok { r with operands := words }
    | ('-' :: c :: cs) :: words => do
      let (r, words) ← readSwitches (cs.length + 2) r (c :: cs) words
      readRequest fuel r words
    | words => .ok { r with operands := words }

def Request.surround (r : Request) (text : Octets) : Octets :=
  let fields := match r.separator with
    | none => "our @F=split(' ');".toList
    | some pattern =>
      let isQuoted := (pattern.head?.any fun c => "\x22\x27/".toList.contains c) &&
        1 < pattern.length && pattern.head? = pattern.getLast?
      let quoted := if isQuoted then pattern else '/' :: pattern ++ ['/']
      "our @F=split(".toList ++ quoted ++ ");".toList
  let front := "LINE: while (<>) \x7b".toList ++ (if r.trims then "chomp;".toList else []) ++
    (if r.splits then fields else [])
  let back := if r.prints then "\n;\x7dcontinue\x7bprint;\x7d".toList else "\n;\x7d".toList
  if r.loops then front ++ text ++ back else text

def versionText : String :=
  "\nThis is perl 5, version 36, subversion 0 (v5.36.0) built for " ++
  "x86_64-linux-gnu-thread-multi\n(with 60 registered patches, see perl -V for more detail)\n"

namespace Work

def stepBound : Nat := 1152921504606846976

def prepare (r : Request) (data : Option Octets) (operands : List Octets)
    (environment : List (Octets × Octets)) : Work Unit := do
  let now := Tool.presentSeconds (← act get)
  let specials : List (String × Scalar) :=
    [("/", r.input), ("\\", r.output), ("\x22", .text [' ']), (",", .undefined),
      (";", .text ['\x1c']), ("0", .text (← get).file), ("@", .text []), ("!", .fault 0),
      ("?", .whole 0), ("$", .whole 4243), ("^O", .text "linux".toList), ("^W", .whole 0),
      ("]", .text "5.036000".toList), ("^V", .text "v5.36.0".toList),
      ("^T", .whole now), ("^X", .text "/usr/bin/perl".toList), ("|", .whole 0),
      ("^I", (r.ending.map Scalar.text).getD .undefined)]
  specials.forM fun (name, v) => setSpecial name v
  fillList (← shared .list "ARGV".toList) (operands.map .text)
  fillList (← shared .list "INC".toList) (r.places.map .text ++
    modulePlaces.map fun place => .text place.toList)
  fillTable (← shared .table "ENV".toList)
    (environment.flatMap fun (name, text) => [.text name, .text text])
  match data with
  | some text => setHandle "DATA".toList { input := some { rest := text } }
  | none => pure ()

def runMain (start : Starter) (statements : List Statement) : Work Unit := do
  defineAll start stepBound statements
  statements.forM fun s => do
    asStatement s (run start stepBound s)
    bury start stepBound []
    modify fun s => { s with topEnv := s.env }

def fatalStatus : Work Nat := do
  let fault := (← special "!").toInt.toNat % 256
  let left := ((← special "?").toInt / 256).toNat % 256
  return if fault != 0 then fault else if left != 0 then left else 255

def conclude (start : Starter) (result : Except Leave Unit) : Work Unit := do
  match result with
  | .error (.died cause) => do
    warn (← textOf start stepBound cause)
    let status ← fatalStatus
    modify fun s => { s with status }
  | .error (.last _) => do
    warn ("Can't \"last\" outside a loop block".toList ++ (← place))
    modify fun s => { s with status := 255 }
  | .error (.next _) => do
    warn ("Can't \"next\" outside a loop block".toList ++ (← place))
    modify fun s => { s with status := 255 }
  | _ => pure ()

def runScript (start : Starter) (statements : List Statement) : Work Unit := do
  conclude start (← caught (runMain start statements))
  modify fun s => { s with env := [], envs := [], gaps := [], frames := [], saved := [] }
  conclude start (← caught do endAll start stepBound (← takeEnding true []))
  setSpecial "?" (.ofNat (← get).status)
  (← get).lasts.forM fun id => do
    let result ← caught (invoke start stepBound none id [])
    match result with
    | .error leave => conclude start (.error leave)
    | .ok _ =>
      let status := ((← special "?").toInt % 256).toNat
      modify fun s => { s with status }
  conclude start (← caught do endAll start stepBound (← takeRemaining))
  endRewriting
  flush
  let names := (← get).handles.reverse.map (·.1)
  names.forM fun name => do
    let _ ← closeHandle start name

end Work

def moduleText (spelled : Octets) : Octets :=
  let isOff := spelled.head? = some '-'
  let spelled := if isOff then spelled.drop 1 else spelled
  let name := spelled.takeWhile (· != '=')
  let names := spelled.drop (name.length + 1)
  (if isOff then "no ".toList else "use ".toList) ++ name ++
    (if names.isEmpty then [] else " split(/,/,q\x7b".toList ++ names ++ "\x7d)".toList) ++ [';']

def runText (start : Starter) (r : Request) (file text : Octets) (operands : List Octets) :
    Act Unit := do
  let modules := r.modules.flatMap moduleText
  let text := if modules.isEmpty then r.surround text else modules ++ '\n' :: r.surround text
  let line := if modules.isEmpty then 1 else 0
  let (read, cautions) := readScript { file, line, text }
  printError cautions
  match read with
  | .error problem => do
    printError (problem.message r.checks file)
    finish 255
  | .ok statements =>
    if r.checks then printError (file ++ " syntax OK\n".toList)
    else
      let outer ← get
      let work : Work Unit := do
        Work.prepare r (dataText? text) operands outer.environment
        Work.runScript start statements
      let run : Act Unit := do
        let (_, state) ← (ExceptT.run work).run { file, line }
        finish state.status
      run.andFinally (modify fun m => { m with
        descriptors := outer.descriptors, cwd := outer.cwd, logical := outer.logical
        mask := outer.mask })

def call (start : Starter) : Tool := fun _ arguments => do
  finish 0
  match readRequest (arguments.length + 1) {} arguments with
  | .error misuse => do
    printError misuse.text
    finish misuse.status
  | .ok r =>
    if r.showsVersion then print versionText.toList
    else if !r.lines.isEmpty then
      runText start r "-e".toList (List.intercalate ['\n'] r.lines) r.operands
    else
      match r.operands with
      | [] | ['-'] :: _ => do
        let text ← readAll 0
        runText start r ['-'] text (r.operands.drop 1)
      | path :: operands => do
        match ← Tool.openInput path with
        | .ok input => runText start r path input.rest operands
        | .error fault => do
          printError ("Can't open perl script \"".toList ++ path ++ "\": ".toList ++
            fault.text.toList ++ ['\n'])
          finish fault.systemError.1

end NextRelease.Shell.Perl
