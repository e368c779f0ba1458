import NextRelease.Shell.Archive.Call
import NextRelease.Shell.Awk.Run
import NextRelease.Shell.Edit.Run
import NextRelease.Shell.Perl.Call
import NextRelease.Shell.Process
import NextRelease.Shell.Program.Batches
import NextRelease.Shell.Program.Environment
import NextRelease.Shell.Tool.Arguments
import NextRelease.Shell.Tool.Blocks
import NextRelease.Shell.Tool.Characters
import NextRelease.Shell.Tool.Checksums
import NextRelease.Shell.Tool.Columns
import NextRelease.Shell.Tool.Compressing
import NextRelease.Shell.Tool.Compare
import NextRelease.Shell.Tool.Parts
import NextRelease.Shell.Tool.Date
import NextRelease.Shell.Tool.Diff
import NextRelease.Shell.Tool.Dump
import NextRelease.Shell.Tool.Encoding
import NextRelease.Shell.Tool.Filing
import NextRelease.Shell.Tool.Find
import NextRelease.Shell.Tool.Values
import NextRelease.Shell.Tool.Listing
import NextRelease.Shell.Tool.Numbering
import NextRelease.Shell.Tool.Pages
import NextRelease.Shell.Tool.Paragraphs
import NextRelease.Shell.Tool.Template
import NextRelease.Shell.Tool.Precedence
import NextRelease.Shell.Tool.Quantities
import NextRelease.Shell.Tool.Reading
import NextRelease.Shell.Tool.Search
import NextRelease.Shell.Tool.Sections
import NextRelease.Shell.Tool.Sequence
import NextRelease.Shell.Tool.Sort
import NextRelease.Shell.Tool.Splitting

/-!
What a process does that runs a program. Programs that start other programs are bounded by the depth
of such starts.
-/

namespace NextRelease.Shell

def tools : List (String × Tool) :=
  [("[", Tool.bracketTest), ("arch", Tool.arch), ("b2sum", Tool.digestTool .blake2b),
    ("base32", Tool.codeTool .base32), ("base64", Tool.codeTool .base64),
    ("basename", Tool.basename), ("basenc", Tool.basenc), ("cat", Tool.cat), ("chmod", Tool.chmod),
    ("cksum", Tool.cksum), ("cmp", Tool.cmp), ("comm", Tool.comm), ("cp", Tool.cp),
    ("csplit", Tool.csplit), ("cut", Tool.cut), ("date", Tool.date), ("dd", Tool.dd),
    ("diff", Tool.diff), ("dir", Tool.dir), ("dirname", Tool.dirname), ("echo", Tool.echo),
    ("egrep", Tool.egrep), ("expand", Tool.expand), ("expr", Tool.expr), ("factor", Tool.factor),
    ("false", fun _ _ => finish 1), ("fgrep", Tool.fgrep), ("fmt", Tool.fmt), ("fold", Tool.fold),
    ("getopt", Tool.getopt), ("grep", Tool.grep), ("groups", Tool.groups), ("gunzip", Tool.gunzip),
    ("gzip", Tool.gzip), ("head", Tool.head), ("id", Tool.identity), ("install", Tool.install),
    ("join", Tool.join), ("link", Tool.link), ("ln", Tool.ln), ("logname", Tool.logname),
    ("ls", Tool.ls), ("md5sum", Tool.digestTool .md5), ("mkdir", Tool.mkdir),
    ("mkfifo", Tool.mkfifo), ("mktemp", Tool.mktemp), ("mv", Tool.mv), ("nl", Tool.nl),
    ("numfmt", Tool.numfmt), ("od", Tool.od), ("paste", Tool.paste), ("pathchk", Tool.pathchk),
    ("pr", Tool.pr), ("printenv", Tool.printenv), ("printf", Tool.printf), ("pwd", Tool.pwd),
    ("readlink", Tool.readlink), ("realpath", Tool.realpath), ("rev", Tool.rev), ("rm", Tool.rm),
    ("rmdir", Tool.rmdir), ("seq", Tool.seq), ("sha1sum", Tool.digestTool .sha1),
    ("sha224sum", Tool.digestTool .sha224), ("sha256sum", Tool.digestTool .sha256),
    ("sha384sum", Tool.digestTool .sha384), ("sha512sum", Tool.digestTool .sha512),
    ("shuf", Tool.shuf), ("sort", Tool.sort), ("stat", Tool.stat),
    ("sum", Tool.sum), ("sync", Tool.sync), ("tac", Tool.tac), ("tail", Tool.tail),
    ("tar", Archive.call), ("tee", Tool.tee), ("test", Tool.test), ("touch", Tool.touch),
    ("tr", Tool.tr), ("true", fun _ _ => finish 0), ("truncate", Tool.truncate),
    ("tsort", Tool.tsort), ("tty", Tool.tty), ("uname", Tool.uname), ("uncompress", Tool.gunzip),
    ("unexpand", Tool.unexpand), ("uniq", Tool.uniq), ("unlink", Tool.unlink),
    ("users", Tool.users), ("vdir", Tool.vdir), ("wc", Tool.wc), ("which", which),
    ("whoami", Tool.whoami), ("yes", Tool.yes), ("zcat", Tool.zcat)]

def shellVariables (given : List (Octets × Variable)) (logical : List String) (parent : Nat) :
    List (Octets × Variable) :=
  let isGiven (name : String) : Bool := given.any (·.1 == name.toList)
  let entry (name : String) (value : Octets) : Octets × Variable :=
    (name.toList, { value := some value, exported := isGiven name })
  let usual (name value : String) : List (Octets × Variable) :=
    if isGiven name then [] else [entry name value.toList]
  usual "PATH" "/usr/local/sbin:/usr/local/bin:/usr/sbin:/usr/bin:/sbin:/bin" ++
    [entry "IFS" " \t\n".toList, entry "OPTIND" ['1']] ++
    usual "PS1" "# " ++ usual "PS2" "> " ++ usual "PS4" "+ " ++
    [entry "PPID" (natText parent),
      ("PWD".toList, { value := some (Machine.directoryText logical), exported := true })]

def freshSetting (m : Machine) (name : Octets) : Setting :=
  let given := m.bindings.filterMap fun entry =>
    if entry.2.exported && entry.2.value.isSome then
      some (entry.1, { value := entry.2.value, exported := true : Variable })
    else none
  /- A working directory that is given counts if it is the one where the process is. -/
  let logical := ((given.lookup "PWD".toList).bind (·.value)).bind fun path =>
    let isHere := path.head? == some '/' && (m.files.locate (m.route path)).toOption == some m.cwd
    if isHere then some ((m.route path).names) else none
  let logical := logical.getD m.cwd
  let own := shellVariables given logical m.self
  { m.toSetting with
    scriptName := name, arguments := [], functions := [], aliases := [], saved := []
    options := [], logical
    bindings := (given.filter fun entry => !own.any (·.1 == entry.1)) ++ own
    traps := m.traps.filter (·.2.isEmpty), status := 0, substituted := 0, line := 0
    command := none, loops := 0, process := m.nextProcess, self := m.nextProcess, pending := []
    lastJob := none, remembered := []
    optionOffset := none, isPart := false, leaving := none }

structure Request where
  runsText : Bool := false
  readsInput : Bool := false
  words : List Octets

def setNamedOption (sign : Char) (name : Octets) : Act Unit := do
  match shellOptions.find? fun option => option.2.toList == name with
  | some (letter, _) => letter.toList.forM (setOption (sign == '-'))
  | none => failWith ("Illegal option ".toList ++ [sign] ++ "o ".toList ++ name)

def readShellOptions : (fuel : Nat) → List Octets → Act Request
  | 0, words => return { words }
  | _, [] => return { words := [] }
  | fuel + 1, word :: words => do
    match word with
    | ['-', '-'] | ['-'] => return { words }
    | sign :: c :: cs =>
      if sign = '-' ∨ sign = '+' then
        let letters := c :: cs
        letters.forM fun c => do
          if c != 'o' && c != 'c' then
            if !shellOptions.any (·.1 == some c) then
              failWith ("Illegal option ".toList ++ [sign, c])
            setOption (sign == '-') c
        if letters.contains 'o' then (words.take 1).forM (setNamedOption sign)
        let request ← readShellOptions fuel (words.drop (letters.count 'o'))
        return { request with
          runsText := request.runsText || letters.contains 'c'
          readsInput := request.readsInput || letters.contains 's' }
      else return { words := word :: words }
    | _ => return { words := word :: words }

def runShell (go : Runner) (arguments : List Octets) : Act Unit := do
  let request ← readShellOptions (arguments.length + 1) arguments
  let run (text : Octets) : Act Unit := do
    modify fun m => { m with line := 1 }
    runText go {} text
  match request.runsText, request.readsInput, request.words with
  | true, _, [] => failWith "-c requires an argument".toList
  | true, _, text :: rest => do
    modify fun m => { m with
      scriptName := rest.head?.getD m.scriptName, arguments := rest.drop 1 }
    run text
  | false, false, path :: rest => do
    match (← get).files.read ((← get).route path) with
    | .ok bytes => do
      modify fun m => { m with scriptName := path, arguments := rest }
      run (ofBytes bytes)
    | .error .isADirectory => finish 0
    | .error fault =>
      failWith ("cannot open ".toList ++ path ++ ": ".toList ++
        (Machine.openFault "No such file" fault).toList)
  | false, _, rest => do
    modify fun m => { m with arguments := rest }
    run (← readAll 0)

def runSleep (go : Runner) (mode : Mode) (name : Octets) (arguments : List Octets) : Act Unit := do
  Tool.sleep name arguments
  if (← get).status = 0 then
    let m ← get
    let goal := m.files.now + Int.ofNat ((arguments.filterMap nanoseconds?).foldl (· + ·) 0)
    runDue go (some goal)
    waitUntil goal
    let m ← get
    if m.files.now < goal then
      if let some signal := m.pending.getLast? then afterEnd mode (.error (.killed signal))

/-- Runs a program; `depth` bounds how often programs start others without a shell between them. -/
def callProgram (go : Runner) : (depth : Nat) → Caller
  | 0, _, _, _, _, _ => finish 126
  | depth + 1, mode, path, program, name, arguments => do
    let call := callProgram go depth
    let m ← get
    if !m.pendingJobs.isEmpty && arguments.any fun word => m.isPipe word then runDue go none
    match program with
    | .script interpreter word =>
      match (← get).programAt interpreter with
      | .ok found => call mode interpreter found interpreter (word.toList ++ path :: arguments)
      | .error _ => do
        complain (name ++ ": not found".toList)
        finish 127
    | .system program =>
      match program with
      | "dash" => do
        let outer ← get
        set { outer with
          toSetting := freshSetting outer name, nextProcess := outer.nextProcess + 1 }
        let result ← (toEnd go (runShell go arguments)).attempt
        let inner ← get
        set (outer.afterProcess { inner with status := inner.status % 256 })
        afterEnd mode result
      | "env" => runEnv call mode name arguments
      | "timeout" => runTimeout call mode name arguments
      | "nice" => runNice call mode name arguments
      | "nohup" => runUnhung call mode name arguments
      | "stdbuf" => runBuffered call mode name arguments
      | "awk" | "mawk" => runTool mode (Awk.call (runLine call)) name arguments
      | "perl" =>
        let start : Perl.Starter := { line := runLine call "sh", words := runWords call }
        runTool mode (Perl.call start) name arguments
      | "find" => runTool mode (Tool.Find.call (startFor call name)) name arguments
      | "xargs" => runBatches call name arguments
      | "sed" => runTool mode (Edit.call (runLine call "sh")) name arguments
      | "split" => runTool mode (Tool.Splitting.call (runLine call "sh")) name arguments
      | "sleep" => runSleep go mode name arguments
      | program =>
        match tools.lookup program with
        | some tool => runTool mode tool name arguments
        | none => finish 127

def callDepth : Nat := 64

end NextRelease.Shell
