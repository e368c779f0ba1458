import NextRelease.Shell.Pattern
import NextRelease.Shell.Tool.Filing
import NextRelease.Shell.Tool.Regex
import NextRelease.Shell.Tool.Status

/-!
Walks through directories. An expression says what is asked of each file that is met and what is
done with it; its parts are looked at from left to right, as far as they matter.
-/

namespace NextRelease.Shell.Tool

namespace Find

/-! ## What is met -/

structure Visit where
  path : Octets
  start : Octets
  depth : Nat
  place : Place
  status : Status

namespace Visit

def baseName (v : Visit) : Octets := baseOf v.path

def directory (v : Visit) : Octets := directoryOf v.path

def inner (v : Visit) : Octets :=
  match v.path.drop v.start.length with
  | '/' :: rest => rest
  | rest => rest

end Visit

/-! ## Expressions -/

inductive Expression where
  | test (check : Machine → Visit → Bool)
  | tell (goal : Option Octets) (text : Machine → Visit → Octets)
  | execute (asks inPlace : Bool) (words : List Octets)
  | gather (id : Nat) (inPlace : Bool) (words : List Octets)
  | delete
  | prune
  | quit
  | negation (inner : Expression)
  | both (first second : Expression)
  | either (first second : Expression)
  | sequence (first second : Expression)

def Expression.always : Expression := .test fun _ _ => true

def Expression.acts : Expression → Bool
  | test _ | prune | quit => false
  | tell _ _ | execute _ _ _ | gather _ _ _ | delete => true
  | negation inner => inner.acts
  | both a b | either a b | sequence a b => a.acts || b.acts

def Expression.gathered : Expression → List (Nat × List Octets)
  | gather id _ words => [(id, words)]
  | negation inner => inner.gathered
  | both a b | either a b | sequence a b => a.gathered ++ b.gathered
  | _ => []

def Expression.goals : Expression → List Octets
  | tell goal _ => goal.toList
  | negation inner => inner.goals
  | both a b | either a b | sequence a b => a.goals ++ b.goals
  | _ => []

def inBackquotes (text : Octets) : Octets := Char.ofNat 96 :: text ++ ['\x27']

inductive FormatProblem where
  | escape (letter : Char)
  | directive (text : Octets)
  | end
  | reserved (letter : Char)

namespace FormatProblem

def stops : FormatProblem → Bool
  | escape _ | directive _ => false
  | .end | reserved _ => true

def text : FormatProblem → Octets
  | escape letter => "warning: unrecognized escape ".toList ++ inBackquotes ['\\', letter]
  | directive text =>
    "warning: unrecognized format directive ".toList ++ inBackquotes ('%' :: text)
  | .end => "error: % at end of format string".toList
  | reserved letter =>
    "error: the format directive ".toList ++ inBackquotes ['%', letter] ++
      " is reserved for future use".toList

end FormatProblem

structure Manner where
  follows : Bool := false
  followsStarts : Bool := false
  least : Nat := 0
  most : Option Nat := none
  innerFirst : Bool := false
  isExtended : Bool := false
  isEmacs : Bool := true
  warnings : List FormatProblem := []

/-! ## Tests -/

def matchesGlob (ignoresCase : Bool) (pattern text : Octets) : Bool :=
  let fold (cs : Octets) : Octets := if ignoresCase then cs.map Char.toLower else cs
  matchesPattern (marked false (fold pattern)) (fold text)

structure Bound where
  sign : Option Char
  number : Nat

def Bound.holds (b : Bound) (n : Nat) : Bool :=
  match b.sign with
  | some '+' => b.number < n
  | some _ => n < b.number
  | none => n == b.number

def bound? (text : Octets) : Option Bound :=
  let (sign, digits) := match text with
    | '+' :: digits => (some '+', digits)
    | '-' :: digits => (some '-', digits)
    | digits => (none, digits)
  if isNumber digits then some ⟨sign, readNat digits⟩ else none

def invalidArgument (word value : Octets) : Octets :=
  "invalid argument ".toList ++ Char.ofNat 96 :: value ++ "' to ".toList ++ Char.ofNat 96 :: word ++
    ['\x27']

def span? (unit : Nat) (value : Octets) : Option (Option Char × Int) :=
  let (sign, digits) := match value with
    | '+' :: digits => (some '+', digits)
    | '-' :: digits => (some '-', digits)
    | digits => (none, digits)
  let (whole, part) := Text.cut '.' digits
  let part := part.getD []
  if !(whole ++ part).all Char.isDigit || (whole ++ part).isEmpty then none
  else
    let parts := readNat (whole ++ part) * unit / Nat.pow 10 part.length
    some (sign, Int.ofNat parts)

def ageTest (now : Int) (unit : Nat) (value : Octets) (time : Visit → Int) :
    Option (Visit → Bool) :=
  (span? unit value).map fun (sign, length) v =>
    let age := now - time v
    match sign with
    | some '+' => length + Int.ofNat unit ≤ age
    | some _ => age < length
    | none => length ≤ age && age < length + Int.ofNat unit

def timeOfLetter (now : Int) (letter : Char) (times : FileTimes) : Int :=
  match letter with
  | 'a' => times.read
  | 'm' => times.changed
  | _ => now

def sizeUnit? : Char → Option Nat
  | 'b' => some 512
  | 'c' => some 1
  | 'w' => some 2
  | 'k' => some 1024
  | 'M' => some 1048576
  | 'G' => some 1073741824
  | c => if c.isDigit then some 512 else none

def sizeTest (value : Octets) : Except Octets (Visit → Bool) :=
  match value.getLast? with
  | none => .error "invalid null argument to -size".toList
  | some last =>
    match sizeUnit? last with
    | none => .error ("invalid -size type ".toList ++ inBackquotes [last])
    | some unit =>
      match bound? (if last.isDigit then value else value.dropLast) with
      | none => .error ("Invalid argument ".toList ++ inBackquotes value ++ " to -size".toList)
      | some bound => .ok fun v => bound.holds ((v.status.size + unit - 1) / unit)

def permissionTest (value : Octets) : Except Octets (Visit → Bool) :=
  let (kind, text) := match value with
    | '-' :: text => ('-', text)
    | '/' :: text => ('/', text)
    | text => ('=', text)
  match Permission.readChange? text with
  | none => .error ("invalid mode ".toList ++ inQuotes value)
  | some change =>
    let wanted (v : Visit) : Nat := change.apply 0 (v.status.letter == 'd') 0
    .ok fun v =>
      let common := v.status.mode &&& wanted v
      match kind with
      | '-' => common == wanted v
      | '/' => wanted v == 0 || common != 0
      | _ => v.status.mode == wanted v

def kindTest (word value : Octets) (letterOf : Machine → Visit → Char) :
    Except Octets (Machine → Visit → Bool) :=
  let letters := Text.splitOn ',' value
  let isLetter (letter : Octets) : Bool :=
    letter.length == 1 && letter.all "bcdpflsD".toList.contains
  if value.isEmpty then
    .error ("Arguments to ".toList ++ word ++ " should contain at least one letter".toList)
  else
  match letters.find? fun letter => !isLetter letter with
  | some [] => .error ("Last file type in list argument to ".toList ++ word ++
      " is missing, i.e., list is ending on: ','".toList)
  | some (c :: _) => .error ("Unknown argument to ".toList ++ word ++ ": ".toList ++ [c])
  | none =>
    .ok fun m v =>
      let c := letterOf m v
      letters.contains [if c == '-' then 'f' else c]

def emacsRegex : Octets → Octets
  | [] => []
  | '\\' :: c :: cs => '\\' :: c :: emacsRegex cs
  | '[' :: cs =>
    let inner := cs.takeWhile (· != ']')
    '[' :: inner ++ emacsRegex (cs.drop inner.length)
  | c :: cs => (if c = '+' || c = '?' then ['\\', c] else [c]) ++ emacsRegex cs
  termination_by cs => cs.length
  decreasing_by all_goals simp; try omega

def regexTest (manner : Manner) (ignoresCase : Bool) (text : Octets) :
    Except Octets (Visit → Bool) :=
  let text := if manner.isExtended then text else if manner.isEmacs then emacsRegex text else text
  match Regex.read (if manner.isExtended then .extended else .basic) (Wide.ofOctets text) with
  | .error reason => .error reason.toList
  | .ok regex =>
    .ok fun v =>
      (Regex.places { ignoresCase, isWide := true } (64 * v.path.length + 4096) regex
        { rest := Wide.ofOctets v.path, last := none }).any fun place => place.rest.isEmpty

def followed (m : Machine) (v : Visit) : Option Status :=
  (m.files.locate (Route.ofNames v.place)).toOption.bind (statusAt? m)

def hasEntries (m : Machine) (place : Place) : Bool := !(m.files.below place).isEmpty

/-! ## Texts -/

/-- What a letter of a format says of a file. -/
def part? (m : Machine) (v : Visit) (d : Directive) : Option Octets :=
  let text (text : Octets) : Octets :=
    d.pad (match d.precision with
      | some n => text.take n
      | none => text)
  let number (n : Nat) : Octets := text (natText n)
  let letter (s : Status) : Char := if s.letter == '-' then 'f' else s.letter
  let moment (time : Int) : Octets :=
    ((momentOf time).inZone (zoneOf m)).text "%a %b %e %H:%M:%S.%N0 %Y".toList
  match d.conversion with
  | 'p' => some (text v.path)
  | 'f' => some (text v.baseName)
  | 'h' => some (text v.directory)
  | 'P' => some (text v.inner)
  | 'H' => some (text v.start)
  | 'd' => some ({ d with conversion := 'd' }.whole (Int.ofNat v.depth))
  | 's' => some (number v.status.size)
  | 'b' => some (number v.status.blocks)
  | 'k' => some (number (v.status.blocks / 2))
  | 'n' => some (number v.status.links)
  | 'm' => some ({ d with conversion := 'o' }.unsigned v.status.mode)
  | 'M' => some (text v.status.letters)
  | 'y' => some (text [letter v.status])
  | 'Y' => some (text [((followed m v).map letter).getD 'N'])
  | 'l' => some (text (v.status.target?.getD []))
  | 'u' | 'g' => some (text "root".toList)
  | 'U' | 'G' => some (number 0)
  | 'i' => some (number 100000)
  | 'D' => some (number 65024)
  | 't' => some (text (moment v.status.times.changed))
  | 'a' => some (text (moment v.status.times.read))
  | 'c' => some (text (moment m.files.now))
  | _ => none

def timePart? (m : Machine) (time : Int) (letter : Char) : Option Octets :=
  let moment := (momentOf time).inZone (zoneOf m)
  let fraction := moment.text ".%N0".toList
  match letter with
  | '@' => some (moment.text "%s".toList ++ fraction)
  | '+' => some (moment.text "%Y-%m-%d+%H:%M:%S".toList ++ fraction)
  | 'S' => some (moment.text "%S".toList ++ fraction)
  | 'T' | 'X' => some (moment.text "%H:%M:%S".toList ++ fraction)
  | c =>
    if "aAbBcdDFhHIjklmMprsuUVwWxyYZG".toList.contains c then some (moment.text ['%', c]) else none

def write (m : Machine) (v : Visit) : (fuel : Nat) → Octets → Octets
  | 0, cs => cs
  | _, [] => []
  | fuel + 1, '\\' :: cs =>
    match cs with
    | 'c' :: _ => []
    | cs =>
      match takeEscape? cs with
      | some (c, rest) => c :: write m v fuel rest
      | none => '\\' :: write m v fuel cs
  | fuel + 1, '%' :: cs =>
    let flags := cs.takeWhile "-+ #0".toList.contains
    let rest := cs.drop flags.length
    let width := rest.takeWhile Char.isDigit
    let rest := rest.drop width.length
    let (precision, rest) := match rest with
      | '.' :: more =>
        let digits := more.takeWhile Char.isDigit
        (some (readNat digits), more.drop digits.length)
      | rest => (none, rest)
    match rest with
    | [] => '%' :: cs
    | '%' :: more => '%' :: write m v fuel more
    | c :: more =>
      let time := timeOfLetter m.files.now (if c = 'T' then 'm' else c.toLower) v.status.times
      let told := if "TAC".toList.contains c then more.head?.bind (timePart? m time) else none
      if let some text := told then text ++ write m v fuel (more.drop 1) else
      match part? m v { flags, width := readNat width, precision, conversion := c } with
      | some text => text ++ write m v fuel more
      | none => '%' :: cs.take (cs.length - more.length) ++ write m v fuel more
  | fuel + 1, c :: cs => c :: write m v fuel cs

def formatProblems : (fuel : Nat) → Octets → List FormatProblem
  | 0, _ | _, [] => []
  | _, '\\' :: 'c' :: _ => []
  | fuel + 1, '\\' :: c :: cs =>
    if (takeEscape? (c :: cs)).isSome then formatProblems fuel cs
    else .escape c :: formatProblems fuel cs
  | fuel + 1, '%' :: '%' :: cs => formatProblems fuel cs
  | fuel + 1, '%' :: cs =>
    let front := cs.takeWhile "-+ #0123456789.".toList.contains
    match cs.drop front.length with
    | [] => [.end]
    | c :: more =>
      if "\x7b[(".toList.contains c then [.reserved c]
      else if "TACB".toList.contains c then
        match more with
        | [] => [.end]
        | _ :: more => formatProblems fuel more
      else if "abcdDfFgGhHiklmMnpPsStuUyYZ".toList.contains c then formatProblems fuel more
      else .directive [c] :: formatProblems fuel more
  | fuel + 1, _ :: cs => formatProblems fuel cs

/-! ## Reading -/

inductive Item where
  | leaf (expression : Expression)
  | opening
  | closing
  | negation (word : Octets)
  | conjunction (word : Octets)
  | disjunction (word : Octets)
  | comma
  | manner (change : Manner → Manner)

def commandWords : (taken : List Octets) → List Octets → Option (List Octets × Bool × List Octets)
  | _, [] => none
  | taken, word :: words =>
    if word = [';'] then some (taken.reverse, false, words)
    else if word = ['+'] && taken.head? == some "\x7b\x7d".toList then
      some (taken.reverse, true, words)
    else commandWords (word :: taken) words

def readCommand (word : Octets) (asks inPlace : Bool) (id : Nat) (words : List Octets) :
    Except Octets (Expression × List Octets) :=
  let found := if asks then
      let command := words.takeWhile (· != [';'])
      if command.length < words.length then
        some (command, false, words.drop (command.length + 1))
      else none
    else commandWords [] words
  match found with
  | none | some ([], _, _) => .error ("missing argument to ".toList ++ inBackquotes word)
  | some (command, false, rest) => .ok (.execute asks inPlace command, rest)
  | some (command, true, rest) =>
    if (command.dropLast).contains "\x7b\x7d".toList then
      .error ("Only one instance of \x7b\x7d is supported with ".toList ++ word ++ " ... +".toList)
    else .ok (.gather id inPlace command.dropLast, rest)

def newerLetters? (word : Octets) : Option (Char × Char) :=
  match word.drop "-newer".length with
  | [own, other] =>
    if "-newer".toList.isPrefixOf word && "aBcm".toList.contains own &&
        "aBcmt".toList.contains other then some (own, other)
    else none
  | _ => none

def listedTime (m : Machine) (time : Int) : Octets :=
  let isRecent := m.files.now - 15778476000000000 < time && time ≤ m.files.now
  ((momentOf time).inZone (zoneOf m)).text
    (if isRecent then "%b %e %H:%M" else "%b %e  %Y").toList

def listedLine (m : Machine) (v : Visit) : Octets :=
  "   100000 ".toList ++ padLeft 6 (natText (v.status.blocks / 2)) ++ ' ' :: v.status.letters ++
    padLeft 4 (natText v.status.links) ++ " root     root     ".toList ++
    padLeft 8 (natText v.status.size) ++ ' ' :: listedTime m v.status.times.changed ++
    ' ' :: v.path ++ (match v.status.target? with
      | some target => " -> ".toList ++ target
      | none => []) ++ ['\n']

def valueTest? (m : Machine) (manner : Manner) (word : Octets) (value : Octets) :
    Option (Except Octets Expression) :=
  let test (check : Visit → Bool) : Option (Except Octets Expression) :=
    some (.ok (.test fun _ v => check v))
  let counted (check : Bound → Visit → Bool) : Option (Except Octets Expression) :=
    some (match bound? value with
      | some bound => .ok (.test fun _ v => check bound v)
      | none => .error (invalidArgument word value))
  let root (kind : String) : Option (Except Octets Expression) :=
    if value = "root".toList || value = ['0'] then test fun _ => true
    else if isNumber value then test fun _ => false
    else some (.error (inQuotes value ++ (" is not the name of " ++ kind).toList))
  let letter := (word[1]?).getD 'm'
  let aged (unit : Nat) : Option (Except Octets Expression) :=
    let time (v : Visit) : Int := timeOfLetter m.files.now letter v.status.times
    some (match ageTest m.files.now unit value time with
      | some check => .ok (.test fun _ v => check v)
      | none => .error (invalidArgument word value))
  let place (path : Octets) : Except Octets Place :=
    match m.files.locate (m.route path), m.status? path with
    | .ok place, .ok _ => .ok place
    | .error fault, _ | _, .error fault => .error (inQuotes path ++ ": ".toList ++ faultText fault)
  match String.ofList word with
  | "-name" => test fun v => matchesGlob false value v.baseName
  | "-iname" => test fun v => matchesGlob true value v.baseName
  | "-path" | "-wholename" => test fun v => matchesGlob false value v.path
  | "-ipath" | "-iwholename" => test fun v => matchesGlob true value v.path
  | "-lname" => test fun v => v.status.target?.any (matchesGlob false value)
  | "-ilname" => test fun v => v.status.target?.any (matchesGlob true value)
  | "-regex" => some ((regexTest manner false value).map fun check => .test fun _ v => check v)
  | "-iregex" => some ((regexTest manner true value).map fun check => .test fun _ v => check v)
  | "-type" => some ((kindTest word value fun _ v => v.status.letter).map .test)
  | "-xtype" =>
    some ((kindTest word value fun m v => ((followed m v).getD v.status).letter).map .test)
  | "-size" => some ((sizeTest value).map fun check => .test fun _ v => check v)
  | "-perm" => some ((permissionTest value).map fun check => .test fun _ v => check v)
  | "-links" => counted fun bound v => bound.holds v.status.links
  | "-inum" => counted fun bound _ => bound.holds 100000
  | "-uid" | "-gid" => counted fun bound _ => bound.holds 0
  | "-mtime" | "-atime" | "-ctime" => aged 86400000000000
  | "-mmin" | "-amin" | "-cmin" => aged 60000000000
  | "-user" => root "a known user"
  | "-group" => root "an existing group"
  | "-fstype" => test fun _ => false
  | "-samefile" => some ((place value).map fun place =>
      .test fun m v => (m.files.namesAt place).contains v.place)
  | "-newer" | "-anewer" | "-cnewer" => some ((place value).map fun place =>
      let limit := (m.files.timesAt place).changed
      let letter := if letter = 'n' then 'm' else letter
      .test fun _ v => limit < timeOfLetter m.files.now letter v.status.times)
  | "-fprint" => some (.ok (.tell (some value) fun _ v => v.path ++ ['\n']))
  | "-fprint0" => some (.ok (.tell (some value) fun _ v => v.path ++ ['\x00']))
  | "-fls" => some (.ok (.tell (some value) listedLine))
  | _ =>
    match newerLetters? word with
    | none => none
    | some (own, 't') =>
      some (match TimeText.moment? (zoneOf m) (presentMoment m) value with
        | some moment =>
          let limit := moment.seconds * 1000000000 + Int.ofNat moment.nanoseconds
          .ok (.test fun _ v => limit < timeOfLetter m.files.now own v.status.times)
        | none => .error ("I cannot figure out how to interpret ".toList ++ inQuotes value ++
            " as a date or time".toList))
    | some (own, other) =>
      some ((place value).map fun place =>
        let limit := timeOfLetter m.files.now other (m.files.timesAt place)
        .test fun _ v => limit < timeOfLetter m.files.now own v.status.times)

def plainItem? (word : Octets) : Option Item :=
  let test (check : Machine → Visit → Bool) : Option Item := some (.leaf (.test check))
  match String.ofList word with
  | "(" => some .opening
  | ")" => some .closing
  | "!" | "-not" => some (.negation word)
  | "-a" | "-and" => some (.conjunction word)
  | "-o" | "-or" => some (.disjunction word)
  | "," => some .comma
  | "-true" => test fun _ _ => true
  | "-false" | "-nouser" | "-nogroup" => test fun _ _ => false
  | "-empty" => test fun m v =>
    match v.status.letter with
    | '-' => v.status.size == 0
    | 'd' => !hasEntries m v.place
    | _ => false
  | "-readable" | "-writable" => test fun _ _ => true
  | "-executable" => test fun m v =>
    (followed m v).any fun s => s.letter == 'd' || (s.mode &&& 0o111) != 0
  | "-print" => some (.leaf (.tell none fun _ v => v.path ++ ['\n']))
  | "-print0" => some (.leaf (.tell none fun _ v => v.path ++ ['\x00']))
  | "-ls" => some (.leaf (.tell none listedLine))
  | "-delete" => some (.leaf .delete)
  | "-prune" => some (.leaf .prune)
  | "-quit" => some (.leaf .quit)
  | "-depth" | "-d" => some (.manner fun manner => { manner with innerFirst := true })
  | "-follow" => some (.manner fun manner => { manner with follows := true })
  | "-mount" | "-xdev" | "-noleaf" | "-warn" | "-nowarn" | "-daystart" | "-ignore_readdir_race" =>
    some (.manner id)
  | _ => none

def valueNames : List String :=
  ["-name", "-iname", "-path", "-wholename", "-ipath", "-iwholename", "-lname", "-ilname", "-regex",
    "-iregex", "-type", "-xtype", "-size", "-perm", "-links", "-inum", "-uid", "-gid", "-mtime",
    "-atime", "-ctime", "-mmin", "-amin", "-cmin", "-user", "-group", "-fstype", "-samefile",
    "-newer", "-anewer", "-cnewer", "-fprint", "-fprint0", "-fls", "-maxdepth", "-mindepth",
    "-regextype"]

def valueManner? (word value : Octets) : Option (Except Octets (Manner → Manner)) :=
  let level (set : Nat → Manner → Manner) : Option (Except Octets (Manner → Manner)) :=
    some (if isNumber value then .ok (set (readNat value))
      else .error ("Expected a positive decimal integer argument to ".toList ++ word ++
        ", but got ".toList ++ inQuotes value))
  match String.ofList word with
  | "-maxdepth" => level fun n manner => { manner with most := some n }
  | "-mindepth" => level fun n manner => { manner with least := n }
  | "-regextype" =>
    let known := ["findutils-default", "ed", "emacs", "gnu-awk", "grep", "posix-awk", "awk",
      "posix-basic", "posix-egrep", "egrep", "posix-extended", "posix-minimal-basic", "sed"]
    let extended := ["posix-extended", "egrep", "posix-egrep", "awk", "posix-awk", "gnu-awk"]
    if !known.any (·.toList == value) then
      some (.error ("Unknown regular expression type ".toList ++ inQuotes value ++
        "; valid types are ".toList ++
        (Text.joinWith ' ' (known.map fun name => inQuotes name.toList ++ [','])).dropLast ++
          ['.']))
    else
    some (.ok fun manner =>
      { manner with isExtended := extended.any (·.toList == value)
                    isEmacs := ["emacs", "findutils-default"].any (·.toList == value) })
  | _ => none

/-- Reads the words of an expression one after the other. -/
def items (m : Machine) : (fuel : Nat) → Manner → List Octets →
    Except Octets (List Item × Manner)
  | 0, manner, _ | _, manner, [] => .ok ([], manner)
  | fuel + 1, manner, word :: words => do
    let goOn (item : Item) (manner : Manner) (words : List Octets) :
        Except Octets (List Item × Manner) := do
      let (rest, manner) ← items m fuel manner words
      return (item :: rest, manner)
    match plainItem? word with
    | some (.manner change) => goOn (.leaf .always) (change manner) words
    | some (.leaf .delete) => goOn (.leaf .delete) { manner with innerFirst := true } words
    | some item => goOn item manner words
    | none =>
      match String.ofList word with
      | "-exec" | "-execdir" | "-ok" | "-okdir" => do
        let asks := "-ok".toList.isPrefixOf word
        let inPlace := "dir".toList.isSuffixOf word
        let (expression, rest) ← readCommand word asks inPlace words.length words
        goOn (.leaf expression) manner rest
      | "-fprintf" =>
        match words with
        | goal :: format :: words => do
          let problems := formatProblems (format.length + 1) format
          if let some problem := problems.find? FormatProblem.stops then throw problem.text
          goOn (.leaf (.tell (some goal) fun m v => write m v (format.length + 1) format))
            { manner with warnings := manner.warnings ++ problems } words
        | [goal] => throw (invalidArgument word goal)
        | [] => throw ("missing argument to ".toList ++ inBackquotes word)
      | "-printf" =>
        match words with
        | format :: words => do
          let problems := formatProblems (format.length + 1) format
          if let some problem := problems.find? FormatProblem.stops then throw problem.text
          goOn (.leaf (.tell none fun m v => write m v (format.length + 1) format))
            { manner with warnings := manner.warnings ++ problems } words
        | [] => throw ("missing argument to ".toList ++ inBackquotes word)
      | name =>
        if word.head? != some '-' || word.length = 1 then
          throw ("paths must precede expression: ".toList ++ inBackquotes word)
        else if !valueNames.contains name && (newerLetters? word).isNone then
          throw ((if "-newer".toList.isPrefixOf word && word.length = 8 then
            "invalid predicate " else "unknown predicate ").toList ++ inBackquotes word)
        else
          match words with
          | [] =>
            throw (if (newerLetters? word).isSome then
              "The ".toList ++ inQuotes word ++ " test needs an argument".toList
            else "missing argument to ".toList ++ inBackquotes word)
          | value :: words =>
            match valueManner? word value, valueTest? m manner word value with
            | some (.ok change), _ => goOn (.leaf .always) (change manner) words
            | some (.error text), _ => throw text
            | none, some (.ok expression) => goOn (.leaf expression) manner words
            | none, some (.error text) => throw text
            | none, none => throw ("unknown predicate ".toList ++ inBackquotes word)

abbrev Built := Except Octets (Expression × List Item)

def nothingBefore (word : Octets) : Octets :=
  "invalid expression; you have used a binary operator '".toList ++ word ++
    "' with nothing before it.".toList

mutual

def buildSequence : (fuel : Nat) → List Item → Built
  | 0, _ => .error []
  | fuel + 1, items => do
    let (first, rest) ← buildEither fuel items
    match rest with
    | .comma :: rest => do
      if rest.isEmpty then throw "expected an expression after ','".toList
      let (second, rest) ← buildSequence fuel rest
      return (.sequence first second, rest)
    | rest => return (first, rest)
  termination_by structural fuel => fuel

def buildEither : (fuel : Nat) → List Item → Built
  | 0, _ => .error []
  | fuel + 1, items => do
    let (first, rest) ← buildBoth fuel items
    match rest with
    | .disjunction word :: rest => do
      if rest.isEmpty then throw ("expected an expression after '".toList ++ word ++ ['\x27'])
      let (second, rest) ← buildEither fuel rest
      return (.either first second, rest)
    | rest => return (first, rest)
  termination_by structural fuel => fuel

def buildBoth : (fuel : Nat) → List Item → Built
  | 0, _ => .error []
  | fuel + 1, items => do
    let (first, rest) ← buildPrimary fuel items
    match rest with
    | .conjunction word :: rest => do
      if rest.isEmpty then throw ("expected an expression after '".toList ++ word ++ ['\x27'])
      let (second, rest) ← buildBoth fuel rest
      return (.both first second, rest)
    | [] | .closing :: _ | .disjunction _ :: _ | .comma :: _ => return (first, rest)
    | rest => do
      let (second, rest) ← buildBoth fuel rest
      return (.both first second, rest)
  termination_by structural fuel => fuel

def buildPrimary : (fuel : Nat) → List Item → Built
  | 0, _ => .error []
  | fuel + 1, items => do
    match items with
    | [] => throw "invalid expression".toList
    | .leaf expression :: rest => return (expression, rest)
    | .manner _ :: rest => return (.always, rest)
    | .negation word :: rest => do
      if rest.isEmpty then throw ("expected an expression after '".toList ++ word ++ ['\x27'])
      let (inner, rest) ← buildPrimary fuel rest
      return (.negation inner, rest)
    | .opening :: .closing :: _ =>
      throw "invalid expression; empty parentheses are not allowed.".toList
    | .opening :: rest => do
      let missing : Octets :=
        ("invalid expression; I was expecting to find a ')' somewhere but did not see one.").toList
      if rest.isEmpty then throw missing
      match ← buildSequence fuel rest with
      | (inner, .closing :: rest) => return (inner, rest)
      | _ => throw missing
    | .closing :: _ => throw "invalid expression; you have too many ')'".toList
    | .conjunction word :: _ | .disjunction word :: _ => throw (nothingBefore word)
    | .comma :: _ => throw (nothingBefore [','])
  termination_by structural fuel => fuel

end

def readExpression (m : Machine) (manner : Manner) (words : List Octets) :
    Except Octets (Expression × Manner) := do
  let printed : Expression := .tell none fun _ v => v.path ++ ['\n']
  let (items, manner) ← items m (words.length + 1) manner words
  if items.isEmpty then return (printed, manner)
  let (expression, rest) ← buildSequence (4 * items.length + 8) items
  match rest with
  | [] =>
    let whole := if expression.acts then expression else .both expression printed
    return (whole, manner)
  | _ => throw "you have too many ')'".toList

/-! ## Walking -/

abbrev Start := (directory : Option Place) → List Octets → Act (Option Nat)

structure Progress where
  isPruned : Bool := false
  isOver : Bool := false
  gathered : List (Nat × Octets) := []
  failed : Bool := false

def inPlaceName (v : Visit) : Option Place × Octets :=
  if v.place.isEmpty then (some [], ['/'])
  else if v.path.all (· == '.') then (some v.place, "./".toList ++ v.path)
  else (some v.place.dropLast, "./".toList ++ v.baseName)

def remove (name : Octets) (v : Visit) : Act Bool := do
  let m ← get
  let isFull := v.status.letter == 'd' && hasEntries m v.place
  if v.path = ['.'] then return true
  else if isFull then
    fail 1 name ("cannot delete ".toList ++ inQuotes v.path ++ ": Directory not empty".toList)
    return false
  else
    set { m with files := m.files.prune v.place }
    return true

/-- What an expression says of a file, once it has done what it does. -/
def Expression.run (name : Octets) (start : Start) (v : Visit) :
    Expression → Progress → Act (Bool × Progress)
  | test check, p => do return (check (← get) v, p)
  | tell none text, p => do
    print (text (← get) v)
    return (true, p)
  | tell (some path) text, p => do
    let old ← content path
    let _ ← writeFile path ((old.toOption.getD []) ++ text (← get) v)
    return (true, p)
  | execute asks inPlace words, p => do
    let (directory, path) := if inPlace then inPlaceName v else (none, v.path)
    let braces := "\x7b\x7d".toList
    let words := words.map fun word => replaceAll braces path (word.length + 1) word
    if !asks then return ((← start directory words) == some 0, p)
    printError ("< ".toList ++ words.head?.getD [] ++ " ... ".toList ++ v.path ++
      " > ? ".toList)
    if !((← readLine 0).head?.any "yY".toList.contains) then return (false, p)
    let descriptors := (← get).descriptors
    modify fun m => m.connect 0 (some (.device .null))
    let status ← start directory words
    modify fun m => { m with descriptors }
    return (status == some 0, p)
  | gather id _ _, p => return (true, { p with gathered := (id, v.path) :: p.gathered })
  | delete, p => do
    let isGone ← remove name v
    return (isGone, { p with failed := p.failed || !isGone })
  | prune, p => return (true, { p with isPruned := true })
  | quit, p => return (true, { p with isOver := true })
  | negation inner, p => do
    let (holds, p) ← inner.run name start v p
    return (!holds, p)
  | both first second, p => do
    let (holds, p) ← first.run name start v p
    if holds && !p.isOver then second.run name start v p else return (false, p)
  | either first second, p => do
    let (holds, p) ← first.run name start v p
    if holds || p.isOver then return (true, p) else second.run name start v p
  | sequence first second, p => do
    let (_, p) ← first.run name start v p
    if p.isOver then return (false, p) else second.run name start v p

/-- Meets a file and what is below it. -/
def walk (name : Octets) (start : Start) (manner : Manner) (expression : Expression)
    (origin : Octets) : (fuel : Nat) → (depth : Nat) → (path : Octets) → Place → Progress →
      Act Progress
  | 0, _, _, _, p => return p
  | fuel + 1, depth, path, place, p => do
    let m ← get
    let follows := manner.follows || (manner.followsStarts && depth = 0)
    let goal := if follows then
        match m.files.locate (Route.ofNames place) with
        | .ok goal => if (statusAt? m goal).isSome then goal else place
        | .error _ => place
      else place
    match statusAt? m goal with
    | none => return p
    | some status =>
      let v : Visit := { path, start := origin, depth, place := goal, status }
      let meet (p : Progress) : Act Progress := do
        if depth < manner.least || p.isOver then return p
        let (_, p) ← expression.run name start v p
        return p
      let p := { p with isPruned := false }
      let p ← if manner.innerFirst then pure p else meet p
      let descends := status.letter == 'd' && !(p.isPruned && !manner.innerFirst) && !p.isOver &&
        manner.most.all (depth < ·)
      let front := if path.getLast? == some '/' then path else path ++ ['/']
      let now ← get
      let names := if descends then namesIn now goal else []
      let p ← names.foldlM
        (fun (p : Progress) inner =>
          if p.isOver then pure p
          else walk name start manner expression origin fuel (depth + 1) (front ++ inner)
            (goal ++ [textOf inner]) p)
        p
      if manner.innerFirst then meet p else return p

def run (name : Octets) (start : Start) (manner : Manner) (expression : Expression)
    (paths : List Octets) : Act Unit := do
  let p ← paths.foldlM
    (fun (p : Progress) path => do
      if p.isOver then return p
      let m ← get
      match statusOf m false path, m.entry path with
      | .ok _, .ok place => walk name start manner expression path 256 0 path place p
      | .error fault, _ | _, .error fault => do
        fail 1 name (inQuotes path ++ ": ".toList ++ faultText fault)
        return { p with failed := true })
    {}
  let isFine ← expression.gathered.foldlM
    (fun isFine call => do
      let paths := ((p.gathered.filter (·.1 == call.1)).map (·.2)).reverse
      if paths.isEmpty then return isFine
      let status ← start none (call.2 ++ paths)
      return isFine && status == some 0)
    true
  finish (if p.failed || !isFine then 1 else 0)

def call (start : Start) (name : Octets) (arguments : List Octets) : Act Unit := do
  finish 0
  let isLetter (word : Octets) : Bool :=
    ["-H", "-L", "-P", "-O0", "-O1", "-O2", "-O3"].any (·.toList == word)
  let letters := arguments.takeWhile isLetter
  let words := arguments.drop letters.length
  let startsExpression (word : Octets) : Bool :=
    (word.head? == some '-' && 1 < word.length) || word = ['('] || word = ['!']
  let paths := words.takeWhile fun word => !startsExpression word
  let manner : Manner := match letters.getLast? with
    | some ['-', 'L'] => { follows := true }
    | some ['-', 'H'] => { followsStarts := true }
    | _ => {}
  match readExpression (← get) manner (words.drop paths.length) with
  | .error text => fail 1 name text
  | .ok (expression, manner) => do
    manner.warnings.forM fun warning => report name warning.text
    for goal in expression.goals do
      if let .error fault ← writeFile goal [] then
        fail 1 name (inQuotes goal ++ ": ".toList ++ faultText fault)
        return
    run name start manner expression (if paths.isEmpty then [['.']] else paths)

end Find

end NextRelease.Shell.Tool
