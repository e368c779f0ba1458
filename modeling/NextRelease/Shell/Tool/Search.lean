import NextRelease.Shell.Perl.Matching
import NextRelease.Shell.Tool.Lines
import NextRelease.Shell.Tool.Reading
import NextRelease.Shell.Tool.Regex
import NextRelease.Shell.Tool.Values

/-!
Searching lines for what matches an expression. Lines that were found may be shown with those around
them, or only with the parts that match.
-/

namespace NextRelease.Shell.Tool

inductive Engine where
  | expressions (all : List Regex)
  | pattern (pattern : Perl.Pattern)

structure Search where
  engine : Engine
  ignoresCase : Bool := false
  wholeWords : Bool := false
  wholeLines : Bool := false
  inverted : Bool := false

namespace Search

def manner (search : Search) : Regex.Manner :=
  { ignoresCase := search.ignoresCase, isWide := true }

def accepts (search : Search) (last : Option Char) (p : Regex.Place) : Bool :=
  let isWord := Regex.isWordChar search.manner
  if search.wholeLines then last.isNone && p.rest.isEmpty
  else !search.wholeWords || !(last.any isWord || p.rest.head?.any isWord)

def lengthAt? (search : Search) (expressions : List Regex) (steps : Nat) (last : Option Char)
    (cs : List Char) : Option Nat :=
  let places := expressions.flatMap fun regex =>
    (Regex.places search.manner steps regex { rest := cs, last }).filter (search.accepts last)
  places.foldl
    (fun best p => match best with
      | some n => some (max n p.taken)
      | none => some p.taken)
    none

def firstIn? (search : Search) (expressions : List Regex) (steps : Nat) :
    (last : Option Char) → List Char → Option (Nat × Nat)
  | last, [] => (search.lengthAt? expressions steps last []).map (0, ·)
  | last, c :: cs =>
    match search.lengthAt? expressions steps last (c :: cs) with
    | some size => some (0, size)
    | none => (firstIn? search expressions steps (some c) cs).map fun found =>
      (found.1 + 1, found.2)

def matchBehind? (search : Search) (line : List Char) (place : Nat) : Option (Nat × Nat) :=
  match search.engine with
  | .expressions expressions =>
    let last := if place = 0 then none else (line.drop (place - 1)).head?
    (search.firstIn? expressions (Regex.stepsFor line) last (line.drop place)).map fun found =>
      (place + found.1, found.2)
  | .pattern pattern =>
    (Perl.search line.toArray pattern place none).map fun found =>
      (found.start, found.stop - found.start)

def hasMatch (search : Search) (line : List Char) : Bool := (search.matchBehind? line 0).isSome

def holds (search : Search) (line : Octets) : Bool :=
  search.hasMatch (Wide.ofOctets line) != search.inverted

def partsFrom (search : Search) (line : List Char) : (fuel : Nat) → (place : Nat) →
    List (Nat × Nat)
  | 0, _ => []
  | fuel + 1, place =>
    match search.matchBehind? line place with
    | none => []
    | some (start, 0) =>
      if line.length ≤ start then [] else partsFrom search line fuel (start + 1)
    | some (start, size) => (start, size) :: partsFrom search line fuel (start + size)

def partsOf (search : Search) (line : List Char) : List (Nat × Nat) :=
  search.partsFrom line (line.length + 2) 0

end Search

/-! ## What is shown -/

structure Display where
  label : Option Octets := none
  endsNames : Bool := false
  numbers : Bool := false
  offsets : Bool := false
  aligns : Bool := false
  onlyParts : Bool := false
  colors : Bool := false
  ending : Char := '\n'
  before : Option Nat := none
  after : Option Nat := none
  separator : Option Octets := some "--".toList
  most : Option Nat := none
  showsAll : Bool := false

structure NumberedLine where
  text : Octets
  number : Nat
  offset : Nat

def numberedFrom : (number offset : Nat) → List Octets → List NumberedLine
  | _, _, [] => []
  | number, offset, text :: texts =>
    ⟨text, number, offset⟩ :: numberedFrom (number + 1) (offset + text.length + 1) texts

namespace Display

def colored (d : Display) (color : String) (text : Octets) : Octets :=
  if d.colors && !text.isEmpty then
    ("\x1b[" ++ color ++ "m\x1b[K").toList ++ text ++ "\x1b[m\x1b[K".toList
  else text

def front (d : Display) (mark : Char) (number offset : Nat) : Octets :=
  let sign := d.colored "36" [mark]
  let count (n : Nat) : Octets :=
    d.colored "32" (if d.aligns then padLeft 2 (natText n) else natText n) ++ sign
  let name := match d.label with
    | some label => d.colored "35" label ++ if d.endsNames then ['\x00'] else sign
    | none => []
  let parts := name ++ (if d.numbers then count number else []) ++
    (if d.offsets then count offset else [])
  if d.aligns && !parts.isEmpty then parts ++ ['\t'] else parts

def painted (d : Display) (line : List Char) : (place : Nat) → List (Nat × Nat) → Octets
  | place, [] => Wide.toOctets (line.drop place)
  | place, (start, size) :: parts =>
    Wide.toOctets ((line.take start).drop place) ++
      d.colored "01;31" (Wide.toOctets ((line.drop start).take size)) ++
      painted d line (start + size) parts

def shownLine (d : Display) (search : Search) (line : NumberedLine) : Octets :=
  let front := d.front ':' line.number
  if d.onlyParts then
    if search.inverted then []
    else
      let wide := Wide.ofOctets line.text
      (search.partsOf wide).flatMap fun part =>
        let before := (Wide.toOctets (wide.take part.1)).length
        let text := Wide.toOctets ((wide.drop part.1).take part.2)
        front (line.offset + before) ++ d.colored "01;31" text ++ [d.ending]
  else
    let text := if d.colors && !search.inverted then
        let wide := Wide.ofOctets line.text
        d.painted wide 0 (search.partsOf wide)
      else line.text
    front line.offset ++ text ++ [d.ending]

def shownNearby (d : Display) (line : NumberedLine) : Octets :=
  if d.onlyParts then [] else d.front '-' line.number line.offset ++ line.text ++ [d.ending]

end Display

structure Progress where
  out : Written := {}
  count : Nat := 0
  next : Option Nat := none
  pending : Nat := 0
  isUsed : Bool := false
  isOdd : Bool := false
  passed : List NumberedLine := []

namespace Progress

def put (p : Progress) (d : Display) (text : Octets) (line : NumberedLine) : Progress :=
  if p.isOdd then p
  else if !d.showsAll && !Wide.isSound line.text then { p with isOdd := true }
  else { p with out := p.out.add text, next := some (line.number + 1) }

def pass (p : Progress) (d : Display) (line : NumberedLine) : Progress :=
  if 0 < p.pending then
    { p.put d (d.shownNearby line) line with pending := p.pending - 1, passed := [] }
  else { p with passed := (line :: p.passed).take (d.before.getD 0) }

def find (p : Progress) (d : Display) (search : Search) (line : NumberedLine) : Progress :=
  let near := p.passed.reverse
  let first := (near.head?.getD line).number
  let isApart := p.next != some first
  let separates := (d.before.isSome || d.after.isSome) && p.isUsed && isApart
  let gap : Octets := match d.separator with
    | some text => if separates then d.colored "36" text ++ ['\n'] else []
    | none => []
  let p := { p with out := p.out.add gap, passed := [] }
  let p := near.foldl (fun p line => p.put d (d.shownNearby line) line) p
  { p.put d (d.shownLine search line) line with
    count := p.count + 1, isUsed := true, pending := d.after.getD 0 }

def run (d : Display) (search : Search) : Progress → List NumberedLine → Progress
  | p, [] => p
  | p, line :: lines =>
    if p.isOdd || (d.most.any (· ≤ p.count) && p.pending = 0) then p
    else if d.most.any (· ≤ p.count) then run d search (p.pass d line) lines
    else if search.holds line.text then run d search (p.find d search line) lines
    else run d search (p.pass d line) lines

end Progress

/-! ## Inputs -/

def isNamedBy (patterns : List Octets) (path : Octets) : Bool :=
  patterns.any fun pattern =>
    [path, baseOf path].any fun name =>
      matchesPattern (marked false (Wide.ofOctets pattern)) (Wide.ofOctets name)

structure Choice where
  included : List Octets := []
  excluded : List Octets := []
  excludedDirectories : List Octets := []
  follows : Bool := false

def Choice.has (choice : Choice) (path : Octets) : Bool :=
  !isNamedBy choice.excluded path &&
    (choice.included.isEmpty || isNamedBy choice.included path)

def Choice.below (choice : Choice) (m : Machine) : (fuel : Nat) → (front : Octets) → Place →
    List Octets
  | 0, _, _ => []
  | fuel + 1, front, place =>
    (namesIn m place).flatMap fun name =>
      let path := front ++ name
      let inner := place ++ [textOf name]
      let node := m.files.get? inner
      let found : Option Found := match node with
        | some (.link _) =>
          if choice.follows then
            match m.files.locate inner with
            | .ok goal => (m.files.get? goal).map fun node => ⟨goal, node⟩
            | .error _ => none
          else none
        | node => node.map fun node => ⟨inner, node⟩
      match found with
      | some ⟨inner, .directory⟩ =>
        if isNamedBy choice.excludedDirectories name then []
        else choice.below m fuel (path ++ ['/']) inner
      | some ⟨_, .file _⟩ => if choice.has name then [path] else []
      | _ => []

def Choice.files (choice : Choice) (m : Machine) (operands : List Octets) : List Octets :=
  let fuel := 2 * m.files.entries.length + 50
  if operands.isEmpty then choice.below m fuel [] m.cwd
  else
    operands.flatMap fun path =>
      match look m true path with
      | .ok found =>
        if found.isDirectory then
          if isNamedBy choice.excludedDirectories path then []
          else choice.below m fuel (joined path []) found.place
        else if choice.has path then [path] else []
      | .error _ => [path]

/-! ## The tool -/

def grepFlags : List Flag :=
  plainFlags "0123456789uPUV" ++
    [⟨'A', "after-context", true⟩, ⟨'B', "before-context", true⟩, ⟨'C', "context", true⟩,
      ⟨'D', "devices", true⟩, ⟨'E', "extended-regexp", false⟩, ⟨'F', "fixed-regexp", false⟩,
      ⟨'F', "fixed-strings", false⟩, ⟨'G', "basic-regexp", false⟩, ⟨'P', "perl-regexp", false⟩,
      ⟨'H', "with-filename", false⟩, ⟨'I', "", false⟩, ⟨'L', "files-without-match", false⟩,
      ⟨'R', "dereference-recursive", false⟩, ⟨'T', "initial-tab", false⟩, ⟨'X', "", true⟩,
      ⟨'Z', "null", false⟩, ⟨'a', "text", false⟩, ⟨'b', "byte-offset", false⟩,
      ⟨'c', "count", false⟩, ⟨'d', "directories", true⟩, ⟨'e', "regexp", true⟩,
      ⟨'f', "file", true⟩, ⟨'h', "no-filename", false⟩, ⟨'i', "ignore-case", false⟩,
      ⟨'y', "", false⟩, ⟨'l', "files-with-matches", false⟩, ⟨'m', "max-count", true⟩,
      ⟨'n', "line-number", false⟩, ⟨'o', "only-matching", false⟩, ⟨'q', "quiet", false⟩,
      ⟨'q', "silent", false⟩, ⟨'r', "recursive", false⟩, ⟨'s', "no-messages", false⟩,
      ⟨'U', "binary", false⟩, ⟨'v', "invert-match", false⟩, ⟨'w', "word-regexp", false⟩,
      ⟨'x', "line-regexp", false⟩, ⟨'z', "null-data", false⟩, ⟨'\x01', "binary-files", true⟩,
      ⟨'\x02', "color", .maybe⟩, ⟨'\x02', "colour", .maybe⟩, ⟨'\x03', "include", true⟩,
      ⟨'\x04', "exclude", true⟩, ⟨'\x05', "exclude-from", true⟩, ⟨'\x06', "exclude-dir", true⟩,
      ⟨'\x07', "label", true⟩, ⟨'\x08', "line-buffered", false⟩,
      ⟨'\x0e', "group-separator", true⟩, ⟨'\x0f', "no-group-separator", false⟩,
      ⟨'\x10', "no-ignore-case", false⟩]

def grepUsage (name : Octets) : Octets :=
  "Usage: ".toList ++ name ++ " [OPTION]... PATTERNS [FILE]...\n".toList ++ helpHint name

def signedCount? (text : Octets) : Option Int :=
  match text with
  | '-' :: digits => if isNumber digits then some (-Int.ofNat (readNat digits)) else none
  | '+' :: digits | digits => if isNumber digits then some (Int.ofNat (readNat digits)) else none

def matcherLetter? (name : Octets) : Option Char :=
  match String.ofList name with
  | "grep" => some 'G'
  | "egrep" => some 'E'
  | "fgrep" => some 'F'
  | "perl" | "pcre" => some 'P'
  | _ => none

def grepMistake? : (matcher : Option Char) → Options → Option Octets
  | _, [] => none
  | matcher, (letter, value) :: options =>
    if "ABC".toList.contains letter then
      match signedCount? value with
      | some n =>
        if n < 0 then some (value ++ ": invalid context length argument".toList)
        else grepMistake? matcher options
      | none => some (value ++ ": invalid context length argument".toList)
    else if letter = 'm' then
      if (signedCount? value).isSome then grepMistake? matcher options
      else some "invalid max count".toList
    else if letter = '\x01' then
      if [("binary".toList), "text".toList, "without-match".toList].contains value then
        grepMistake? matcher options
      else some "unknown binary-files type".toList
    else if letter = 'D' && value != "read".toList && value != "skip".toList then
      some "unknown devices method".toList
    else if "EFGPX".toList.contains letter then
      match if letter = 'X' then matcherLetter? value else some letter with
      | none => some ("invalid matcher ".toList ++ value)
      | some chosen =>
        if matcher.any (· != chosen) then some "conflicting matchers specified".toList
        else grepMistake? (some chosen) options
    else grepMistake? matcher options

/-- Reads the expressions; the second part of the answer are the repetitions of nothing. -/
def readEngine (matcher : Char) (options : Options) (patterns : List Octets) :
    Except Octets (Engine × List String) := do
  let isLone (pattern : Octets) : Bool := pattern == ['['] || pattern == "[^".toList
  match matcher with
  | 'P' =>
    if 1 < patterns.length then throw "the -P option only supports a single pattern".toList
    let pattern := (patterns.head?.getD [])
    if pattern.getLast? == some '\\' && (pattern.reverse.takeWhile (· == '\\')).length % 2 = 1 then
      throw "\\ at end of pattern".toList
    let flags : Perl.Flags := { ignoreCase := options.has 'i', isWide := true, isStrict := true }
    let (inner, _) ← (Perl.readPattern flags (Wide.ofOctets pattern)).mapError
      fun problem => problem.fault.plainText.toList
    let beside (ahead : Bool) : Perl.Pattern :=
      .look ahead true (.oneOf false false [.word false])
    return (.pattern
      (if options.has 'x' then .sequence .textStart (.sequence inner .textEnd)
      else if options.has 'w' then .sequence (beside false) (.sequence inner (beside true))
      else inner), [])
  | 'F' => return (.expressions (patterns.map fun text => .literal (Wide.ofOctets text)), [])
  | matcher =>
    let dialect : Regex.Dialect :=
      { if matcher = 'E' then Regex.Dialect.loose else .basic with refusesColons := true }
    let read ← patterns.mapM fun pattern => do
      if isLone pattern then throw "Invalid regular expression".toList
      (Regex.readWith dialect (Wide.ofOctets pattern)).mapError String.toList
    return (.expressions (read.map (·.1)), read.flatMap (·.2))

structure Finding where
  isFound : Bool := false
  rest : Option Octets := none

/-- Searches the text of one input and shows what is to be shown of it. -/
def searchText (name : Octets) (options : Options) (d : Display) (search : Search)
    (label : Octets) (isUsed : Bool) (text : Octets) : Act (Finding × Bool) := do
  let isBinary := !d.showsAll && d.ending == '\n' && text.contains '\x00'
  if isBinary && (options.last? "aI\x01") == some 'I' then return ({}, isUsed)
  let text := if isBinary then text.map fun c => if c = '\x00' then '\n' else c else text
  let lines := numberedFrom 1 0 (if text.isEmpty then [] else partsBefore d.ending text)
  let isSilent := options.has 'q' || options.has 'l' || options.has 'L'
  if isSilent then
    let isFound := lines.any fun line => search.holds line.text
    let named := label ++ if d.endsNames then ['\x00'] else ['\n']
    if !options.has 'q' && isFound == (options.last? "lL" == some 'l') then print named
    return ({ isFound }, isUsed)
  else if options.has 'c' then
    let count := (lines.filter fun line => search.holds line.text).length
    let count := (d.most.map (min count)).getD count
    let front := { d with numbers := false, offsets := false, aligns := false }.front ':' 0 0
    print (front ++ natText count ++ ['\n'])
    return ({ isFound := 0 < count }, isUsed)
  else if isBinary then
    let isFound := lines.any fun line => search.holds line.text
    if isFound then report name (label ++ ": binary file matches".toList)
    return ({ isFound }, isUsed)
  else
    let progress := Progress.run d search { isUsed } lines
    print progress.out.text
    if progress.isOdd && options.last? "aI\x01" != some 'I' then
      report name (label ++ ": binary file matches".toList)
    let isCut := d.most.any (· ≤ progress.count)
    let found := lines.filter fun line => search.holds line.text
    let stop := ((found[progress.count - 1]?).map fun line => line.offset + line.text.length + 1)
    return ({ isFound := 0 < progress.count
              rest := if isCut then stop.map text.drop else none }, progress.isUsed)

def contextOf (options : Options) : Option Nat × Option Nat :=
  let digits := (options.map (·.1)).filter Char.isDigit
  let number (value : Octets) : Nat := ((signedCount? value).getD 0).toNat
  let both := ((options.value? 'C').map number).or
    (if digits.isEmpty then none else some (readNat digits))
  (((options.value? 'B').map number).or both, ((options.value? 'A').map number).or both)

def givenPatterns (name : Octets) : Options → Act (Option (List Octets))
  | [] => return some []
  | (letter, value) :: options => do
    let some more ← givenPatterns name options | return none
    match letter with
    | 'e' => return some (Text.splitOn '\n' value ++ more)
    | 'f' =>
      match ← content value with
      | .ok text => return some ((if text.isEmpty then [] else partsBefore '\n' text) ++ more)
      | .error fault => do
        fail 2 name (value ++ ": ".toList ++ fault.text)
        return none
    | _ => return some more

def isOwnOutput (m : Machine) (path : Octets) : Bool :=
  match m.channel? 1, descriptorAt? path, look m true path with
  | some (.file place), none, .ok found => (m.files.namesAt place).contains found.place
  | _, _, _ => false

/-- Searches lines; `style` says that expressions are extended ones, or no expressions at all. -/
def searchLines (style : Options) : Tool := fun name arguments => do
  finish 0
  match readOptions false grepFlags (arguments.length + 1) arguments with
  | .error text => do
    fail 2 name text
    printError (grepUsage name)
  | .ok (options, operands) =>
    let options : Options := (style ++ options).map fun option =>
      if option.1 = 'y' then ('i', option.2) else option
    if let some reason := grepMistake? none options then
      fail 2 name reason
      return
    let some action ← choose 1 name (inQuotes "--directories".toList)
      [(["read"], 'd'), (["recurse"], 'r'),
        (["skip"], 's')] ((options.value? 'd').getD "read".toList)
      | return
    let isGiven := options.any fun option => option.1 = 'e' || option.1 = 'f'
    if !isGiven && operands.isEmpty then
      printError (grepUsage name)
      finish 2
      return
    let some given ← givenPatterns name options | return
    let (patterns, operands) := if isGiven then (given, operands)
      else (Text.splitOn '\n' (operands.head?.getD []), operands.drop 1)
    let matcher := (options.last? "EFGPX").map fun letter =>
      if letter = 'X' then ((options.value? 'X').bind matcherLetter?).getD 'G' else letter
    match readEngine (matcher.getD 'G') options patterns with
    | .error text => fail 2 name text
    | .ok (engine, orphans) => do
      orphans.forM fun mark => report name ("warning: ".toList ++ mark.toList ++
        " at start of expression".toList)
      let search : Search :=
        { engine
          ignoresCase := options.last? "i\x10" == some 'i'
          wholeWords := options.has 'w'
          wholeLines := options.has 'x'
          inverted := options.has 'v' }
      let m ← get
      let directories := match options.last? "rRd" with
        | some 'd' => action
        | some letter => letter
        | none => 'd'
      let isDeep := directories == 'r' || directories == 'R'
      let choice : Choice :=
        { included := options.values '\x03', excluded := options.values '\x04'
          excludedDirectories := options.values '\x06', follows := directories == 'R' }
      let paths := if isDeep then choice.files m operands
        else (inputs operands).filter fun path => isStandard path || choice.has path
      let isNamed := match options.last? "hH" with
        | some letter => letter == 'H'
        | none => match operands with
          | [] => isDeep
          | [path] => isDeep && m.hasKind .directory path
          | _ => true
      let (before, after) := contextOf options
      let most := ((options.value? 'm').bind signedCount?).bind fun n =>
        if n < 0 then none else some n.toNat
      let showsAll := match options.last? "aI\x01" with
        | some 'a' => true
        | some '\x01' => options.value? '\x01' == some "text".toList
        | _ => false
      let labelOf (path : Octets) : Octets :=
        if isStandard path then (options.value? '\x07').getD "(standard input)".toList else path
      let display (path : Octets) : Display :=
        { label := if isNamed then some (labelOf path) else none
          endsNames := options.has 'Z', numbers := options.has 'n', offsets := options.has 'b'
          aligns := options.has 'T', onlyParts := options.has 'o'
          colors := options.value? '\x02' == some "always".toList
          ending := if options.has 'z' then '\x00' else '\n'
          before, after, most, showsAll
          separator := if options.last? "\x0e\x0f" == some '\x0f' then none
            else some ((options.value? '\x0e').getD "--".toList) }
      let isSilent := options.has 'q' || options.has 'l'
      -- no line is asked for, so no file is opened
      if most = some 0 && !options.has 'L' then
        finish 1
        return
      let mostLines := most.getD (if isSilent then 1 else 0)
      let hasEnough : Except InputFault Octets → Bool
        | .ok text =>
          let matching := (lines text).filter fun line => search.holds (withoutBreak line)
          mostLines ≤ matching.length
        | .error _ => false
      let read (path : Octets) : Act (Except InputFault Octets) :=
        if mostLines = 0 then content path else readEnough (content path) hasEnough
      let (isFound, _) ← paths.foldlM
        (fun (state : Bool × Bool) path => do
          let (isFound, isUsed) := state
          if isFound && options.has 'q' then return state
          let skips := directories == 's' && (m.hasKind .directory path)
          if skips then return state
          -- such a file would grow with each line that is found in it
          if isOwnOutput (← get) path && !isSilent && most != some 1 then
            fail 2 name (labelOf path ++ ": input file is also the output".toList)
            return state
          match ← read path with
          | .ok text => do
            let (finding, isUsed) ← searchText name options (display path) search (labelOf path)
              isUsed text
            if isStandard path then
              if let some rest := finding.rest then putBack rest
            return (isFound || finding.isFound, isUsed)
          | .error fault => do
            if options.has 's' then finish 2
            else fail 2 name (labelOf path ++ ": ".toList ++ fault.text)
            return state)
        (false, false)
      if isFound then
        if options.has 'q' then finish 0
      else if (← get).status = 0 then finish 1

def grep : Tool := searchLines []

def egrep : Tool := fun _ => searchLines [('E', [])] "grep".toList

def fgrep : Tool := fun _ => searchLines [('F', [])] "grep".toList

end NextRelease.Shell.Tool
