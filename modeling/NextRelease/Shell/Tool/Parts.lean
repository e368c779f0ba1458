import NextRelease.Shell.Octets
import NextRelease.Shell.Tool.Lines
import NextRelease.Text.Terminal
import NextRelease.Text.Quoted

/-!
The first and the last parts of texts, runs of equal lines, and counts. Parts are counted in lines or
in octets.
-/

namespace NextRelease.Shell.Tool

def linesEndedBy (ending : Char) (text : Octets) : List Octets :=
  if ending = '\n' then lines text
  else
    let parts := Text.splitOn ending text
    parts.dropLast.map (· ++ [ending]) ++ (parts.getLast?.filter (!·.isEmpty)).toList

structure Part where
  bytes : Bool := false
  fromStart : Bool
  leavesOut : Bool := false
  count : Nat
  ending : Char := '\n'

def Part.take (part : Part) (text : Octets) : Octets :=
  let cut {α : Type} (units : List α) : List α :=
    let kept := if part.leavesOut then units.length - part.count else part.count
    if part.fromStart then units.take kept else units.drop (units.length - kept)
  if part.bytes then cut text else (cut (linesEndedBy part.ending text)).flatten

def unitName (bytes : Bool) : Octets := (if bytes then "bytes" else "lines").toList

/-- A count with a sign in front, which may leave units out. -/
def partOf? (fromStart : Bool) (options : Options) : Except Octets Part :=
  let ending := if options.has 'z' then '\x00' else '\n'
  match options.last? "nc" with
  | none => .ok { fromStart, count := 10, ending }
  | some letter =>
    let bytes := letter == 'c'
    let value := (options.value? letter).getD []
    let (sign, shown, digits) := match value with
      | '-' :: digits => (some '-', digits, digits)
      | '+' :: digits => (some '+', value, digits)
      | digits => (none, digits, digits)
    match count? digits with
    | none =>
      .error ("invalid number of ".toList ++ unitName bytes ++ ": ".toList ++ inQuotes shown)
    | some count =>
      if fromStart then .ok { bytes, fromStart, leavesOut := sign == some '-', count, ending }
      else if sign = some '+' then
        .ok { bytes, fromStart, leavesOut := true, count := count - 1, ending }
      else .ok { bytes, fromStart, count, ending }

def showParts (name : Octets) (part : Part) (headings : Bool) :
    (isFirst : Bool) → List Octets → Act Unit
  | _, [] => return ()
  | isFirst, path :: paths => do
    let heading : Octets :=
      if headings then
        (if isFirst then [] else ['\n']) ++ "==> ".toList ++
          (if isStandard path then "standard input".toList else path) ++ " <==\n".toList
      else []
    let hasEnough : Except InputFault Octets → Bool
      | .ok text => part.fromStart && !part.leavesOut && part.count ≤ text.count part.ending
      | .error _ => false
    let read := if part.bytes && part.fromStart && !part.leavesOut then
        contentUpTo (some part.count) path
      else if part.leavesOut == part.fromStart then readWhole (content path)
      else readEnough (content path) hasEnough
    match ← read with
    | .ok text => do
      let taken := part.take text
      print (heading ++ taken)
      if isStandard path && part.fromStart && !part.leavesOut && !part.bytes then
        putBack (text.drop taken.length)
      showParts name part headings false paths
    | .error (.file .isADirectory) => do
      print heading
      fail 1 name ("error reading ".toList ++ shellQuoted path ++ ": Is a directory".toList)
      showParts name part headings false paths
    | .error .closed => do
      let problem := if part.fromStart then "error reading" else "cannot fstat"
      fail 1 name (problem.toList ++ " 'standard input': ".toList ++ closedText)
      showParts name part headings isFirst paths
    | .error fault => do
      fail 1 name ("cannot open ".toList ++ shellQuoted path ++ " for reading: ".toList ++
        fault.text)
      showParts name part headings isFirst paths

def oldHeadOptions (digits letters : Octets) : Except Char Options := do
  let options ← letters.mapM fun c =>
    match c with
    | 'c' | 'b' | 'k' | 'm' => .ok ('c', digits ++ if c = 'c' then [] else [c])
    | 'l' => .ok ('n', digits)
    | 'q' | 'v' | 'z' => .ok (c, [])
    | c => .error c
  return ('n', digits) :: options

/-- The options that a first word stands for that is a count itself, for the last part of a text;
that is so only where at most one file is named behind it. -/
def oldTailOptions? (word : Octets) (rest : List Octets) : Option Options := do
  let isOption : Octets → Bool
    | '-' :: _ :: _ => true
    | _ => false
  let isAlone : Bool := match rest with
    | [] => true
    | [path] => !isOption path || path == ['-', '-']
    | first :: rest => first == ['-', '-'] && rest.length ≤ 1
  guard isAlone
  let (sign, text) ← match word with
    | '+' :: text => some (['+'], text)
    | '-' :: text => if text.isEmpty || text == ['c'] then none else some ([], text)
    | _ => none
  let digits := text.takeWhile Char.isDigit
  let letters := text.drop digits.length
  let (letter, unit) := match letters.head? with
    | some 'b' => ('c', ['b'])
    | some 'c' => ('c', [])
    | _ => ('n', [])
  let letters := if (letters.head?.map ("bcl".toList.contains ·)).getD false then letters.drop 1
    else letters
  guard (letters == [] || letters == ['f'])
  let count := if digits.isEmpty then ['1', '0'] else digits
  return (letter, sign ++ count ++ unit) :: letters.map (·, [])

def partFlags : List Flag :=
  [⟨'n', "lines", true⟩, ⟨'c', "bytes", true⟩, ⟨'q', "quiet", false⟩, ⟨'q', "silent", false⟩,
    ⟨'v', "verbose", false⟩, ⟨'z', "zero-terminated", false⟩]

def digitFlags : List Flag := plainFlags "0123456789"

def showPart (fromStart : Bool) (name : Octets) (options : Options) (operands : List Octets) :
    Act Unit := do
  match partOf? fromStart options with
  | .error text => fail 1 name text
  | .ok part =>
    let paths := inputs operands
    let headings := match options.last? "qv" with
      | some letter => letter == 'v'
      | none => 1 < paths.length
    showParts name part headings true paths
    complainIfClosed name operands ['-']

def head : Tool := fun name arguments => do
  let digitsOf (word : Octets) : Octets := match word with
    | '-' :: text => text.takeWhile Char.isDigit
    | _ => []
  let digits := digitsOf (arguments.head?.getD [])
  let old := if digits.isEmpty then .ok []
    else oldHeadOptions digits ((arguments.head?.getD []).drop (digits.length + 1))
  match old with
  | .error c => do misuse 1 name ("invalid trailing option -- ".toList ++ [c])
  | .ok old =>
    withOptions false (partFlags ++ digitFlags) 1
      (fun name options operands => do
        match options.find? fun option => option.1.isDigit with
        | some (c, _) => misuse 1 name ("invalid trailing option -- ".toList ++ [c])
        | none => showPart true name (old ++ options) operands)
      name (if digits.isEmpty then arguments else arguments.drop 1)

def tail : Tool := fun name arguments => do
  let old? := match arguments with
    | word :: rest => oldTailOptions? word rest
    | [] => none
  withOptions false
    (partFlags ++ digitFlags ++
      [⟨'f', "follow", .maybe⟩, ⟨'F', "", false⟩, ⟨'s', "sleep-interval", true⟩,
        ⟨'p', "pid", true⟩, ⟨'R', "retry", false⟩])
    1
    (fun name options operands => do
      match options.find? fun option => option.1.isDigit with
      | some (c, _) => fail 1 name ("option used in invalid context -- ".toList ++ [c])
      | none => showPart false name (old?.getD [] ++ options) operands)
    name (if old?.isSome then arguments.drop 1 else arguments)

/-! ## Runs

Runs of equal lines, of which all, some or none are shown.
-/

def runsOf (equal : Octets → Octets → Bool) (texts : List Octets) : List (List Octets) :=
  texts.splitBy equal

inductive Parting where
  | none
  | before
  | after
  | between
  | both

namespace Parting

def join (parting : Parting) (runs : List (List Octets)) : List Octets :=
  match parting with
  | none => runs.flatten
  | before => runs.flatMap ([] :: ·)
  | after => runs.flatMap (· ++ [[]])
  | between => List.intercalate [[]] runs
  | both => if runs.isEmpty then [] else [] :: runs.flatMap (· ++ [[]])

end Parting

structure RunChoice where
  lone : Bool := true
  one : Bool := true
  others : Bool := false

def RunChoice.lines (choice : RunChoice) (run : List Octets) : List Octets :=
  match run with
  | [line] => if choice.lone then [line] else []
  | run =>
    if choice.others then run.dropLast ++ if choice.one then run.getLast?.toList else []
    else if choice.one then run.head?.toList
    else []

structure LineKey where
  fields : Nat := 0
  chars : Nat := 0
  width : Option Nat := none
  ignoresCase : Bool := false

namespace LineKey

def skipFields : (count : Nat) → Octets → Octets
  | 0, text => text
  | count + 1, text =>
    let isBetween (c : Char) : Bool := isGap c || c == '\n'
    skipFields count ((text.dropWhile isBetween).dropWhile fun c => !isBetween c)

def part (key : LineKey) (line : Octets) : Octets :=
  let text := (skipFields (min key.fields line.length) line).drop key.chars
  let text := match key.width with
    | some width => text.take width
    | none => text
  if key.ignoresCase then text.map Char.toUpper else text

end LineKey

/-- Words for numbers of fields and characters that have an older form. -/
def withoutOldCounts : List Octets → List Octets
  | ['-', '-'] :: words => ['-', '-'] :: words
  | word :: words =>
    (match word with
    | '-' :: digits =>
      let number := (digits.filter Char.isDigit)
      if isNumber digits then "-f".toList ++ digits
      else if digits.all (fun c => c.isDigit || "cdDuiz".toList.contains c) && !number.isEmpty then
        '-' :: digits.filter (!·.isDigit) ++ 'f' :: number
      else word
    | '+' :: digits => if isNumber digits then "-s".toList ++ digits else word
    | word => word) :: withoutOldCounts words
  | [] => []

def uniqFlags : List Flag :=
  [⟨'c', "count", false⟩, ⟨'d', "repeated", false⟩, ⟨'D', "", false⟩,
    ⟨'\x01', "all-repeated", .maybe⟩, ⟨'\x02', "group", .maybe⟩, ⟨'i', "ignore-case", false⟩,
    ⟨'u', "unique", false⟩, ⟨'f', "skip-fields", true⟩, ⟨'s', "skip-chars", true⟩,
    ⟨'w', "check-chars", true⟩, ⟨'z', "zero-terminated", false⟩]

def chosenOr (name : Octets) (subject : String) (choices : List (List String × Parting))
    (usual : Parting) (word : Option Octets) : Act (Option Parting) := do
  match word with
  | none => return some .none
  | some [] => return some usual
  | some word => choose 1 name (inQuotes subject.toList) choices word

def uniqMisuse? (options : Options) : Option Octets :=
  options.findSome? fun (letter, value) =>
    let subject := match letter with
      | 'f' => "fields to skip"
      | 's' => "bytes to skip"
      | _ => "bytes to compare"
    if "fsw".toList.contains letter && !isNumber value then
      some (value ++ (": invalid number of " ++ subject).toList)
    else none

def uniq : Tool := fun name arguments =>
  withOptions false uniqFlags 1
    (fun name options operands => do
      match uniqMisuse? options with
      | some reason => fail 1 name reason
      | none => do
        let some repeated ← chosenOr name "--all-repeated"
          [(["none"], .none), (["prepend"], .before), (["separate"], .between)] .none
          (options.value? '\x01') | return
        let some group ← chosenOr name "--group"
          [(["prepend"], .before), (["append"], .after), (["separate"], .between),
            (["both"], .both)] .between (options.value? '\x02') | return
        let showsAll := options.has 'D' || options.has '\x01'
        let isGrouped := options.has '\x02'
        if isGrouped && (options.any fun option => "cdu".toList.contains option.1) ||
            (isGrouped && showsAll) then
          misuse 1 name "--group is mutually exclusive with -c/-d/-D/-u".toList
        else if showsAll && options.has 'c' then
          misuse 1 name
            "printing all duplicated lines and repeat counts is meaningless".toList
        else if let extra :: _ := operands.drop 2 then
          misuse 1 name ("extra operand ".toList ++ inQuotes extra)
        else
          let number (letter : Char) : Option Nat := (options.value? letter).map readNat
          let key : LineKey :=
            { fields := (number 'f').getD 0, chars := (number 's').getD 0, width := number 'w'
              ignoresCase := options.has 'i' }
          let ending := if options.has 'z' then '\x00' else '\n'
          let choice : RunChoice :=
            { lone := !(options.has 'd' || showsAll), one := !options.has 'u', others := showsAll }
          let input := operands.head?.getD ['-']
          match ← content input with
          | .error (.file .isADirectory) =>
            fail 1 name ("error reading ".toList ++ shellQuoted input ++ ": Is a directory".toList)
          | .error fault => fail 1 name (quotedIfPeculiar input ++ ": ".toList ++ fault.text)
          | .ok text => do
            let runs := runsOf (fun a b => key.part a == key.part b) (partsBefore ending text)
            let shown (run : List Octets) : List Octets :=
              if isGrouped then run
              else
                let count := if options.has 'c' then padLeft 7 (natText run.length) ++ [' '] else []
                (choice.lines run).map (count ++ ·)
            let parting := if isGrouped then group else repeated
            let texts := parting.join ((runs.map shown).filter (!·.isEmpty))
            let output := texts.flatMap (· ++ [ending])
            match operands.drop 1 with
            | path :: _ =>
              if isStandard path then print output
              else
                match ← writeFile path output with
                | .ok () => return ()
                | .error fault => fail 1 name (about path fault)
            | [] => print output)
    name (withoutOldCounts arguments)

/-! ## Counts

Counts of texts: their lines, words, characters and octets, and how wide their longest line is.
-/

structure Counts where
  lines : Nat := 0
  words : Nat := 0
  chars : Nat := 0
  octets : Nat := 0
  width : Nat := 0

namespace Counts

def add (a b : Counts) : Counts :=
  ⟨a.lines + b.lines, a.words + b.words, a.chars + b.chars, a.octets + b.octets,
    max a.width b.width⟩

def get (c : Counts) : Char → Nat
  | 'l' => c.lines
  | 'w' => c.words
  | 'm' => c.chars
  | 'c' => c.octets
  | _ => c.width

structure Reading where
  counts : Counts := {}
  column : Nat := 0
  inWord : Bool := false

def isFixedSpace (n : Nat) : Bool := n == 0xa0 || n == 0x2007 || n == 0x202f || n == 0x2060

def isWideSpace (n : Nat) : Bool :=
  n == 0x1680 || (0x2000 ≤ n && n ≤ 0x200a) || n == 0x2028 || n == 0x2029 || n == 0x205f ||
    n == 0x3000 || n == 0x85

def isShown (n : Nat) : Bool :=
  if n < 128 then 32 ≤ n && n < 127 else isWideSpace n || isFixedSpace n || Text.isPrintable n

def Reading.endLine (r : Reading) : Reading :=
  { r with counts := { r.counts with width := max r.counts.width r.column }, column := 0 }

def Reading.endWord (r : Reading) : Reading :=
  if r.inWord then
    { r with counts := { r.counts with words := r.counts.words + 1 }, inWord := false }
  else r

def Reading.take (r : Reading) (c : Char) : Reading :=
  if Wide.isStray c then r
  else
    let r := { r with counts := { r.counts with chars := r.counts.chars + 1 } }
    let n := c.toNat
    if c = '\n' then
      { r.counts with lines := r.counts.lines + 1 } |> fun counts => { r with counts } |>.endLine
        |>.endWord
    else if c = '\r' || n = 12 then r.endLine.endWord
    else if c = '\t' then { r with column := r.column + (8 - r.column % 8) }.endWord
    else if c = ' ' then { r with column := r.column + 1 }.endWord
    else if n = 11 then r.endWord
    else if !isShown n then r
    else
      let r := { r with column := r.column + Text.cellWidth c }
      if isWideSpace n || isFixedSpace n then r.endWord else { r with inWord := true }

def ofText (text : Octets) : Counts :=
  let r := ((Wide.ofOctets text).foldl Reading.take {}).endLine.endWord
  { r.counts with octets := text.length }

end Counts

def countLetters : List Char := "lwmcL".toList

def inputSize? (m : Machine) (path : Octets) : Option Nat :=
  if isStandard path then
    match m.channel? 0 with
    | some channel => (m.stream? channel).bind Stream.fileSize
    | none => some 0
  else
    match m.status? path, m.files.read (m.route path) with
    | .error _, _ => some 0
    | .ok .file, .ok bytes => some bytes.size
    | .ok _, _ => none

def countWidth (sizes : List (Option Nat)) : Nat :=
  let size := (sizes.filterMap id).foldl (· + ·) 0
  max (natText size).length (if sizes.any Option.isNone then 7 else 1)

def countInput (name path : Octets) : Act (Option Counts) := do
  if path.isEmpty then
    fail 1 name "invalid zero-length file name".toList
    return none
  match ← readWhole (content path) with
  | .ok text => return some (.ofText text)
  | .error .closed => do
    fail 1 name ("'standard input': ".toList ++ closedText)
    return some {}
  | .error fault => do
    fail 1 name (quotedIfPeculiar path ++ ": ".toList ++ fault.text)
    return match fault with
      | .file .isADirectory => some {}
      | _ => none

def listedInputs (name path : Octets) : Act (Option (List Octets × Bool)) := do
  match ← content path with
  | .ok text =>
    let isFile := (descriptorAt? path).isNone && (← get).hasKind .file path
    return some (partsBefore '\x00' text, isFile)
  | .error fault => do
    fail 1 name ("cannot open ".toList ++ shellQuoted path ++ " for reading: ".toList ++ fault.text)
    return none

def wc : Tool :=
  withOptions false
    [⟨'l', "lines", false⟩, ⟨'w', "words", false⟩, ⟨'m', "chars", false⟩, ⟨'c', "bytes", false⟩,
      ⟨'L', "max-line-length", false⟩, ⟨'F', "files0-from", true⟩]
    1 fun name options operands => do
      let letters := countLetters.filter options.has
      let letters := if letters.isEmpty then "lwc".toList else letters
      let row (width : Nat) (counts : Counts) (label : Octets) : Octets :=
        Text.joinWith ' ' (letters.map fun letter => padLeft width (natText (counts.get letter))) ++
          (if label.isEmpty then [] else ' ' :: label) ++ ['\n']
      let named? := options.value? 'F'
      let found ← match named?, operands with
        | some _, word :: _ => do
          fail 1 name ("extra operand ".toList ++ shellQuoted word)
          printError "file operands cannot be combined with --files0-from\n".toList
          printError (helpHint name)
          pure none
        | some path, [] => listedInputs name path
        | none, _ => pure (some (inputs operands, true))
      match found with
      | none => pure ()
      | some (paths, isKnown) => do
        let m ← get
        let isSingle := paths.length == 1 && letters.length == 1
        let width := if isSingle || !isKnown then 1 else countWidth (paths.map (inputSize? m))
        let total ← paths.foldlM
          (fun total path => do
            match ← countInput name path with
            | some counts => do
              print (row width counts (if named?.isSome || !operands.isEmpty then path else []))
              return total.add counts
            | none => return total)
          ({} : Counts)
        if 1 < paths.length then print (row width total "total".toList)
        complainIfClosed name operands ['-']

end NextRelease.Shell.Tool
