import NextRelease.Shell.Tool.Encoding

/-!
Files block by block: copies that start and end where they are told to, and sizes that are set.
-/

namespace NextRelease.Shell.Tool

def filledTo (size : Nat) (text : Octets) : Octets :=
  text.take size ++ List.replicate (size - text.length) '\x00'

/-! ## Copying blocks -/

namespace BlockCopy

structure Refusal where
  text : Octets
  offersHelp : Bool := true

def number? (text : Octets) : Option Nat :=
  let factors := (Text.splitOn 'x' text).map fun factor =>
    match factor.reverse with
    | 'c' :: digits => if isNumber digits.reverse then some (readNat digits.reverse) else none
    | 'w' :: digits => if isNumber digits.reverse then some (2 * readNat digits.reverse) else none
    | _ => if factor.head?.any Char.isDigit then count? factor else none
  factors.foldl
    (fun product factor => product.bind fun n => factor.map fun m => n * m) (some 1)

structure Amount where
  number : Nat
  isOctets : Bool := false

def Amount.octets (amount : Amount) (block : Nat) : Nat :=
  if amount.isOctets then amount.number else amount.number * block

/-- What is to be done. -/
structure Job where
  source : Option Octets := none
  goal : Option Octets := none
  inputBlock : Nat := 512
  outputBlock : Nat := 512
  record : Nat := 0
  isDirect : Bool := false
  count : Option Amount := none
  skip : Amount := ⟨0, false⟩
  seek : Amount := ⟨0, false⟩
  conversions : List Octets := []
  inputFlags : List Octets := []
  outputFlags : List Octets := []
  status : Octets := []

def conversionNames : List String :=
  ["ascii", "ebcdic", "ibm", "block", "unblock", "lcase", "ucase", "sparse", "swab", "sync", "excl",
    "nocreat", "notrunc", "noerror", "fdatasync", "fsync"]

def flagNames : List String :=
  ["append", "direct", "directory", "dsync", "sync", "fullblock", "nonblock", "noatime", "nocache",
    "noctty", "nofollow", "count_bytes", "skip_bytes", "seek_bytes"]

def readWords (kind : String) (names : List String) (text : Octets) :
    Except Refusal (List Octets) :=
  let words := Text.splitOn ',' text
  match words.find? fun word => !names.any (·.toList == word) with
  | some word => .error ⟨("invalid " ++ kind ++ ": ").toList ++ inQuotes word, true⟩
  | none => .ok words

def readNumber (text : Octets) : Except Refusal Amount :=
  let refusal : Refusal := ⟨"invalid number: ".toList ++ shellQuoted text, false⟩
  let (text, isOctets) := match text.reverse with
    | 'B' :: c :: cs => if c.isDigit then ((c :: cs).reverse, true) else (text, false)
    | _ => (text, false)
  match number? text with
  | some number => .ok ⟨number, isOctets⟩
  | none => .error refusal

def readSize (text : Octets) : Except Refusal Nat := do
  let amount ← readNumber text
  if amount.number = 0 then throw ⟨"invalid number: ".toList ++ shellQuoted text, false⟩
  return amount.number

def readOperand (job : Job) (word : Octets) : Except Refusal Job :=
  let refusal : Refusal := ⟨"unrecognized operand ".toList ++ shellQuoted word, true⟩
  match Text.cut '=' word with
  | (_, none) => .error refusal
  | (key, some value) =>
    match String.ofList key with
    | "if" => .ok { job with source := some value }
    | "of" => .ok { job with goal := some value }
    | "bs" => do
      let size ← readSize value
      return { job with inputBlock := size, outputBlock := size, isDirect := true }
    | "ibs" => do return { job with inputBlock := ← readSize value }
    | "obs" => do return { job with outputBlock := ← readSize value }
    | "cbs" => do return { job with record := ← readSize value }
    | "count" => do return { job with count := some (← readNumber value) }
    | "skip" | "iseek" => do return { job with skip := ← readNumber value }
    | "seek" | "oseek" => do return { job with seek := ← readNumber value }
    | "conv" => do
      return { job with
        conversions := job.conversions ++ (← readWords "conversion" conversionNames value) }
    | "iflag" => do
      return { job with inputFlags := job.inputFlags ++ (← readWords "input flag" flagNames value) }
    | "oflag" => do
      return { job with
        outputFlags := job.outputFlags ++ (← readWords "output flag" flagNames value) }
    | "status" =>
      if ["none", "noxfer", "progress"].any (·.toList == value) then
        .ok { job with status := value }
      else .error ⟨"invalid status level: ".toList ++ inQuotes value, true⟩
    | _ => .error refusal

namespace Job

def converts (job : Job) (name : String) : Bool := job.conversions.contains name.toList

def isSilent (job : Job) : Bool := job.status == "none".toList

def isFlagged (job : Job) (name : String) : Bool :=
  job.inputFlags.contains name.toList || job.outputFlags.contains name.toList

def settled (job : Job) : Job :=
  let byOctets (name : String) (amount : Amount) : Amount :=
    if job.isFlagged name then { amount with isOctets := true } else amount
  { job with
    count := job.count.map (byOctets "count_bytes")
    skip := byOctets "skip_bytes" job.skip
    seek := byOctets "seek_bytes" job.seek
    isDirect := job.isDirect && !(job.converts "block" || job.converts "unblock") }

def clash? (job : Job) : Option Octets :=
  let both (a b : String) : Option Octets :=
    if job.converts a && job.converts b then
      some ("cannot combine ".toList ++ a.toList ++ " and ".toList ++ b.toList)
    else none
  (both "block" "unblock").or ((both "lcase" "ucase").or (both "excl" "nocreat"))

end Job

def swapped : Octets → Octets
  | a :: b :: cs => b :: a :: swapped cs
  | cs => cs

def convertBlock (job : Job) (block : Octets) : Octets :=
  let filler := if job.converts "block" || job.converts "unblock" then ' ' else '\x00'
  let block := if job.converts "sync" then
      block ++ List.replicate (job.inputBlock - block.length) filler
    else block
  let block := if job.converts "swab" then swapped block else block
  if job.converts "ucase" then block.map Char.toUpper
  else if job.converts "lcase" then block.map Char.toLower
  else block

def convertText (job : Job) (text : Octets) : Octets :=
  if job.record = 0 then text
  else if job.converts "block" then
    (lines text).flatMap fun line =>
      let bare := (withoutBreak line).take job.record
      bare ++ List.replicate (job.record - bare.length) ' '
  else if job.converts "unblock" then
    (octetGroups job.record (text.length + 1) text).flatMap fun group =>
      (group.reverse.dropWhile (· == ' ')).reverse ++ ['\n']
  else text

def tellBlocks (size : Nat) (lengths : List Nat) (what : String) : Octets :=
  let full := (lengths.filter (· == size)).length
  natText full ++ '+' :: natText (lengths.length - full) ++ " records ".toList ++ what.toList ++
    ['\n']

def run (name : Octets) (job : Job) : Act Unit := do
  let skip := job.skip.octets job.inputBlock
  let most := job.count.map fun amount => amount.octets job.inputBlock
  let limit := most.map (skip + ·)
  let path := job.source.getD ['-']
  let shown := job.source.getD "standard input".toList
  let input ← contentUpTo limit path
  match input with
  | .error (.file fault) =>
    if fault != .isADirectory then
      fail 1 name ("failed to open ".toList ++ shellQuoted path ++ ": ".toList ++ faultText fault)
      return
  | _ => pure ()
  /- The file that is written keeps what lies in front of the copy, and behind it if asked to. -/
  let old ← match job.goal with
    | none => pure []
    | some goal => do
      let m ← get
      let old := (m.files.read (m.route goal)).toOption.map ofBytes
      if job.converts "excl" && old.isSome then
        fail 1 name ("failed to open ".toList ++ shellQuoted goal ++ ": File exists".toList)
        return
      if job.converts "nocreat" && old.isNone then
        fail 1 name ("failed to open ".toList ++ shellQuoted goal ++
          ": No such file or directory".toList)
        return
      match ← writeFile goal (old.getD []) with
      | .error fault =>
        fail 1 name ("failed to open ".toList ++ shellQuoted goal ++ ": ".toList ++ faultText fault)
        return
      | .ok () => pure (old.getD [])
  let text ← match input with
    | .ok text => pure text
    | .error fault => do
      fail 1 name ("error reading ".toList ++ shellQuoted shown ++ ": ".toList ++ fault.text)
      pure []
  if text.length < skip && !job.isSilent then
    report name (quotedIfPeculiar shown ++ ": cannot skip to specified offset".toList)
  let taken := match most with
    | some most => (text.drop skip).take most
    | none => text.drop skip
  let blocks := octetGroups job.inputBlock (taken.length + 1) taken
  let output := convertText job (blocks.flatMap (convertBlock job))
  let written := if job.isDirect then (blocks.map fun block => (convertBlock job block).length)
    else (octetGroups job.outputBlock (output.length + 1) output).map List.length
  match job.goal with
  | none => print output
  | some goal =>
    let start := job.seek.octets job.outputBlock
    let whole := if job.isFlagged "append" then old ++ output
      else
        let tail := if job.converts "notrunc" then old.drop (start + output.length) else []
        filledTo start old ++ output ++ tail
    let _ ← writeFile goal whole
  if !job.isSilent then
    printError (tellBlocks job.inputBlock (blocks.map List.length) "in")
    printError (tellBlocks job.outputBlock written "out")
    if job.status != "noxfer".toList then
      let size := output.length
      printError (natText size ++ (if size = 1 then " byte" else " bytes").toList ++
        " copied, 0 s, Infinity B/s\n".toList)

end BlockCopy

def dd : Tool := fun name arguments => do
  finish 0
  match readOptions false [] (arguments.length + 1) arguments with
  | .error text => misuse 1 name text
  | .ok (_, operands) =>
    match operands.foldlM BlockCopy.readOperand {} with
    | .error refusal =>
      fail 1 name refusal.text
      if refusal.offersHelp then printError (helpHint name)
    | .ok job =>
      match job.settled.clash? with
      | some text => fail 1 name text
      | none => BlockCopy.run name job.settled

/-! ## Sizes -/

def newSize? (unit : Nat) (text : Octets) (size : Nat) : Option (Except String Nat) :=
  let number (digits : Octets) : Option Nat :=
    if digits.head?.any Char.isDigit then (count? digits).map (unit * ·) else none
  match text.dropWhile isGap with
  | '+' :: digits => (number digits).map fun n => .ok (size + n)
  | '-' :: digits => (number digits).map fun n => .ok (size - n)
  | '<' :: digits => (number digits).map fun n => .ok (min size n)
  | '>' :: digits => (number digits).map fun n => .ok (max size n)
  | '/' :: digits => (number digits).map fun n =>
    if n = 0 then .error "division by zero" else .ok (size / n * n)
  | '%' :: digits => (number digits).map fun n =>
    if n = 0 then .error "division by zero" else .ok ((size + n - 1) / n * n)
  | digits => (number digits).map .ok

/-- Sets the size of a file. -/
def truncateOne (name : Octets) (mayCreate : Bool) (sized : Nat → Nat) (path : Octets) :
    Act Unit := do
  let m ← get
  let old := m.files.read (m.route path)
  match old, mayCreate with
  | .error .notFound, false => pure ()
  | old, _ =>
    let text := (old.toOption.map ofBytes).getD []
    match ← writeFile path (filledTo (sized text.length) text) with
    | .ok () => pure ()
    | .error fault =>
      fail 1 name ("cannot open ".toList ++ shellQuoted path ++ " for writing: ".toList ++
        faultText fault)

def truncate : Tool :=
  withOptions false
    [⟨'s', "size", true⟩, ⟨'c', "no-create", false⟩, ⟨'r', "reference", true⟩,
      ⟨'o', "io-blocks", false⟩] 1 fun name options operands => do
    let size := options.value? 's'
    let isRelative := size.any fun text =>
      (text.dropWhile isGap).head?.any fun c => "+-<>/%".toList.contains c
    let unit := if options.has 'o' then 4096 else 1
    match size.map fun text => (text, newSize? unit text 0) with
    | some (text, none) => fail 1 name ("Invalid number: ".toList ++ inQuotes text)
    | some (_, some (.error reason)) => fail 1 name reason.toList
    | size =>
      let size := size.map (·.1)
      if size.isNone && !options.has 'r' then
        misuse 1 name ("you must specify either ".toList ++ inQuotes "--size".toList ++
          " or ".toList ++ inQuotes "--reference".toList)
      else if options.has 'r' && size.isSome && !isRelative then
        misuse 1 name ("you must specify a relative ".toList ++ inQuotes "--size".toList ++
          " with ".toList ++ inQuotes "--reference".toList)
      else if options.has 'o' && size.isNone then
        misuse 1 name (inQuotes "--io-blocks".toList ++ " was specified but ".toList ++
          inQuotes "--size".toList ++ " was not".toList)
      else if operands.isEmpty then misuse 1 name "missing file operand".toList
      else
        let sizeFrom (start : Nat) : Nat :=
          match size.bind fun text => newSize? unit text start with
          | some (.ok n) => n
          | _ => start
        match options.value? 'r' with
        | none => operands.forM (truncateOne name (!options.has 'c') sizeFrom)
        | some path => do
          let m ← get
          match m.files.read (m.route path) with
          | .error fault =>
            fail 1 name ("cannot stat ".toList ++ shellQuoted path ++ ": ".toList ++
              faultText fault)
          | .ok bytes =>
            operands.forM (truncateOne name (!options.has 'c') fun _ => sizeFrom bytes.size)

end NextRelease.Shell.Tool
