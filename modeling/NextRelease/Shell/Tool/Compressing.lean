import NextRelease.Shell.Compress.Member
import NextRelease.Shell.Tool.Status
import NextRelease.Shell.Tool.Values

/-!
Compressing files. A file is replaced by its compressed form, which has an ending behind its name,
and the other way round; or what comes of it is printed.
-/

namespace NextRelease.Shell.Tool

namespace Compressing

open Compress

inductive Work where
  | pack
  | unpack
  | check
  | list
  deriving DecidableEq

structure Request where
  work : Work := .pack
  level : Nat := 6
  prints : Bool := false
  forces : Bool := false
  keeps : Bool := false
  tells : Bool := false
  isQuiet : Bool := false
  isDeep : Bool := false
  isNameless : Bool := false
  ending : Octets := ".gz".toList

structure Totals where
  files : Nat := 0
  packed : Nat := 0
  text : Nat := 0
  head : Nat := 0

abbrev Job := StateT Totals Act

def lift {α : Type} (a : Act α) : Job α := StateT.lift a

def trouble (text : Octets) : Job Unit := lift do
  printError ("gzip: ".toList ++ text ++ ['\n'])
  finish 1

def warning (r : Request) (text : Octets) : Job Unit := lift do
  if !r.isQuiet then printError ("gzip: ".toList ++ text ++ ['\n'])
  if (← get).status = 0 then finish 2

def ratioText (part : Int) (whole : Nat) : Octets :=
  let q : Int := if whole = 0 then 0 else
    let n := part.natAbs * 10000 / whole
    let tenths := (n + 5) / 10
    if part < 0 then -(tenths : Int) else tenths
  let digits := natText (q.natAbs / 10) ++ '.' :: natText (q.natAbs % 10)
  padLeft 5 (if q < 0 then '-' :: digits else digits) ++ ['%']

def knownEndings (r : Request) : List Octets :=
  r.ending :: [".gz", ".z", ".taz", ".tgz", "-gz", "-z", "_z"].map String.toList

def endingOf? (r : Request) (path : Octets) : Option Octets :=
  let lower := (baseOf path).map Char.toLower
  (knownEndings r).find? fun ending =>
    let ending := ending.map Char.toLower
    ending.length < lower.length && ending.isSuffixOf lower

def unpackedName (path ending : Octets) : Octets :=
  let front := path.take (path.length - ending.length)
  if ending = ".taz".toList || ending = ".tgz".toList then front ++ ".tar".toList else front

def troubleText (path : Octets) : Trouble → Octets
  | .unmarked => path ++ ": not in gzip format".toList
  | .cutShort => path ++ ": unexpected end of file".toList
  | .broken => path ++ ": invalid compressed data--format violated".toList
  | .wrongSum => path ++ ": invalid compressed data--crc error".toList
  | .wrongLength => path ++ ": invalid compressed data--length error".toList

structure Unpacked where
  text : Octets := []
  isWhole : Bool := true
  member : Option Member := none

def unpackAll (r : Request) (path : Octets) : (fuel : Nat) → (isFirst : Bool) → Octets →
    Job Unpacked
  | 0, _, _ => return {}
  | fuel + 1, isFirst, file => do
    if !isFirst && (file.isEmpty || file.all (· == '\x00')) then return {}
    match readMember file with
    | .ok (member, rest) => do
      let more ← unpackAll r path fuel false rest
      return { more with
        text := member.text ++ more.text, member := more.member.getD member }
    | .error (troubles, text) => do
      match troubles with
      | [.unmarked] =>
        if !isFirst then
          if !r.isQuiet then lift (printError ['\n'])
          warning r (path ++ ": decompression OK, trailing garbage ignored".toList)
          return {}
        if r.forces && r.prints && r.work = .unpack then return { text := file }
      | _ => pure ()
      troubles.forM fun one => do
        lift (printError ['\n'])
        trouble (troubleText path one)
      return { text, isWhole := false }

def listed (r : Request) (name : Octets) (size : Nat) (u : Unpacked) : Job Unit := do
  match u.member with
  | none => return ()
  | some member => do
    let totals ← get
    if totals.files = 0 && !r.isQuiet then
      lift (print ((if r.tells then "method  crc     date  time  " else "").toList ++
        "         compressed        uncompressed  ratio uncompressed_name\n".toList))
    let head := member.headSize + 8
    set { totals with
      files := totals.files + 1, packed := totals.packed + size
      text := totals.text + u.text.length, head }
    let m ← lift get
    let digits := Nat.toDigits 16 member.sum
    let front := if r.tells then
        "defla ".toList ++ List.replicate (8 - digits.length) '0' ++ digits ++ [' '] ++
          ((momentOf (member.time * 1000000000)).inZone (zoneOf m)).text "%b %e %H:%M".toList ++
            [' ']
      else []
    lift (print (front ++ padLeft 19 (natText size) ++ [' '] ++
      padLeft 19 (natText u.text.length) ++
      [' '] ++ ratioText ((u.text.length : Int) - ((size : Int) - head)) u.text.length ++
      [' '] ++ name ++ ['\n']))

def replaceFile (r : Request) (goal text : Octets) (found : Found) : Job Bool := do
  match ← lift (writeFile goal text) with
  | .error fault => do
    trouble (goal ++ ": ".toList ++ faultText fault)
    return false
  | .ok () => do
    lift (modify fun m =>
      match m.entry goal with
      | .error _ => m
      | .ok place =>
        let mode := m.files.mode found.place
        let times := m.files.timesAt found.place
        let files := (m.files.setMode place mode).setTimes place times
        { m with files := if r.keeps then files else files.erase found.place })
    return true

/-- Compresses a file or unpacks it; the file is there. -/
def change (r : Request) (path : Octets) (found : Found) : Job Unit := do
  let file ← lift (content path)
  match file with
  | .error fault => trouble (path ++ ": ".toList ++ fault.text)
  | .ok text => do
    let ending? := endingOf? r path
    let isPacking := r.work = .pack
    if r.work = .list then
      let u ← unpackAll r path (text.length + 1) true text
      let name := match ending? with
        | some ending => unpackedName path ending
        | none => path
      if u.isWhole then listed r name text.length u
      return
    if r.work = .check then
      let u ← unpackAll r path (text.length + 1) true text
      if u.isWhole && r.tells then lift (printError (path ++ ":\t OK\n".toList))
      return
    let tellsMore := r.tells || (!r.isDeep && !r.isQuiet)
    let goal? ← if r.prints then pure (some "stdout".toList)
      else if isPacking then
        match ending? with
        | some ending => do
          if tellsMore then
            lift (printError ("gzip: ".toList ++ path ++ " already has ".toList ++ ending ++
              " suffix -- unchanged\n".toList))
          pure none
        | none => pure (some (path ++ r.ending))
      else
        match ending? with
        | some ending => pure (some (unpackedName path ending))
        | none => do
          if tellsMore then
            lift (printError ("gzip: ".toList ++ path ++ ": unknown suffix -- ignored\n".toList))
          lift (do if (← get).status = 0 then finish 2)
          pure none
    match goal? with
    | none => return
    | some goal => do
      let m ← lift get
      if !r.prints && !r.forces && (m.entry goal).toOption.any fun place =>
          (m.files.get? place).isSome then
        lift do
          printError ("gzip: ".toList ++ goal ++ " already exists;\tnot overwritten\n".toList)
          if (← get).status = 0 then finish 2
        return
      let seconds := ((m.files.timesAt found.place).changed / 1000000000).toNat
      let head : Head := { level := r.level, time := if r.isNameless then 0 else seconds
                           name := if r.isNameless then none else some (baseOf path) }
      let (result, isWhole, saved, whole) ← if isPacking then do
          let result := packed head text
          let size := result.length - head.text.length - 8
          pure (result, true, (text.length : Int) - size, text.length)
        else do
          let u ← unpackAll r path (text.length + 1) true text
          let headSize := match u.member with
            | some member => member.headSize + 8
            | none => 0
          pure (u.text, u.isWhole,
            (u.text.length : Int) - ((text.length : Int) - (headSize : Int)), u.text.length)
      -- what is not whole may be printed, but takes the place of no file
      let isDone ← if r.prints then do
          lift (print result)
          pure isWhole
        else if isWhole then replaceFile r goal result found
        else pure false
      if isDone && r.tells then
        let verb := if r.keeps then " -- created ".toList else " -- replaced with ".toList
        lift (printError (path ++ ":\t".toList ++ ratioText saved whole ++ verb ++ goal ++ ['\n']))

def changeInput (r : Request) : Job Unit := do
  let text ← lift (readAll 0)
  match r.work with
  | .pack => do
    let head : Head := { level := r.level }
    let result := packed head text
    lift (print result)
    if r.tells then
      let size := result.length - head.text.length - 8
      lift (printError (ratioText ((text.length : Int) - size) text.length ++ ['\n']))
  | work => do
    let r := { r with prints := true }
    let u ← unpackAll r "stdin".toList (text.length + 1) true text
    match work with
    | .list => if u.isWhole then listed r "stdout".toList text.length u
    | .check => if u.isWhole && r.tells then lift (printError " OK\n".toList)
    | _ => lift (print u.text)

/-- Works on what an operand names; directories are gone through if that is asked for. -/
def treat (r : Request) : (fuel : Nat) → (path : Octets) → Job Unit
  | 0, _ => return ()
  | fuel + 1, path => do
    if isStandard path then changeInput r
    else
      let m ← lift get
      let follows := r.prints || r.forces || r.work = .list || r.work = .check
      let named := if r.work = .pack || (look m follows path).toOption.isSome ||
          (endingOf? r path).isSome then path
        else path ++ r.ending
      match look m follows named with
      | .error fault => trouble (named ++ ": ".toList ++ faultText fault)
      | .ok found =>
        if found.isDirectory then
          if r.isDeep then
            (namesIn m found.place).forM fun name => treat r fuel (joined named name)
          else warning r (named ++ " is a directory -- ignored".toList)
        else if found.isLink then trouble (named ++ ": Too many levels of symbolic links".toList)
        else if !found.isFile && !r.prints then
          warning r (named ++ " is not a directory or a regular file - ignored".toList)
        else
          let others := (m.files.namesAt found.place).length - 1
          if !follows && others != 0 then
            let plural := if others = 1 then [] else ['s']
            warning r (named ++ " has ".toList ++ natText others ++ " other link".toList ++
              plural ++
              " -- file ignored".toList)
          else change r named found

def treatAll (r : Request) (operands : List Octets) : Act Unit := do
  let depth := (← get).files.entries.length + 2
  let work : Job Unit := do
    if operands.isEmpty then changeInput r else operands.forM fun path => treat r depth path
    let totals ← get
    if r.work = .list && 1 < totals.files && !r.isQuiet then
      let front := if r.tells then List.replicate 28 ' ' else []
      lift (print (front ++ padLeft 19 (natText totals.packed) ++ [' '] ++
        padLeft 19 (natText totals.text) ++ [' '] ++
        ratioText ((totals.text : Int) - ((totals.packed : Int) - totals.head)) totals.text ++
        " (totals)\n".toList))
  let _ ← work.run {}

def flags : List Flag :=
  plainFlags "aH?LmMVZ" ++
  [⟨'b', "bits", true⟩, ⟨'c', "stdout", false⟩, ⟨'c', "to-stdout", false⟩,
    ⟨'d', "decompress", false⟩, ⟨'d', "uncompress", false⟩, ⟨'f', "force", false⟩,
    ⟨'h', "help", false⟩, ⟨'k', "keep", false⟩, ⟨'l', "list", false⟩, ⟨'n', "no-name", false⟩,
    ⟨'N', "name", false⟩, ⟨'q', "quiet", false⟩, ⟨'q', "silent", false⟩,
    ⟨'r', "recursive", false⟩, ⟨'S', "suffix", true⟩, ⟨'t', "test", false⟩,
    ⟨'v', "verbose", false⟩, ⟨'1', "fast", false⟩, ⟨'9', "best", false⟩,
    ⟨'\x01', "rsyncable", false⟩, ⟨'\x02', "synchronous", false⟩] ++ plainFlags "2345678"

def requestOf (usual : Request) (options : Options) : Request :=
  options.foldl
    (fun r (c, value) =>
      match c with
      | 'c' => { r with prints := true }
      | 'd' => { r with work := if r.work = .pack then .unpack else r.work }
      | 'f' => { r with forces := true }
      | 'k' => { r with keeps := true }
      | 'l' => { r with work := .list }
      | 'n' => { r with isNameless := true }
      | 'N' => { r with isNameless := false }
      | 'q' => { r with isQuiet := true, tells := false }
      | 'r' => { r with isDeep := true }
      | 'S' => { r with ending := value }
      | 't' => { r with work := .check }
      | 'v' => { r with tells := true, isQuiet := false }
      | c => if c.isDigit && c != '0' then { r with level := c.toNat - 48 } else r)
    usual

end Compressing

def compressing (usual : Compressing.Request) : Tool := fun _ arguments => do
  finish 0
  match readOptions false Compressing.flags (arguments.length + 1) arguments with
  | .error text => do
    report "gzip".toList text
    printError "Try \x60gzip --help' for more information.\n".toList
    finish 1
  | .ok (options, operands) =>
    let r := Compressing.requestOf usual options
    if r.ending.isEmpty || r.ending.contains '/' then
      report "gzip".toList ("invalid suffix '".toList ++ r.ending ++ ['\x27'])
      finish 1
    else Compressing.treatAll r operands

def gzip : Tool := compressing {}

def gunzip : Tool := compressing { work := .unpack }

def zcat : Tool := compressing { work := .unpack, prints := true }

end NextRelease.Shell.Tool
