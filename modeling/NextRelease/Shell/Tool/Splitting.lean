import NextRelease.Shell.Signal
import NextRelease.Shell.Tool.Encoding

/-!
Cutting a file into pieces that are files of their own, named in the order of the pieces.
-/

namespace NextRelease.Shell.Tool

namespace Splitting

inductive Cut where
  | lines (count : Nat)
  | octets (size : Nat)
  | lineOctets (size : Nat)
  | chunks (count : Nat) (only : Option Nat)
  | lineChunks (count : Nat) (only : Option Nat)
  | dealt (count : Nat) (only : Option Nat)

def Cut.only? : Cut → Option Nat
  | chunks _ only | lineChunks _ only | dealt _ only => only
  | _ => none

def Cut.count? : Cut → Option Nat
  | chunks count _ | lineChunks count _ | dealt count _ => some count
  | _ => none

def inGroups {α : Type} (size : Nat) : (fuel : Nat) → List α → List (List α)
  | 0, _ => []
  | _, [] => []
  | fuel + 1, items => items.take size :: inGroups size fuel (items.drop size)

def linePieces (size : Nat) (ending : Char) : (fuel : Nat) → Octets → List Octets
  | 0, _ => []
  | _, [] => []
  | fuel + 1, text =>
    let front := text.take size
    let back := front.reverse.takeWhile (· != ending)
    let length := if text.length ≤ size || back.length = front.length then front.length
      else front.length - back.length
    text.take length :: linePieces size ending fuel (text.drop length)

def chunkEnds (count size : Nat) : List Nat :=
  let step := max size count / count
  (List.range count).map fun i => if i + 1 = count then max size count else (i + 1) * step

def placedLines : (start : Nat) → List Octets → List (Nat × Octets)
  | _, [] => []
  | start, line :: rest => (start, line) :: placedLines (start + line.length) rest

def linesBy (ending : Char) (text : Octets) : List Octets :=
  text.foldr
    (fun c texts => match texts with
      | [] => [[c]]
      | line :: rest => if c = ending then [c] :: texts else (c :: line) :: rest)
    []

def pieces (cut : Cut) (ending : Char) (text : Octets) : List Octets :=
  match cut with
  | .lines count =>
    let all := linesBy ending text
    (inGroups count (all.length + 1) all).map List.flatten
  | .octets size => octetGroups size (text.length + 1) text
  | .lineOctets size => linePieces size ending (text.length + 1) text
  | .chunks count _ =>
    let ends := chunkEnds count text.length
    ((0 :: ends).zip ends).map fun range => (text.drop range.1).take (range.2 - range.1)
  | .lineChunks count _ =>
    let placed := placedLines 0 (linesBy ending text)
    let ends := chunkEnds count text.length
    ((0 :: ends).zip ends).map fun range =>
      (placed.filter fun line => range.1 ≤ line.1 && line.1 < range.2).flatMap (·.2)
  | .dealt count _ =>
    let all := (linesBy ending text).zipIdx
    (List.range count).map fun i => (all.filter fun line => line.2 % count == i).flatMap (·.1)

/-! ## Names -/

structure Naming where
  letters : Octets := "abcdefghijklmnopqrstuvwxyz".toList
  start : Nat := 0
  length : Option Nat := none
  more : Octets := []

def digitsFor? (letters : Octets) (length n : Nat) : Option Octets :=
  let base := letters.length
  if n < Nat.pow base length then
    some ((List.range length).map fun i =>
      letters[n / Nat.pow base (length - 1 - i) % base]?.getD 'a')
  else none

def growing (letters : Octets) : (fuel : Nat) → (length n : Nat) → Octets
  | 0, _, _ => []
  | fuel + 1, length, n =>
    let base := letters.length
    let room := (base - 1) * Nat.pow base (length - 1)
    if n < room then (digitsFor? letters length n).getD []
    else (letters.getLast?.toList) ++ growing letters fuel (length + 1) (n - room)

def Naming.ending? (naming : Naming) (i : Nat) : Option Octets :=
  match naming.length with
  | some length => (digitsFor? naming.letters length (naming.start + i)).map (· ++ naming.more)
  | none => some (growing naming.letters 16 2 (naming.start + i) ++ naming.more)

/-! ## Calls -/

def positive? (text : Octets) : Option Nat :=
  if isNumber text && readNat text != 0 then some (readNat text) else none

def size? (text : Octets) : Option Nat :=
  if text.head?.any Char.isDigit then (count? text).filter (· != 0) else none

def readChunks (text : Octets) : Except Octets Cut :=
  let (make, text) : (Nat → Option Nat → Cut) × Octets := match text with
    | 'l' :: '/' :: text => (.lineChunks, text)
    | 'r' :: '/' :: text => (.dealt, text)
    | text => (.chunks, text)
  let refuse (text : Octets) : Except Octets Cut :=
    .error ("invalid number of chunks: ".toList ++ inQuotes text)
  match Text.cut '/' text with
  | (count, none) =>
    match positive? count with
    | some n => .ok (make n none)
    | none => refuse count
  | (only, some count) =>
    match positive? count, positive? only with
    | none, _ => refuse count
    | some n, some k =>
      if k ≤ n then .ok (make n (some k))
      else .error ("invalid chunk number: ".toList ++ inQuotes only)
    | some _, none => .error ("invalid chunk number: ".toList ++ inQuotes only)

def readCut (option : Char × Octets) : Except Octets Cut :=
  let orRefuse (cut : Option Cut) (kind : String) : Except Octets Cut :=
    match cut with
    | some cut => .ok cut
    | none => .error (("invalid number of " ++ kind ++ ": ").toList ++ inQuotes option.2)
  match option.1 with
  | 'l' => orRefuse ((positive? option.2).map .lines) "lines"
  | 'b' => orRefuse ((size? option.2).map .octets) "bytes"
  | 'C' => orRefuse ((size? option.2).map .lineOctets) "lines"
  | _ => readChunks option.2

/-- Why a call cannot be understood, and whether help is offered. -/
def readNaming (options : Options) (cut : Cut) : Except (Octets × Bool) Naming := do
  let more := (options.value? 'A').getD []
  if more.contains '/' then
    throw ("invalid suffix ".toList ++ inQuotes more ++ ", contains directory separator".toList,
      true)
  let length ← match options.value? 'a' with
    | none => pure none
    | some text =>
      if isNumber text then pure (if readNat text = 0 then none else some (readNat text))
      else throw ("invalid suffix length: ".toList ++ inQuotes text, false)
  let letters := match options.last? "dDxX" with
    | none => ({} : Naming).letters
    | some c => (if c == 'd' || c == 'D' then "0123456789" else "0123456789abcdef").toList
  let start := ((options.value? 'D').or (options.value? 'X')).map readNat
  /- Where the number of pieces is known, the length is one that names them all. -/
  let needed := cut.count?.map fun count =>
    let last := count - 1 + (start.filter (· < count)).getD 0
    ((List.range 20).find? fun length => last < Nat.pow letters.length length && length != 0).getD 2
  match length, needed with
  | some length, some needed =>
    if length < needed then
      throw ("the suffix length needs to be at least ".toList ++ natText needed, false)
  | _, _ => pure ()
  return { letters, start := start.getD 0, more
           length := length.or ((needed.map (max 2)).or (if start.isSome then some 2 else none)) }

def filterPiece (start : Octets → Act Fate) (name command path piece : Octets) : Act Bool := do
  let outer ← get
  let (m, channel) := outer.newStream { text := piece }
  set ((m.connect 0 (some channel)).setVariable "FILE".toList
    (some { value := some path, exported := true }))
  let fate ← start command
  modify fun m => ((m.closeStream channel).connect 0 (outer.channel? 0)).setVariable
    "FILE".toList (outer.bindings.lookup "FILE".toList)
  let front := "with FILE=".toList ++ quotedIfPeculiar path ++ [',', ' ']
  let back := " from command: ".toList ++ command
  match fate with
  | .status 0 => return true
  | .status n => do
    fail n name (front ++ "exit ".toList ++ natText n ++ back)
    return false
  | .signal 13 => return true
  | .signal n => do
    fail (n + 128) name (front ++ "signal ".toList ++ (signalName n).toList ++ back)
    return false

def writePieces (name fronts : Octets) (naming : Naming) (tells : Bool)
    (filter : Option (Octets × (Octets → Act Fate))) : (i : Nat) → List Octets → Act Unit
  | _, [] => return
  | i, piece :: rest => do
    match naming.ending? i, filter with
    | none, _ => fail 1 name "output file suffixes exhausted".toList
    | some ending, some (command, start) =>
      let path := fronts ++ ending
      if tells then print ("executing with FILE=".toList ++ quotedIfPeculiar path ++ ['\n'])
      if ← filterPiece start name command path piece then
        writePieces name fronts naming tells filter (i + 1) rest
    | some ending, none =>
      let path := fronts ++ ending
      if tells then print ("creating file ".toList ++ shellQuoted path ++ ['\n'])
      match ← writeFile path piece with
      | .ok () => writePieces name fronts naming tells filter (i + 1) rest
      | .error fault => fail 1 name (about path fault)

def flags : List Flag :=
  [⟨'l', "lines", true⟩, ⟨'b', "bytes", true⟩, ⟨'C', "line-bytes", true⟩, ⟨'n', "number", true⟩,
    ⟨'a', "suffix-length", true⟩, ⟨'d', "", false⟩, ⟨'x', "", false⟩,
    ⟨'D', "numeric-suffixes", true⟩, ⟨'X', "hex-suffixes", true⟩,
    ⟨'A', "additional-suffix", true⟩, ⟨'e', "elide-empty-files", false⟩,
    ⟨'v', "verbose", false⟩, ⟨'t', "separator", true⟩, ⟨'u', "unbuffered", false⟩,
    ⟨'f', "filter", true⟩] ++ plainFlags "0123456789"

def plainWord (word : Octets) : Octets :=
  match String.ofList word with
  | "--numeric-suffixes" => "-d".toList
  | "--hex-suffixes" => "-x".toList
  | _ => word

def cutOptions (options : Options) : Options :=
  let digits := (options.map (·.1)).filter Char.isDigit
  let kinds := (options.filter fun option => "lbCn".toList.contains option.1) ++
    if digits.isEmpty then [] else [('l', digits)]
  if kinds.isEmpty then [('l', "1000".toList)] else kinds

def isStreamed (path : Octets) : Act Bool := do
  if !isStandard path then return false
  let m ← get
  match m.channel? 0 with
  | some (.device _) => return false
  | some channel => return ((m.stream? channel).bind Stream.fileSize).isNone
  | none => return false

/-- Cuts a file as a call says. -/
def call (start : Octets → Act Fate) : Tool := fun name arguments =>
  withOptions false Splitting.flags 1
    (fun name options operands => do
      let cuts := (cutOptions options).mapM readCut
      let separator := options.value? 't'
      match cuts, operands, separator.filter fun text => text.length != 1 &&
        text != ['\\', '0'] with
      | .error text, _, _ => fail 1 name text
      | .ok _, _, some text => fail 1 name ("multi-character separator ".toList ++ inQuotes text)
      | .ok _, _ :: _ :: extra :: _, _ =>
        misuse 1 name ("extra operand ".toList ++ inQuotes extra)
      | .ok (_ :: _ :: _), _, _ => misuse 1 name "cannot split in more than one way".toList
      | .ok cuts, operands, _ =>
        let cut := cuts.head?.getD (.lines 1000)
        if options.has 'f' && cut.only?.isSome then
          misuse 1 name "--filter does not process a chunk extracted to stdout".toList
          return
        match readNaming options cut with
        | .error (text, true) => misuse 1 name text
        | .error (text, false) => fail 1 name text
        | .ok naming =>
          let path := operands.head?.getD ['-']
          let isMeasured := match cut with
            | .chunks .. | .lineChunks .. => true
            | _ => false
          match ← content path with
          | .error (.file .isADirectory) =>
            fail 1 name (quotedIfPeculiar path ++ ": read error: Is a directory".toList)
          | .error fault =>
            fail 1 name ("cannot open ".toList ++ shellQuoted path ++ " for reading: ".toList ++
              fault.text)
          | .ok text =>
            if isMeasured && (← isStreamed path) then
              fail 1 name (quotedIfPeculiar path ++ ": cannot determine file size".toList)
              return
            let ending := match separator with
              | some [c] => c
              | some _ => '\x00'
              | none => '\n'
            let pieces := pieces cut ending text
            match cut.only? with
            | some k => print (pieces[k - 1]?.getD [])
            | none =>
              let pieces := if options.has 'e' then pieces.filter (!·.isEmpty) else pieces
              let filter := (options.value? 'f').map (·, start)
              writePieces name (operands[1]?.getD ['x']) naming (options.has 'v') filter 0 pieces)
    name (arguments.map plainWord)

end Splitting

end NextRelease.Shell.Tool
