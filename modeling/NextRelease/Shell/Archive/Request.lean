import NextRelease.Shell.Edit.Run
import NextRelease.Shell.Format
import NextRelease.Shell.Tool.Destination
import NextRelease.Shell.Tool.Status
import NextRelease.Text.Basic

/-!
Archives of files. Each entry has a head in a block of its own, which tells what the file was called
and what it was, and then as many blocks as its content takes; two empty blocks end an archive. A
name that the head has no room for stands in an entry of its own in front.
-/

namespace NextRelease.Shell.Archive

/-! ## Entries -/

inductive Kind where
  | file
  | twin
  | link
  | device
  | directory
  | pipe
  deriving DecidableEq

def Kind.mark : Kind → Char
  | file => '0'
  | twin => '1'
  | link => '2'
  | device => '3'
  | directory => '5'
  | pipe => '6'

def Kind.letter : Kind → Char
  | file => '-'
  | twin => 'h'
  | link => 'l'
  | device => 'c'
  | directory => 'd'
  | pipe => 'p'

structure Owner where
  number : Nat := 0
  name : Octets := "root".toList

structure Entry where
  name : Octets
  kind : Kind := .file
  mode : Nat := 0o644
  user : Owner := {}
  group : Owner := {}
  time : Int := 0
  target : Octets := []
  device : Nat × Nat := (0, 0)
  content : Octets := []
  size : Nat := content.length
  isWhole : Bool := true

def blockSize : Nat := 512

def filled (size : Nat) (text : Octets) : Octets :=
  text ++ List.replicate ((size - text.length % size) % size) '\x00'

def field (width : Nat) (text : Octets) : Octets :=
  text.take width ++ List.replicate (width - text.length) '\x00'

def numberField (width n : Nat) : Octets :=
  let digits := Nat.toDigits 8 n
  List.replicate (width - 1 - digits.length) '0' ++ digits ++ ['\x00']

/-! ## Writing -/

def headSum (front back : Octets) : Nat :=
  (front ++ List.replicate 8 ' ' ++ back).foldl (fun sum c => sum + c.toNat) 0

def nameWidth : Nat := 100

def Entry.head (e : Entry) (mark : Char) : Octets :=
  let front := field nameWidth e.name ++ numberField 8 e.mode ++ numberField 8 e.user.number ++
    numberField 8 e.group.number ++ numberField 12 e.size ++ numberField 12 e.time.toNat
  let (major, minor) := e.device
  let device := if e.kind = .device then numberField 8 major ++ numberField 8 minor
    else field 16 []
  let back := mark :: field nameWidth e.target ++ "ustar  \x00".toList ++ field 32 e.user.name ++
    field 32 e.group.name ++ device ++ field 167 []
  front ++ numberField 7 (headSum front back) ++ ' ' :: back

def longText (mark : Char) (text : Octets) : Octets :=
  if text.length ≤ nameWidth then []
  else
    let e : Entry := { name := "././@LongLink".toList, content := text ++ ['\x00'] }
    e.head mark ++ filled blockSize e.content

def Entry.text (e : Entry) : Octets :=
  longText 'K' e.target ++ longText 'L' e.name ++ e.head e.kind.mark ++ filled blockSize e.content

def close (blocking : Nat) (blocks : Octets) : Octets :=
  filled (blocking * blockSize) (blocks ++ List.replicate (2 * blockSize) '\x00')

/-! ## Reading -/

def fieldText (block : Octets) (start width : Nat) : Octets :=
  ((block.drop start).take width).takeWhile (· != '\x00')

def fieldNumber (block : Octets) (start width : Nat) : Nat :=
  (takeOctal width 0 ((fieldText block start width).dropWhile (· == ' '))).1

def isHead (block : Octets) : Bool :=
  fieldNumber block 148 8 == headSum (block.take 148) (block.drop 156)

/-- Records of a length, a name and a value that tell more of the next entry. -/
def readRecords : (fuel : Nat) → Octets → List (Octets × Octets)
  | 0, _ => []
  | fuel + 1, text =>
    let length := readNat text
    let record := (text.take length).dropWhile (· != ' ')
    if length = 0 || record.isEmpty then []
    else
      let (name, value) := Text.cut '=' (record.drop 1)
      (name, (value.getD []).dropLast) :: readRecords fuel (text.drop length)

structure Remark where
  name : Option Octets := none
  target : Option Octets := none
  records : List (Octets × Octets) := []

def Remark.of? (r : Remark) (word : String) : Option Octets :=
  (r.records.filter fun record => record.1 == word.toList).getLast?.map (·.2)

def kindOf (mark : Char) (name : Octets) : Kind :=
  match mark with
  | '1' => .twin
  | '2' => .link
  | '3' | '4' => .device
  | '5' => .directory
  | '6' => .pipe
  | _ => if name.getLast? == some '/' then .directory else .file

inductive Next where
  | entry (e : Entry) (rest : Octets)
  | empty (rest : Octets)
  | strange (rest : Octets)
  | ended

/-- The entry that a head and remarks in front of it tell of; its content is what follows them. -/
def entryOf (remark : Remark) (block rest : Octets) : Entry :=
  let outer := fieldText block 345 155
  let isOld := (block.drop 257).take 8 == "ustar  \x00".toList
  let short := fieldText block 0 nameWidth
  let joined := if isOld || outer.isEmpty then short else outer ++ '/' :: short
  let name := ((remark.of? "path").or remark.name).getD joined
  let kind := kindOf ((block[156]?).getD '0') name
  let size := match remark.of? "size" with
    | some digits => readNat digits
    | none => fieldNumber block 124 12
  let size := if kind = .file then size else 0
  { name
    kind
    mode := fieldNumber block 100 8 % 4096
    user := ⟨fieldNumber block 108 8, fieldText block 265 32⟩
    group := ⟨fieldNumber block 116 8, fieldText block 297 32⟩
    time := match remark.of? "mtime" with
      | some digits => Int.ofNat (readNat digits)
      | none => Int.ofNat (fieldNumber block 136 12)
    target := ((remark.of? "linkpath").or remark.target).getD (fieldText block 157 nameWidth)
    device := (fieldNumber block 329 8, fieldNumber block 337 8)
    content := rest.take size
    size
    isWhole := (size + blockSize - 1) / blockSize * blockSize ≤ rest.length }

def readEntry : (fuel : Nat) → Remark → Octets → Next
  | 0, _, _ => .ended
  | fuel + 1, remark, text =>
    let block := text.take blockSize
    let rest := text.drop blockSize
    if block.length < blockSize then .ended
    else if block.all (· == '\x00') then .empty rest
    else if !isHead block then .strange rest
    else
      let size := fieldNumber block 124 12
      let behind := rest.drop ((size + blockSize - 1) / blockSize * blockSize)
      let content := rest.take size
      match (block[156]?).getD '0' with
      | 'L' => readEntry fuel { remark with name := some (content.takeWhile (· != '\x00')) } behind
      | 'K' =>
        readEntry fuel { remark with target := some (content.takeWhile (· != '\x00')) } behind
      | 'x' =>
        let records := readRecords (size + 1) content
        readEntry fuel { remark with records := remark.records ++ records } behind
      | 'g' => readEntry fuel remark behind
      | _ =>
        let e := entryOf remark block rest
        .entry e (rest.drop ((e.size + blockSize - 1) / blockSize * blockSize))

def next (text : Octets) : Next := readEntry (text.length / blockSize + 1) {} text

def readAll : (fuel : Nat) → Octets → List Entry
  | 0, _ => []
  | fuel + 1, text =>
    match next text with
    | .entry e rest => e :: readAll fuel rest
    | .strange rest => readAll fuel rest
    | .empty _ | .ended => []

def entriesOf (text : Octets) : List Entry := readAll (text.length / blockSize + 1) text

/-! ## Requests

What is asked of archives, what has come of it so far, and how entries are called and told of.
-/

open Tool

/-! ## Requests -/

inductive Work where
  | create
  | append
  | update
  | join
  | remove
  | list
  | extract
  | compare
  deriving DecidableEq

inductive InWay where
  | goes
  | stays
  | staysQuietly
  | staysIfNewer
  deriving DecidableEq

def fitsInside (usesWildcards : Bool) (pattern text : Octets) : Bool :=
  let fits (part : Octets) : Bool :=
    if usesWildcards then matchesPattern (marked false pattern) part else pattern == part
  fits text || (List.range text.length).any fun n => text[n]? == some '/' && fits (text.take n)

def fitsAnywhere (usesWildcards isAnchored : Bool) (pattern text : Octets) : Bool :=
  fitsInside usesWildcards pattern text || (!isAnchored && (List.range text.length).any fun n =>
    text[n]? == some '/' && text[n + 1]? != some '/' &&
      fitsInside usesWildcards pattern (text.drop (n + 1)))

structure Exclusion where
  pattern : Octets
  isAnchored : Bool

inductive Item where
  | name (path : Octets) (isDeep : Bool)
  | directory (path : Octets)
  | exclusion (e : Exclusion)
  | shallow

structure Change where
  commands : List Edit.Command
  forNames : Bool := true
  forLinks : Bool := true
  forTwins : Bool := true

structure Request where
  works : List Work := []
  archive : Octets := ['-']
  items : List Item := []
  tells : Nat := 0
  packs : Bool := false
  packsByName : Bool := false
  prints : Bool := false
  inWay : InWay := .goes
  skipped : Nat := 0
  usesWildcards : Bool := false
  knowsWildcards : Bool := false
  nameAnchored : Bool := true
  keepsNames : Bool := false
  follows : Bool := false
  keepsTimes : Bool := true
  keepsModes : Bool := true
  removes : Bool := false
  user : Option Owner := none
  group : Option Owner := none
  mode : Option Permission.Change := none
  time : Option Int := none
  usesNumbers : Bool := false
  tellsSeconds : Bool := false
  blocking : Nat := 20
  passesEmpty : Bool := false
  showsChanged : Bool := false
  changes : List Change := []
  top : Option Octets := none
  quotes : Bool := true
  namesFiles : Bool := false
  lacks : Option String := none

structure Style where
  isDeep : Bool := true
  isAnchored : Option Bool := none
  endsInZero : Bool := false

/-! ## Jobs -/

/-- What has come of a call so far. -/
structure Log where
  hasFailed : Bool := false
  width : Nat := 19
  said : List Octets := []
  stored : List (Place × Octets) := []
  entries : List Entry := []
  found : List Nat := []
  directories : List (Octets × Octets × Entry) := []

abbrev Job := ExceptT Unit (StateT Log Act)

def act {α : Type} (a : Act α) : Job α := ExceptT.lift (StateT.lift a)

def machine : Job Machine := act get

def escaped (escapesColons : Bool) (text : Octets) : Octets :=
  (Wide.ofOctets text).flatMap fun c =>
    if c = '\\' then "\\\\".toList
    else if c = ':' && escapesColons then "\\:".toList
    else if Wide.isStray c then
      '\\' :: Nat.toDigits 8 (c.toNat - Wide.strayBase)
    else (hiddenEscape? c).getD (Wide.toOctets [c])

def say (text : Octets) : Job Unit := act (report "tar".toList text)

def trouble (text : Octets) : Job Unit := do
  say text
  modify fun log => { log with hasFailed := true }

def troubleAt (name text : Octets) : Job Unit := trouble (escaped true name ++ ": ".toList ++ text)

def leave {α : Type} : Job α := do
  say "Error is not recoverable: exiting now".toList
  act (finish 2)
  throw ()

def fatal {α : Type} (text : Octets) : Job α := do
  say text
  leave

def hint : Octets := "Try 'tar --help' or 'tar --usage' for more information.\n".toList

def misuse {α : Type} (text : Octets) : Job α := do
  say text
  act (printError hint)
  act (finish 2)
  throw ()

def sayOnce (text : Octets) : Job Unit := do
  let log ← get
  if !log.said.contains text then
    set { log with said := text :: log.said }
    say text

/-! ## Names -/

def seenFrom (base path : Octets) : Octets :=
  if base.isEmpty || path.head? == some '/' then path else joined base path

def outerLength (name : Octets) : Nat :=
  let parts := Text.splitOn '/' name
  let inner := (parts.reverse.takeWhile (· != ['.', '.'])).reverse
  let rest := (List.intercalate ['/'] inner).dropWhile (· == '/')
  name.length - rest.length

/-- A name without what leads out; `plural` says what such names are called. -/
def safeName (r : Request) (plural : String) (name : Octets) : Job Octets := do
  if r.keepsNames then return name
  let outer := outerLength name
  if outer != 0 then
    sayOnce ("Removing leading \x60".toList ++ name.take outer ++ "' from ".toList ++ plural.toList)
  let inner := name.drop outer
  if inner.isEmpty then
    sayOnce ("Substituting \x60.' for empty ".toList ++ plural.toList.dropLast)
    return ['.']
  return inner

def replaced (commands : List Edit.Command) (name : Octets) : Octets :=
  Wide.toOctets (commands.foldl
    (fun name command =>
      match command.action with
      | .substitute s =>
        match s.expression with
        | some e => (Edit.Work.replaced? s e name).getD name
        | none => name
      | _ => name)
    (Wide.ofOctets name))

def changed (r : Request) (counts : Change → Bool) (name : Octets) : Octets :=
  (r.changes.filter counts).foldl (fun name change => replaced change.commands name) name

def Change.isFor (c : Change) (kind : Kind) : Bool :=
  match kind with
  | .link => c.forLinks
  | .twin => c.forTwins
  | _ => c.forNames

def withoutOuter (count : Nat) (name : Octets) : Octets :=
  if count = 0 then name
  else
    let parts := (Text.splitOn '/' name).filter (!·.isEmpty)
    List.intercalate ['/'] (parts.drop count)

/-! ## Listing -/

def tellsAside (r : Request) : Bool :=
  r.prints || (r.archive == ['-'] && r.works.any fun work =>
    work = .create || work = .append || work = .update)

def ownerText (r : Request) (owner : Owner) : Octets :=
  if r.usesNumbers || owner.name.isEmpty then natText owner.number else owner.name

def timeText (m : Machine) (tellsSeconds : Bool) (time : Int) : Octets :=
  ((momentOf (time * 1000000000)).inZone (zoneOf m)).text
    (if tellsSeconds then "%Y-%m-%d %H:%M:%S" else "%Y-%m-%d %H:%M").toList

def shownName (r : Request) (name : Octets) : Octets :=
  if r.quotes then escaped false name else name

def tell (r : Request) (isLong : Bool) (name : Octets) (e : Entry) : Job Unit := do
  let shown := shownName r name
  let line ← if isLong then do
      let m ← machine
      let log ← get
      let owners := ownerText r e.user ++ '/' :: ownerText r e.group
      let size := if e.kind = .device then
          natText e.device.1 ++ ',' :: natText e.device.2
        else natText e.size
      let width := max log.width (owners.length + 1 + size.length)
      set { log with width }
      let target := match e.kind with
        | .link => " -> ".toList ++ shownName r e.target
        | .twin => " link to ".toList ++ shownName r e.target
        | _ => []
      pure (e.kind.letter :: Permission.letters e.mode ++ ' ' :: owners ++ [' '] ++
        padLeft (width - owners.length - 1) size ++ ' ' :: timeText m r.tellsSeconds e.time ++
        ' ' :: shown ++ target)
    else pure shown
  act (if tellsAside r then printError (line ++ ['\n']) else print (line ++ ['\n']))

def tellIfAsked (r : Request) (name : Octets) (e : Entry) : Job Unit := do
  if r.tells != 0 then tell r (1 < r.tells) name e

end NextRelease.Shell.Archive
