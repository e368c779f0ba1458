import NextRelease.Shell.Archive.Request
import NextRelease.Shell.Tool.Compressing

/-!
Making archives and adding to them. What a call names is taken in order, as a directory to go on in
holds for what is named behind it.
-/

namespace NextRelease.Shell.Archive

open Tool

/-! ## Making entries -/

structure Storing where
  request : Request
  archive : Option Place := none
  base : Octets := []
  exclusions : List Exclusion := []
  isDeep : Bool := true
  former : List Entry := []

def Storing.excludes (s : Storing) (path : Octets) : Bool :=
  s.exclusions.any fun e => fitsAnywhere true e.isAnchored e.pattern path

def entryAt (r : Request) (m : Machine) (found : Found) : Entry :=
  let isDirectory := found.isDirectory
  let mode := m.files.mode found.place
  { name := []
    kind := match found.node with
      | .file _ => .file
      | .directory => .directory
      | .link _ => .link
      | .device .pipe => .pipe
      | .device _ => .device
    mode := match r.mode with
      | some change => change.apply m.mask isDirectory mode
      | none => mode
    user := r.user.getD {}
    group := r.group.getD {}
    time := r.time.getD ((m.files.timesAt found.place).changed / 1000000000)
    target := match found.node with
      | .link target => octets target
      | _ => []
    device := match found.node with
      | .device _ => ((statusAt? m found.place).map Status.deviceNumber).getD (0, 0)
      | _ => (0, 0)
    content := match found.node with
      | .file bytes => ofBytes bytes
      | _ => [] }

/-- Adds an entry for a path, unless what is in the archive already is as new. What can come more
than once is remembered. -/
def addEntry (s : Storing) (path : Octets) (found : Found) : Job Unit := do
  let r := s.request
  let m ← machine
  let e := entryAt r m found
  let shown := if found.isDirectory then joined path [] else path
  let isKnown := r.works.contains .update && s.former.any fun old =>
    withoutSlashes old.name == path && (found.isDirectory || e.time ≤ old.time)
  if isKnown then return
  let places := m.files.namesAt found.place
  let names := (r.items.filter fun item => item matches .name ..).length
  let isNamedAgain := !found.isDirectory && (1 < places.length || 1 < names || r.follows)
  let former := (← get).stored.find? fun one => isNamedAgain && places.contains one.1
  match former with
  | some (_, first) => do
    let name ← safeName r "member names" (changed r (·.isFor .twin) shown)
    let target := changed r (·.forTwins) first
    let e := { e with name, kind := .twin, target, content := [], size := 0 }
    modify fun log => { log with entries := e :: log.entries }
    tellIfAsked r (if r.showsChanged then name else shown) e
  | none => do
    let name ← safeName r "member names" (changed r (·.isFor e.kind) shown)
    let target := if e.kind = .link then changed r (·.forLinks) e.target else e.target
    let e := { e with name, target, size := e.content.length }
    modify fun log => { log with entries := e :: log.entries }
    tellIfAsked r (if r.showsChanged then name else shown) e
    if isNamedAgain then
      let first ← safeName r "hard link targets" path
      modify fun log => { log with stored := (found.place, first) :: log.stored }

def removeStored (path : Octets) (found : Found) : Job Unit := do
  let m ← machine
  if found.isDirectory && !(m.files.below found.place).isEmpty then
    troubleAt path "Cannot rmdir: Directory not empty".toList
  else act (set { m with files := m.files.erase found.place })

def store (s : Storing) : (fuel : Nat) → (path : Octets) → Job Unit
  | 0, _ => return ()
  | fuel + 1, path => do
    let r := s.request
    let m ← machine
    if path.isEmpty then sayOnce "Substituting \x60.' for empty member name".toList
    match look m r.follows (seenFrom s.base path) with
    | .error fault => troubleAt path ("Cannot stat: ".toList ++ faultText fault)
    | .ok found =>
      if s.archive == some found.place then
        say (escaped true path ++ ": file is the archive; not dumped".toList)
      else
        addEntry s path found
        if found.isDirectory && s.isDeep then
          (namesIn m found.place).forM fun name => do
            let inner := joined path name
            if !s.excludes inner then store s fuel inner
        if r.removes then removeStored path found

def storeItems (s : Storing) : List Item → Job Unit
  | [] => return ()
  | item :: items => do
    match item with
    | .directory path => do
      let base := seenFrom s.base path
      if items.any fun item => item matches .name .. then
        let m ← machine
        match m.status? base with
        | .ok .directory => pure ()
        | .ok _ => fatal (escaped true path ++ ": Cannot open: Not a directory".toList)
        | .error fault =>
          fatal (escaped true path ++ ": Cannot open: ".toList ++ faultText fault)
      storeItems { s with base } items
    | .exclusion e => storeItems { s with exclusions := e :: s.exclusions } items
    | .shallow => storeItems s items
    | .name path isDeep => do
      let s := { s with isDeep }
      let path := withoutSlashes path
      let m ← machine
      if !s.excludes path then store s (m.files.entries.length + 2) path
      storeItems s items

/-! ## Archives as files -/

def unpack (text : Octets) : Job (Octets × Bool) := do
  act (finish 0)
  let (u, _) ← act
    ((Compressing.unpackAll {} "stdin".toList (text.length + 1) true text).run {})
  let status := (← machine).status
  act (finish 0)
  if !u.isWhole then
    say "Child returned status 1".toList
    leave
  return (u.text, status != 0)

def lackProgram {α : Type} (program : String) : Job α := do
  act (printError ("/bin/sh: 1: ".toList ++ program.toList ++ ": not found\n".toList))
  fatal "Child returned status 127".toList

def openArchive (r : Request) : Job (Octets × Bool) := do
  if let some program := r.lacks then lackProgram program
  let named := escaped true r.archive
  let m ← machine
  let text ← match ← act (content r.archive) with
    | .ok text => pure text
    | .error (.file .isADirectory) => do
      say (named ++ ": Cannot read: Is a directory".toList)
      say "At beginning of tape, quitting now".toList
      leave
    | .error fault => fatal (named ++ ": Cannot open: ".toList ++ fault.text)
  let isPacked := Compress.mark.isPrefixOf text
  let isFile := r.archive != ['-'] && !m.isPipe r.archive
  if r.packs || (isPacked && isFile) then unpack text
  else if isPacked then fatal "Archive is compressed. Use -z option".toList
  else return (text, false)

def isPackedName (path : Octets) : Bool :=
  [".gz", ".tgz", ".taz"].any fun ending => ending.toList.isSuffixOf path

def writeArchive (r : Request) (blocks : Octets) : Job Unit := do
  let text := close r.blocking blocks
  let packs := r.packs || (r.packsByName && isPackedName r.archive)
  let text := if packs then Compress.packed {} text else text
  if r.archive == ['-'] then act (print text)
  else
    match ← act (writeFile r.archive text) with
    | .ok () => return ()
    | .error fault => fatal (escaped true r.archive ++ ": Cannot open: ".toList ++ faultText fault)

def lateOptions (items : List Item) : List Octets :=
  let late := (items.reverse.takeWhile fun item => !(item matches .name ..)).reverse
  late.filterMap fun item =>
    match item with
    | .directory path => some ("-C ".toList ++ inQuotes path)
    | .exclusion e => some ("--exclude ".toList ++ inQuotes e.pattern)
    | .shallow => some "--no-recursion".toList
    | .name .. => none

def tellLate (r : Request) : Job Unit := do
  let late := lateOptions r.items
  if !late.isEmpty && r.items.any fun item => item matches .name .. then
    trouble ("The following options were used after any non-optional arguments in archive " ++
      "create or update mode.  These options are positional and affect only arguments that " ++
      "follow them.  Please, rearrange them properly.").toList
    late.forM fun text => trouble (text ++ " has no effect".toList)

def create (r : Request) : Job Unit := do
  if !r.namesFiles then
    misuse "Cowardly refusing to create an empty archive".toList
  if r.archive != ['-'] then
    match ← act (writeFile r.archive []) with
    | .ok () => pure ()
    | .error fault => fatal (escaped true r.archive ++ ": Cannot open: ".toList ++ faultText fault)
  if let some program := r.lacks then lackProgram program
  let m ← machine
  let archive := if r.archive == ['-'] then none else (m.files.locate (m.route r.archive)).toOption
  storeItems { request := r, archive } r.items
  writeArchive r ((← get).entries.reverse.flatMap Entry.text)
  tellLate r

def openForMore (r : Request) : Job Octets := do
  let m ← machine
  if r.packs then misuse "Cannot update compressed archives".toList
  match m.status? r.archive with
  | .error .notFound => return []
  | .ok .directory => do
    say (escaped true r.archive ++ ": Cannot read: Bad file descriptor".toList)
    say "At beginning of tape, quitting now".toList
    leave
  | _ =>
    match ← act (content r.archive) with
    | .error fault => fatal (escaped true r.archive ++ ": Cannot open: ".toList ++ fault.text)
    | .ok text => do
      if Compress.mark.isPrefixOf text then fatal "Cannot update compressed archives".toList
      return text

def extend (r : Request) : Job Unit := do
  let former := entriesOf (← openForMore r)
  if (← machine).status? r.archive matches .error _ then
    match ← act (writeFile r.archive []) with
    | .ok () => pure ()
    | .error fault => fatal (escaped true r.archive ++ ": Cannot open: ".toList ++ faultText fault)
  let m ← machine
  storeItems { request := r, archive := (m.files.locate (m.route r.archive)).toOption, former }
    r.items
  writeArchive r ((former ++ (← get).entries.reverse).flatMap Entry.text)
  tellLate r

def join (r : Request) : Job Unit := do
  let former := entriesOf (← openForMore r)
  let more ← r.items.mapM fun item => do
    match item with
    | .name path _ => do
      let (text, _) ← openArchive { r with archive := path }
      return text
    | _ => return []
  writeArchive r (former.flatMap Entry.text ++ more.flatten)

end NextRelease.Shell.Archive
