import NextRelease.Shell.Archive.Storing
import NextRelease.Shell.Tool.Filing

/-!
Going through archives: entries that are looked for are listed, unpacked, compared with the files,
or taken out.
-/

namespace NextRelease.Shell.Archive

open Tool

/-! ## Going through archives -/

structure Wanted where
  number : Nat
  path : Octets
  base : Octets

inductive Progress where
  | unread
  | good
  | strange
  deriving DecidableEq

structure Search where
  request : Request
  wanted : List Wanted
  base : Octets := []
  exclusions : List Exclusion := []

def Search.find? (s : Search) (e : Entry) : Option (Option Nat × Octets) :=
  let r := s.request
  let name := withoutSlashes e.name
  if s.exclusions.any fun e => fitsAnywhere true e.isAnchored e.pattern name then none
  else if s.wanted.isEmpty then some (none, s.base)
  else
    (s.wanted.find? fun w => fitsAnywhere r.usesWildcards r.nameAnchored w.path name).map fun w =>
      (some w.number, w.base)

def visitAll (s : Search) (visit : (base : Octets) → Entry → Job Unit) :
    (fuel : Nat) → Progress → (whole : Nat) → Octets → Job Unit
  | 0, _, _, _ => return ()
  | fuel + 1, progress, whole, text => do
    match next text with
    | .entry e rest => do
      match s.find? e with
      | none => pure ()
      | some (number, base) => do
        modify fun log => { log with found := number.toList ++ log.found }
        visit base e
      if !e.isWhole then fatal "Unexpected EOF in archive".toList
      visitAll s visit fuel .good whole rest
    | .strange rest => do
      if progress = .unread then trouble "This does not look like a tar archive".toList
      if progress != .strange then trouble "Skipping to next header".toList
      visitAll s visit fuel .strange whole rest
    | .empty rest =>
      if s.request.passesEmpty then visitAll s visit fuel progress whole rest
      else
        match next rest with
        | .empty _ => return ()
        | _ =>
          say ("A lone zero block at ".toList ++ natText ((whole - rest.length) / 512))
    | .ended =>
      if progress = .unread && !s.request.works.contains .remove then
        trouble "This does not look like a tar archive".toList

def searchOf (r : Request) : (number : Nat) → Search → List Item → Job Search
  | _, s, [] => return s
  | number, s, item :: items => do
    match item with
    | .exclusion e => searchOf r number { s with exclusions := e :: s.exclusions } items
    | .shallow => searchOf r number s items
    | .name path _ =>
      let w : Wanted := ⟨number, withoutSlashes path, s.base⟩
      searchOf r (number + 1) { s with wanted := s.wanted ++ [w] } items
    | .directory path => do
      let base := seenFrom s.base path
      let matters := s.wanted.isEmpty || items.any fun item => item matches .name ..
      if matters then
        match (← machine).status? base with
        | .ok .directory => pure ()
        | .ok _ => fatal (escaped true path ++ ": Cannot open: Not a directory".toList)
        | .error fault =>
          fatal (escaped true path ++ ": Cannot open: ".toList ++ faultText fault)
      searchOf r number { s with base } items

def search (r : Request) (visit : (base : Octets) → Entry → Job Unit) : Job Unit := do
  let (text, hasMore) ← openArchive r
  let s ← searchOf r 0 { request := r, wanted := [] } r.items
  visitAll s visit (text.length / 512 + 2) .unread text.length text
  let log ← get
  s.wanted.forM fun w => do
    if !log.found.contains w.number then
      if !r.knowsWildcards && w.path.any "*?[\\".toList.contains then
        sayOnce "Pattern matching characters used in file names".toList
        sayOnce ("Use --wildcards to enable pattern matching, or --no-wildcards to suppress " ++
          "this warning").toList
      troubleAt w.path "Not found in archive".toList
  if hasMore then
    say "Child returned status 2".toList
    leave

/-! ## Listing and unpacking -/

def goalOf (r : Request) (e : Entry) : Job (Option Octets) := do
  let name ← safeName r "member names" (withoutSlashes e.name)
  let name := withoutOuter r.skipped (changed r (·.isFor e.kind) name)
  if name.isEmpty then return none
  match r.top with
  | none => return some name
  | some top =>
    let isInside := name == top || (top ++ ['/']).isPrefixOf name
    return some (if isInside then name else joined top name)

def toldName (r : Request) (e : Entry) (goal : Octets) : Octets :=
  let name := if r.showsChanged then goal else e.name
  if e.kind = .directory then joined name [] else name

def list (r : Request) (_ : Octets) (e : Entry) : Job Unit := do
  let goal := (← goalOf { r with top := none } e).getD []
  tell r (r.tells != 0) (toldName r e goal) e

def checkTime (m : Machine) (name : Octets) (time : Int) : Job Unit := do
  let early := time * 1000000000 - m.files.now
  if 0 < early then
    let digits := natText (early % 1000000000).toNat
    let fraction := ((List.replicate (9 - digits.length) '0' ++ digits).reverse.dropWhile
      (· == '0')).reverse
    let dot := if fraction.isEmpty then [] else '.' :: fraction
    say (escaped true name ++ ": time stamp ".toList ++ timeText m true time ++ " is ".toList ++
      intText (early / 1000000000) ++ dot ++ " s in the future".toList)

def dress (r : Request) (place : Place) (name : Octets) (e : Entry) : Job Unit := do
  let m ← machine
  let mode := if r.keepsModes then e.mode else Permission.without (e.mode % 512) m.mask
  let files := if e.kind = .link then m.files else m.files.setMode place mode
  let files := if r.keepsTimes then
      files.setTimes place
        { m.files.timesAt place with changed := e.time * 1000000000 }
    else files
  act (set { m with files })
  if r.keepsTimes && e.kind != .link then checkTime m name e.time

def clearPlace (r : Request) (name path : Octets) (e : Entry) (refusal : Octets) :
    Job (Option Place) := do
  let refuse (fault : FileFault) : Job (Option Place) := do
    troubleAt name (refusal ++ ": ".toList ++ faultText fault)
    return none
  let m ← machine
  let outer := directoryOf path
  if m.status? outer matches .error .notFound then
    let _ ← act (makeAll "tar".toList false (pathFronts outer))
  let m ← machine
  match m.entry path with
  | .error fault => refuse fault
  | .ok place =>
    match m.files.get? place with
    | none => return some place
    | some node =>
      let isFull := (node matches .directory) && !(m.files.below place).isEmpty
      let isNewer := e.time * 1000000000 ≤ (m.files.timesAt place).changed
      match r.inWay with
      | .stays => refuse .alreadyExists
      | .staysQuietly => return none
      | way =>
        if way = .staysIfNewer && isNewer then
          say ("Current ".toList ++ inQuotes name ++ " is newer or same age".toList)
          return none
        else if isFull then refuse .alreadyExists
        else
          act (set { m with files := m.files.erase place })
          return some place

def makeDirectory (r : Request) (name path : Octets) (e : Entry) : Job Unit := do
  let m ← machine
  let noteIt : Job Unit :=
    modify fun log => { log with directories := (path, name, e) :: log.directories }
  let there := match m.entry path with
    | .ok place => m.files.get? place
    | .error _ => none
  match there with
  | some .directory => if r.inWay = .goes then noteIt
  | some _ =>
    if r.inWay = .goes then
      if let .ok place := m.entry path then
        act (set { m with files := m.files.erase place })
      let _ ← act (makeOne "tar".toList false path)
      noteIt
  | none => do
    match ← act (makeAll "tar".toList false (pathFronts path)) with
    | none => noteIt
    | some (_, fault) => troubleAt name ("Cannot mkdir: ".toList ++ faultText fault)

def extract (r : Request) (base : Octets) (e : Entry) : Job Unit := do
  let some name ← goalOf r e | return
  if !r.keepsNames && (Text.splitOn '/' e.name).contains ['.', '.'] then
    troubleAt e.name "Member name contains '..'".toList
    return
  tellIfAsked r (toldName r e name) e
  let path := seenFrom base name
  let node (node : FileNode) (refusal : Octets) : Job Unit := do
    let some place ← clearPlace r name path e refusal | return
    act (modify fun m => { m with files := (m.files.insert place node).stampNew place })
    dress r place name e
  if r.prints then
    if e.kind = .file then act (print e.content)
  else
    match e.kind with
    | .directory => makeDirectory r name path e
    | .file => do
      let some place ← clearPlace r name path e "Cannot open".toList | return
      act (modify fun m => { m with files := m.files.store place (toBytes e.content) })
      if !e.isWhole then trouble "Unexpected EOF in archive".toList
      dress r place name e
    | .link => do
      let target := changed r (·.forLinks) e.target
      let leadsOut := target.head? == some '/' || (Text.splitOn '/' target).contains ['.', '.']
      node (.link (textOf target)) (if leadsOut then "Cannot open".toList
        else "Cannot create symlink to ".toList ++ inQuotes target)
    | .pipe => node (.device .pipe) "Cannot mkfifo".toList
    | .device =>
      let device := match e.device with
        | (1, 5) => Device.zero
        | (1, 7) => .full
        | (1, 8) | (1, 9) => .random
        | _ => .null
      node (.device device) "Cannot mknod".toList
    | .twin => do
      let target ← safeName r "hard link targets" e.target
      let target := withoutOuter r.skipped (changed r (·.forTwins) target)
      let refusal := "Cannot hard link to ".toList ++ inQuotes target
      let m ← machine
      match m.entry (seenFrom base target), m.entry path with
      | .error fault, _ => troubleAt name (refusal ++ ": ".toList ++ faultText fault)
      | .ok first, goal =>
        if (m.files.get? first).isNone then
          troubleAt name (refusal ++ ": ".toList ++ faultText .notFound)
        else if goal.toOption.any (m.files.namesAt first).contains then return
        else
          let some place ← clearPlace r name path e refusal | return
          act (modify fun m => { m with files := m.files.addName first place })

def dressDirectories (r : Request) : Job Unit := do
  let log ← get
  log.directories.forM fun (path, name, e) => do
    let m ← machine
    if let .ok place := m.entry path then dress r place name e

/-! ## Comparing -/

/-- Tells how a file differs from an entry. -/
def compare (r : Request) (base : Octets) (e : Entry) : Job Unit := do
  tellIfAsked r (toldName r e e.name) e
  let name := withoutSlashes (← safeName r "member names" e.name)
  let m ← machine
  let differs (text : Octets) : Job Unit := do
    act (print (escaped true name ++ ": ".toList ++ text ++ ['\n']))
    act (do if (← get).status = 0 then finish 1)
  let isOther (isOther : Bool) (text : String) : Job Unit := do
    if isOther then differs text.toList
  match look m r.follows (seenFrom base name) with
  | .error .notFound => do
    say (escaped true name ++ ": Warning: Cannot stat: No such file or directory".toList)
    act (do if (← get).status = 0 then finish 1)
  | .error fault => troubleAt name ("Cannot stat: ".toList ++ faultText fault)
  | .ok found =>
    let own := entryAt {} m found
    if e.kind = .twin then
      match m.entry (seenFrom base e.target) with
      | .ok first =>
        if !(m.files.namesAt first).contains found.place then
          differs ("Not linked to ".toList ++ e.target)
      | .error _ => differs ("Not linked to ".toList ++ e.target)
    else if own.kind != e.kind then differs "File type differs".toList
    else
      match e.kind with
      | .link => isOther (own.target != e.target) "Symlink differs"
      | .file => do
        isOther (own.mode != e.mode) "Mode differs"
        isOther (e.user.number != 0) "Uid differs"
        isOther (e.group.number != 0) "Gid differs"
        isOther (own.time != e.time) "Mod time differs"
        if own.size != e.size then differs "Size differs".toList
        else isOther (own.content != e.content) "Contents differ"
      | _ => isOther (own.mode != e.mode) "Mode differs"

def remove (r : Request) : Job Unit := do
  if r.packs then misuse "Cannot update compressed archives".toList
  search { r with prints := false } fun _ e =>
    modify fun log => { log with entries := e :: log.entries }
  let gone := (← get).entries.map Entry.name
  if !gone.isEmpty then
    let (text, _) ← openArchive r
    let kept := (entriesOf text).filter fun e => !gone.contains e.name
    writeArchive r (kept.flatMap Entry.text)

end NextRelease.Shell.Archive
