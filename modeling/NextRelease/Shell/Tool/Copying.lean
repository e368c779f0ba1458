import NextRelease.Shell.Permission
import NextRelease.Shell.Tool.Destination

/-!
Copying files. A file that is already there is written over and stays the file that it is, unless it
has to go first; directories are copied with all that is in them.
-/

namespace NextRelease.Shell.Tool

inductive Following where
  | none
  | named
  | all
  deriving DecidableEq

inductive Clash where
  | replaces
  | asks
  | keeps
  deriving DecidableEq

inductive CopyKind where
  | content
  | name
  | link
  deriving DecidableEq

structure Copier where
  name : Octets
  tells : Bool := false
  isDeep : Bool := false
  following : Following := .all
  clash : Clash := .replaces
  kind : CopyKind := .content
  updates : Bool := false
  removes : Bool := false
  forces : Bool := false
  backup : Backup := {}
  keepsMode : Bool := false
  keepsTimes : Bool := false
  keepsLinks : Bool := false
  onlyAttributes : Bool := false
  readsDevices : Bool := true
  isBrief : Bool := false

structure CopyLog where
  sources : List Place := []
  made : List Place := []
  twins : List (Place × Place) := []
  directories : List (Place × Octets) := []
  first : Option Place := none

structure Errand where
  source : Octets
  goal : Octets
  isOneOfMany : Bool := false

namespace Copier

def refuse (c : Copier) (text : Octets) : Act Unit := fail 1 c.name text

def announce (c : Copier) (source goal : Octets) (kept : Option Octets) : Act Unit := do
  if c.tells then print (keptPair source goal kept ++ ['\n'])

def mayReplace (c : Copier) (m : Machine) (source goal : Octets) (found there : Found) :
    Bool × Bool :=
  let isSame := Found.isSame m found there
  let entryOf (path : Octets) (found : Found) : Found :=
    ((look m false path).toOption).getD found
  let (a, b) := (entryOf source found, entryOf goal there)
  if isSame && c.kind = .name then (true, true)
  else if c.following = .none && found.isLink && there.isLink then
    (c.backup.isMade || found.place != there.place, !c.backup.isMade && isSame)
  else if c.following != .none && !isSame then (true, false)
  else if c.following != .none && a.isLink && b.isLink && c.removes then (true, false)
  else if c.backup.isMade then (!isSame || a.place != b.place, false)
  else if c.removes && (b.isLink || (Found.isSame m a b && a.place != b.place)) then (true, false)
  else if !a.isLink && !b.isLink && !Found.isSame m a b then (true, false)
  else if c.kind = .link && b.isLink then (true, false)
  else if c.following = .none then
    match look m true source, look m true goal with
    | .ok a, .ok b => (!Found.isSame m a b || c.kind = .name, c.kind = .name && !there.isLink)
    | _, _ => (true, false)
  else (false, false)

inductive Clearance where
  | stop
  | replace
  | fresh (kept : Option Octets)

def clear (c : Copier) (log : CopyLog) (errand : Option Errand) (source goal : Octets)
    (found there : Found) : Act Clearance := do
  let m ← get
  let stopWith (text : Octets) : Act Clearance := do
    c.refuse text
    return .stop
  let pair (front middle : String) : Octets :=
    front.toList ++ shellQuoted goal ++ middle.toList ++ shellQuoted source
  let (mayGo, isDone) := c.mayReplace m source goal found there
  if c.clash != .keeps && !mayGo then
    return ← stopWith (shellQuoted source ++ " and ".toList ++ shellQuoted goal ++
      " are the same file".toList)
  let changed (found : Found) : Int := (m.files.timesAt found.place).changed
  if !found.isDirectory then
    if c.updates && changed found ≤ changed there then return .stop
    if c.clash = .keeps then return .stop
    if !(← confirmsIf (c.clash = .asks) c.name ("overwrite ".toList ++ shellQuoted goal)) then
      return .stop
  if isDone then return .stop
  if !there.isDirectory then
    if found.isDirectory then
      return ← stopWith (pair "cannot overwrite non-directory " " with directory ")
    if errand.any (·.isOneOfMany) && !c.backup.isNumbered && log.made.contains there.place then
      return ← stopWith (pair "will not overwrite just-created " " with ")
  else if !found.isDirectory then
    return ← stopWith ("cannot overwrite directory ".toList ++ shellQuoted goal ++
      " with non-directory".toList)
  let base := baseOf source
  if c.backup.isMade && base != ['.'] && base != ['.', '.'] && !there.isDirectory then
    if !c.backup.isNumbered && octets (there.place.getLast?.getD "") ++ c.backup.suffix == base &&
        there.place.dropLast == found.place.dropLast then
      return ← stopWith ("backing up ".toList ++ shellQuoted goal ++
        " might destroy source;  ".toList ++ shellQuoted source ++ " not copied".toList)
    return .fresh (some (← c.backup.keep there.place))
  let isTwin := 1 < (m.files.namesAt there.place).length
  if !there.isDirectory && (c.removes || (c.kind = .content && !c.onlyAttributes &&
      ((c.keepsLinks && isTwin) || (c.following = .none && !found.isFile)))) then
    set { m with files := m.files.erase there.place }
    if c.tells then print ("removed ".toList ++ shellQuoted goal ++ ['\n'])
    return .fresh none
  return .replace

def dress (c : Copier) (isNew : Bool) (found : Found) (goal : Octets) : Act Unit := do
  let m ← get
  if (descriptorOf? goal).isNone then
    if let .ok place := m.files.locate (m.route goal) then
      let mode := m.files.mode found.place
      let files := if c.keepsMode then m.files.setMode place mode
        else if isNew then m.files.setMode place (Permission.without mode m.mask)
        else m.files
      let files :=
        if c.keepsTimes then files.setTimes place (m.files.timesAt found.place) else files
      set { m with files }

def copyContent (c : Copier) (source goal : Octets) (found : Found) (isNew : Bool) : Act Unit := do
  let m ← get
  let isLost := match look m false goal, look m true goal with
    | .ok there, .error .notFound => there.isLink
    | _, _ => false
  let refuseNew (fault : FileFault) : Act Unit :=
    c.refuse ("cannot create regular file ".toList ++ shellQuoted goal ++ ": ".toList ++
      faultText fault)
  if isLost then
    c.refuse ("not writing through dangling symlink ".toList ++ shellQuoted goal)
  else if goal.isEmpty then refuseNew .notFound
  else if isNew && goal.getLast? = some '/' && (m.files.locate (m.route goal)).isOk then
    refuseNew .notADirectory
  else
    match ← content source with
    | .error fault =>
      c.refuse ("cannot open ".toList ++ shellQuoted source ++ " for reading: ".toList ++
        fault.text)
    | .ok text => do
      let written ← if c.onlyAttributes && !isNew then pure (.ok ())
        else writeFile goal (if c.onlyAttributes then [] else text)
      match written with
      | .ok () => do
        if (m.files.find? (m.route goal)) matches some (.device .full) then
          if !text.isEmpty then
            c.refuse ("error writing ".toList ++ shellQuoted goal ++ ": ".toList ++ fullText)
        c.dress isNew found goal
      | .error fault =>
        refuseNew fault

def place (c : Copier) (goal : Octets) (mustBeNew : Bool) (change : Machine → Place → FileTree)
    (refusal : Octets) : Act Bool := do
  let m ← get
  match goalPlace m false goal with
  | .error fault => do
    c.refuse (refusal ++ ": ".toList ++ faultText fault)
    return false
  | .ok goalAt =>
    let isTaken := (m.files.get? goalAt).isSome
    if isTaken && mustBeNew then
      c.refuse (refusal ++ ": ".toList ++ faultText .alreadyExists)
      return false
    else
      let files := if isTaken then m.files.erase goalAt else m.files
      set { m with files := change { m with files } goalAt }
      return true

def copyFile (c : Copier) (source goal : Octets) (found : Found) (isNew : Bool) : Act Unit := do
  let m ← get
  let node (node : FileNode) (m : Machine) (place : Place) : FileTree :=
    (m.files.insert place node).stampNew place
  let mayErase := !isNew && c.forces
  match c.kind with
  | .link =>
    let isHere := goal.all (· != '/') || match m.files.locate (m.route (directoryOf goal)) with
      | .ok place => place == m.cwd
      | .error _ => false
    if source.head? != some '/' && !isHere then
      c.refuse (quotedIfPeculiar goal ++
        ": can make relative symbolic links only in current directory".toList)
    else
      let _ ← c.place goal (!mayErase) (node (.link (textOf source)))
        ("cannot create symbolic link ".toList ++ shellQuoted goal ++ " to ".toList ++
          shellQuoted source)
  | .name =>
    let _ ← c.place goal (!(mayErase || (!isNew && c.clash = .asks)))
      (fun m place => m.files.addName found.place place)
      ("cannot create hard link ".toList ++ shellQuoted goal ++ " to ".toList ++ shellQuoted source)
  | .content =>
    match found.node with
    | .link target => do
      if ← c.place goal (!mayErase) (node (.link target))
          ("cannot create symbolic link ".toList ++ shellQuoted goal) then
        if c.keepsTimes then
          let m ← get
          if let .ok goalAt := m.entry goal then
            set { m with files := m.files.setTimes goalAt (m.files.timesAt found.place) }
    | .device device =>
      if c.readsDevices then c.copyContent source goal found isNew
      else
        let kind := match device with
          | .pipe => "fifo "
          | _ => "special file "
        if ← c.place goal (!mayErase) (node (.device device))
            ("cannot create ".toList ++ kind.toList ++ shellQuoted goal) then
          c.dress true found goal
    | _ => c.copyContent source goal found isNew

def makeDirectory (c : Copier) (source goal : Octets) : Act Bool := do
  match ← changeFiles fun m => do
      let _ ← m.entry goal
      m.files.makeDirectory (m.route goal) with
  | .ok () => do
    c.announce source goal none
    return true
  | .error fault => do
    c.refuse ("cannot create directory ".toList ++ shellQuoted goal ++ ": ".toList ++
      faultText fault)
    return false

structure Prepared where
  found : Found
  isNew : Bool
  kept : Option Octets

def prepare (c : Copier) (errand : Option Errand) (source goal : Octets) (log : CopyLog) :
    Act (Option Prepared) := do
  let m ← get
  let follows := c.following = .all || (errand.isSome && c.following = .named)
  match look m follows source with
  | .error fault => do
    c.refuse ("cannot stat ".toList ++ shellQuoted source ++ ": ".toList ++ faultText fault)
    return none
  | .ok found =>
    if found.isDirectory && !c.isDeep then
      c.refuse ((if c.isBrief then "" else "-r not specified; ").toList ++
        "omitting directory ".toList ++ shellQuoted source)
      return none
    if errand.any (·.isOneOfMany) && !found.isDirectory && !c.backup.isMade &&
        log.sources.contains found.place then
      report c.name ("warning: source file ".toList ++ shellQuoted source ++
        " specified more than once".toList)
      return none
    let looksAtEntry := c.kind != .content || c.backup.isMade || c.removes ||
      (!found.isFile && (found.isLink || found.isDirectory || !c.readsDevices))
    match look m (!looksAtEntry) goal with
    | .error fault => do
      if fault != .notFound then
        c.refuse ("cannot stat ".toList ++ shellQuoted goal ++ ": ".toList ++ faultText fault)
        return none
      return some ⟨found, true, none⟩
    | .ok there => do
      match ← c.clear log errand source goal found there with
      | .stop => return none
      | .replace => return some ⟨found, false, none⟩
      | .fresh kept => return some ⟨found, true, kept⟩

def copyName (c : Copier) (source goal : Octets) (ready : Prepared) (log : CopyLog) :
    Act CopyLog := do
  let m ← get
  let names := m.files.namesAt ready.found.place
  match log.twins.find? fun twin => names.contains twin.1 with
  | some (_, twin) => do
    let _ ← c.place goal false (fun m place => m.files.addName twin place)
      ("cannot create hard link ".toList ++ shellQuoted goal)
    return log
  | none => do
    c.copyFile source goal ready.found ready.isNew
    let m ← get
    match m.entry goal with
    | .ok place =>
      if c.keepsLinks && 1 < names.length then
        return { log with twins := (ready.found.place, place) :: log.twins }
      else return log
    | .error _ => return log

/-- Copies what is at a path as a part of an errand; `within` are the directories that it is in,
none for what was named. -/
def copy (c : Copier) (errand : Errand) : (fuel : Nat) → (within : List Place) →
    (source goal : Octets) → CopyLog → Act CopyLog
  | 0, _, _, _, log => return log
  | fuel + 1, within, source, goal, log => do
    let isNamed := within.isEmpty
    match ← c.prepare (if isNamed then some errand else none) source goal log with
    | none => return log
    | some ready =>
      let place := ready.found.place
      let log := if isNamed then { log with sources := place :: log.sources } else log
      if !ready.found.isDirectory then
        c.announce source goal ready.kept
        let log ← c.copyName source goal ready log
        match isNamed, look (← get) false goal with
        | true, .ok there => return { log with made := there.place :: log.made }
        | _, _ => return log
      else if log.first = some place then
        c.refuse ("cannot copy a directory, ".toList ++ shellQuoted errand.source ++
          ", into itself, ".toList ++ shellQuoted errand.goal)
        return log
      else if within.contains place then
        c.refuse ("cannot copy cyclic symbolic link ".toList ++ shellQuoted source)
        return log
      else
        match isNamed, log.directories.lookup place with
        | true, some _ => do
          report c.name ("warning: source directory ".toList ++ shellQuoted errand.source ++
            " specified more than once".toList)
          return log
        | _, _ => do
          let log := if isNamed then { log with directories := (place, goal) :: log.directories }
            else log
          let isThere ← if ready.isNew then c.makeDirectory source goal else pure true
          if !isThere then return log
          let m ← get
          let log := match log.first, m.files.locate (m.route goal) with
            | none, .ok made => if ready.isNew then { log with first := some made } else log
            | _, _ => log
          let log ← (namesIn m place).foldlM
            (fun log name =>
              c.copy errand fuel (place :: within) (joined source name) (joined goal name) log)
            log
          c.dress ready.isNew ready.found goal
          return log

def run (c : Copier) (errand : Errand) (log : CopyLog) : Act CopyLog := do
  let entries := (← get).files.entries.length
  c.copy errand (2 * entries + 50) [] errand.source errand.goal { log with first := none }

def runAll (c : Copier) (errands : List Errand) : Act Unit := do
  let _ ← errands.foldlM (fun log errand => c.run errand log) ({} : CopyLog)

end Copier

/-! ## The tools -/

def nameInDirectory (source : Octets) : Octets :=
  let base := baseOf source
  if base = ['.', '.'] then ['.'] else base

def errandsTo : Destination → List Errand
  | .onto source goal => [{ source, goal }]
  | .into sources directory => sources.map fun source =>
    { source, goal := joined directory (nameInDirectory source), isOneOfMany := 1 < sources.length }

def outerPaths (path : Octets) : List Octets :=
  ((path.zipIdx.filter fun c => c.1 == '/' && c.2 != 0).map (·.2)).map path.take

def Copier.makeOuter (c : Copier) (directory source : Octets) : Act Bool := do
  (outerPaths (withoutSlashes source)).foldlM
    (fun goesOn path => do
      if !goesOn || path.getLast? == some '/' then return goesOn
      let m ← get
      let goal := joined directory path
      match look m true path, look m true goal with
      | .error fault, _ => do
        c.refuse ("failed to get attributes of ".toList ++ shellQuoted path ++ ": ".toList ++
          faultText fault)
        return false
      | .ok found, .error _ => do
        match m.files.makeDirectory (m.route goal) with
        | .ok files => do
          set { m with files }
          c.dress true found goal
          if c.tells then print (path ++ " -> ".toList ++ goal ++ ['\n'])
          return true
        | .error fault => do
          c.refuse ("cannot make directory ".toList ++ shellQuoted goal ++ ": ".toList ++
            faultText fault)
          return false
      | .ok _, .ok there => do
        if !there.isDirectory then
          c.refuse (shellQuoted goal ++ " exists but is not a directory".toList)
        return there.isDirectory)
    true

def attributeChoices : List (List String × Octets) :=
  [(["mode"], ['m']), (["timestamps"], ['t']), (["ownership"], []), (["links"], ['l']),
    (["context"], []), (["xattr"], []), (["all"], ['m', 't', 'l'])]

def keptAttributes (name : Octets) (options : Options) : Act (Option Octets) :=
  options.foldlM
    (fun (kept : Option Octets) option => do
      match kept, option with
      | none, _ => return none
      | some kept, ('p', _) => return some ('m' :: 't' :: kept)
      | some kept, ('a', _) => return some ('m' :: 't' :: 'l' :: kept)
      | some kept, ('d', _) => return some ('l' :: kept)
      | some kept, ('\x03', words) => do
        if words.isEmpty then return some ('m' :: 't' :: kept)
        let chosen ← (Text.splitOn ',' words).mapM
          (choose 1 name (inQuotes "--preserve".toList) attributeChoices)
        return (chosen.mapM id).map fun chosen => chosen.flatten ++ kept
      | some kept, ('\x04', words) => do
        let chosen ← (Text.splitOn ',' words).mapM
          (choose 1 name (inQuotes "--no-preserve".toList) attributeChoices)
        return (chosen.mapM id).map fun chosen => kept.filter fun c => !chosen.flatten.contains c
      | kept, _ => return kept)
    (some [])

def cpFlags : List Flag :=
  plainFlags "xZ" ++ Backup.flags ++ destinationFlags ++
    [⟨'a', "archive", false⟩, ⟨'A', "attributes-only", false⟩, ⟨'C', "copy-contents", false⟩,
      ⟨'d', "", false⟩, ⟨'L', "dereference", false⟩, ⟨'f', "force", false⟩, ⟨'H', "", false⟩,
      ⟨'i', "interactive", false⟩, ⟨'l', "link", false⟩, ⟨'n', "no-clobber", false⟩,
      ⟨'P', "no-dereference", false⟩, ⟨'p', "", false⟩, ⟨'\x03', "preserve", .maybe⟩,
      ⟨'\x04', "no-preserve", true⟩, ⟨'x', "one-file-system", false⟩, ⟨'\x05', "parents", false⟩,
      ⟨'r', "recursive", false⟩, ⟨'R', "", false⟩, ⟨'\x06', "reflink", .maybe⟩,
      ⟨'\x07', "remove-destination", false⟩, ⟨'\x06', "sparse", true⟩,
      ⟨'\x08', "strip-trailing-slashes", false⟩, ⟨'s', "symbolic-link", false⟩,
      ⟨'u', "update", false⟩, ⟨'v', "verbose", false⟩]

def clashOf (options : Options) (letters : String) : Clash :=
  match options.last? letters with
  | some 'i' => .asks
  | some 'n' => .keeps
  | _ => .replaces

def cp : Tool :=
  withOptions false cpFlags 1 fun name options operands => do
    let some kept ← keptAttributes name options | return
    let isDeep := options.has 'r' || options.has 'R' || options.has 'a'
    let kind : CopyKind := if options.has 'l' then .name else if options.has 's' then .link
      else .content
    let following : Following := match options.last? "adLPH" with
      | some 'L' => .all
      | some 'H' => .named
      | some _ => .none
      | none => if isDeep && kind != .name then .none else .all
    if options.has 'l' && options.has 's' then
      misuse 1 name "cannot make both hard and symbolic links".toList
      return
    let clash := clashOf options "in"
    if clash = .keeps && options.any fun option => "b\x02S".toList.contains option.1 then
      misuse 1 name "options --backup and --no-clobber are mutually exclusive".toList
      return
    let some backup ← Backup.ofOptions name options | return
    let c : Copier :=
      { name, isDeep, following, kind, clash, backup
        tells := options.has 'v'
        updates := options.has 'u'
        removes := options.has '\x07'
        forces := options.has 'f'
        keepsMode := kept.contains 'm'
        keepsTimes := kept.contains 't'
        keepsLinks := kept.contains 'l' && kind != .name
        onlyAttributes := options.has 'A'
        readsDevices := !isDeep || options.has 'C' }
    let bare (source : Octets) : Octets :=
      if options.has '\x08' then withoutSlashes source else source
    let some destination ← destinationOf name {} options operands | return
    match destination, options.has '\x05' with
    | .onto source goal, false => do
      let m ← get
      match look m true source with
      | .ok found =>
        if c.forces && backup.isMade && source == goal && found.isFile then
          let goal := goal ++ backup.ending m found.place
          { c with backup := {} }.runAll [{ source := bare source, goal }]
        else c.runAll [{ source := bare source, goal }]
      | .error _ => c.runAll [{ source := bare source, goal }]
    | .onto .., true => misuse 1 name "with --parents, the destination must be a directory".toList
    | .into sources directory, true => do
      let _ ← sources.foldlM
        (fun log source => do
          let source := bare source
          if ← c.makeOuter directory source then
            c.run { source, goal := joined directory (withoutSlashes source) } log
          else return log)
        ({} : CopyLog)
    | destination, false =>
      c.runAll ((errandsTo destination).map fun errand =>
        { errand with source := bare errand.source })

def makeInstalled (name : Octets) (tells : Bool) (paths : List Octets) : Act Bool :=
  paths.foldlM
    (fun goesOn path => do
      let m ← get
      if !goesOn then return false
      match m.status? path with
      | .ok .directory => return true
      | _ =>
        match m.files.makeDirectory (m.route path) with
        | .ok files => do
          set { m with files }
          if tells then print (name ++ ": creating directory ".toList ++ shellQuoted path ++ ['\n'])
          return true
        | .error fault => do
          fail 1 name ("cannot create directory ".toList ++ inQuotes path ++ ": ".toList ++
            faultText fault)
          return false)
    true

def installFlags : List Flag :=
  plainFlags "cs" ++ valueFlags "go" ++ Backup.flags ++ destinationFlags ++
    [⟨'C', "compare", false⟩, ⟨'D', "", false⟩, ⟨'d', "directory", false⟩, ⟨'m', "mode", true⟩,
      ⟨'g', "group", true⟩, ⟨'o', "owner", true⟩, ⟨'p', "preserve-timestamps", false⟩,
      ⟨'s', "strip", false⟩, ⟨'v', "verbose", false⟩]

def isInstalled (m : Machine) (mode : Nat) (source goal : Octets) : Bool :=
  match look m true source, look m false goal with
  | .ok found, .ok there =>
    found.isFile && there.isFile && m.files.mode there.place == mode &&
      (m.files.read (m.route source)).toOption == (m.files.read (m.route goal)).toOption
  | _, _ => false

/-- Copies files to where they belong, with the permissions that they need there. -/
def install : Tool :=
  withOptions false installFlags 1 fun name options operands => do
    let tells := options.has 'v'
    let makesOuter := options.has 'D'
    let some backup ← Backup.ofOptions name options | return
    let word := (options.value? 'm').getD "755".toList
    let change := Permission.readChange? word
    let mode (isDirectory : Bool) : Nat :=
      (change.map fun change => change.apply 0 isDirectory 0).getD 0
    let isModeKnown : Act Bool := do
      if change.isNone then fail 1 name ("invalid mode ".toList ++ inQuotes word)
      return change.isSome
    if options.has 'd' then
      if options.has 't' then
        fail 1 name "target directory not allowed when installing a directory".toList
      else if operands.isEmpty then misuse 1 name "missing file operand".toList
      else if ← isModeKnown then
        operands.forM fun path => do
          let path := withoutSlashes path
          if ← makeInstalled name tells (outerPaths path ++ [path]) then
            let m ← get
            if let .ok place := m.files.locate (m.route path) then
              set { m with files := m.files.setMode place (mode true) }
      return
    if makesOuter then
      if let some directory := options.value? 't' then
        let directory := withoutSlashes directory
        if !(← makeInstalled name tells (outerPaths directory ++ [directory])) then return
    let some destination ← destinationOf name { refusedTarget := "failed to access " } options
      operands | return
    if !(← isModeKnown) then return
    let c : Copier :=
      { name, tells, backup, removes := true, isBrief := true, keepsTimes := options.has 'p' }
    let _ ← (errandsTo destination).foldlM
      (fun log errand => do
        match makesOuter, destination with
        | true, .onto .. =>
          if !(← makeInstalled name tells (outerPaths errand.goal)) then return log
        | _, _ => pure ()
        if options.has 'C' && isInstalled (← get) (mode false) errand.source errand.goal then
          return log
        let count := log.made.length
        let log ← c.run errand log
        if count < log.made.length then
          let m ← get
          if let .ok place := m.files.locate (m.route errand.goal) then
            set { m with files := m.files.setMode place (mode false) }
        return log)
      ({} : CopyLog)

end NextRelease.Shell.Tool
