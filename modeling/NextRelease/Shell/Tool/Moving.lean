import NextRelease.Files.Resolve
import NextRelease.Shell.Tool.Copying

/-!
Moving files and giving them further names: a file keeps what it is, whatever it is called.
-/

namespace NextRelease.Shell.Tool

/-! ## Moving -/

structure Mover where
  name : Octets
  tells : Bool := false
  clash : Clash := .replaces
  updates : Bool := false
  backup : Backup := {}

namespace Mover

def refuse (v : Mover) (text : Octets) : Act Unit := fail 1 v.name text

def refuseMove (v : Mover) (errand : Errand) (reason : Octets) : Act Unit :=
  v.refuse ("cannot move ".toList ++ shellQuoted errand.source ++ " to ".toList ++
    shellQuoted errand.goal ++ ": ".toList ++ reason)

def isSameFile (v : Mover) (m : Machine) (errand : Errand) (found there : Found) : Bool :=
  let isSame := Found.isSame m found there
  if found.place = there.place then true
  else if v.backup.isMade then false
  else if found.isLink && there.isLink then isSame
  else if there.isLink then false
  else if found.isLink then
    match look m true errand.source with
    | .ok target => target.place == there.place
    | .error _ => false
  else isSame

def rename (v : Mover) (errand : Errand) (found : Found) (goal : Place) (kept : Option Octets) :
    Act Unit := do
  modify fun m => { m with files := m.files.relocate found.place goal }
  if v.tells then print ("renamed ".toList ++ keptPair errand.source errand.goal kept ++ ['\n'])

/-- Moves something to where something is already; the places of files that came there before are
told. -/
def replace (v : Mover) (made : List Place) (errand : Errand) (found there : Found) : Act Unit := do
  let m ← get
  let pair (front middle : String) : Octets :=
    front.toList ++ shellQuoted errand.goal ++ middle.toList ++ shellQuoted errand.source
  let changed (found : Found) : Int := (m.files.timesAt found.place).changed
  if v.clash != .keeps && v.isSameFile m errand found there then
    v.refuse (shellQuoted errand.source ++ " and ".toList ++ shellQuoted errand.goal ++
      " are the same file".toList)
  else if v.updates && !found.isDirectory && changed found ≤ changed there then return
  else if v.clash = .keeps then return
  else if !(← confirmsIf (v.clash = .asks) v.name
      ("overwrite ".toList ++ shellQuoted errand.goal)) then return
  else if !there.isDirectory && found.isDirectory && !v.backup.isMade then
    v.refuse (pair "cannot overwrite non-directory " " with directory ")
  else if !there.isDirectory && errand.isOneOfMany && !v.backup.isNumbered &&
      made.contains there.place then
    v.refuse (pair "will not overwrite just-created " " with ")
  else if there.isDirectory && !found.isDirectory && !v.backup.isMade then
    v.refuse ("cannot overwrite directory ".toList ++ shellQuoted errand.goal ++
      " with non-directory".toList)
  else if v.backup.isMade then
    if !v.backup.isNumbered && found.place == there.place.dropLast ++
        [(there.place.getLast?.getD "") ++ textOf v.backup.suffix] then
      v.refuse ("backing up ".toList ++ shellQuoted errand.goal ++
        " might destroy source;  ".toList ++ shellQuoted errand.source ++ " not moved".toList)
    else if there.place.isPrefixOf found.place then
      v.refuseMove errand (faultText .notFound)
    else
      let kept ← v.backup.keep there.place
      v.rename errand found there.place (some kept)
  else if there.isDirectory && !(m.files.below there.place).isEmpty then
    v.refuseMove errand "Directory not empty".toList
  else v.rename errand found there.place none

def move (v : Mover) (made : List Place) (errand : Errand) : Act Unit := do
  let m ← get
  let isSlashedLink := isSlashedLink m errand.source
  match look m false errand.source with
  | .error fault =>
    v.refuse ("cannot stat ".toList ++ shellQuoted errand.source ++ ": ".toList ++ faultText fault)
  | .ok found =>
    match look m false errand.goal, goalPlace m found.isDirectory errand.goal with
    | .ok there, _ =>
      if isSlashedLink then v.refuseMove errand (faultText .notADirectory)
      else if found.isDirectory && found.place != there.place &&
          found.place.isPrefixOf there.place then
        v.refuse ("cannot move ".toList ++ shellQuoted errand.source ++
          " to a subdirectory of itself, ".toList ++ shellQuoted errand.goal)
      else v.replace made errand found there
    | .error _, .error fault => v.refuseMove errand (faultText fault)
    | .error _, .ok goal =>
      if isSlashedLink then v.refuseMove errand (faultText .notADirectory)
      else if found.isDirectory && found.place.isPrefixOf goal then
        v.refuse ("cannot move ".toList ++ shellQuoted errand.source ++
          " to a subdirectory of itself, ".toList ++ shellQuoted errand.goal)
      else v.rename errand found goal none

end Mover

def mv : Tool :=
  withOptions false
    (Backup.flags ++ destinationFlags ++
      [⟨'f', "force", false⟩, ⟨'i', "interactive", false⟩, ⟨'n', "no-clobber", false⟩,
        ⟨'\x08', "strip-trailing-slashes", false⟩, ⟨'u', "update", false⟩,
        ⟨'v', "verbose", false⟩, ⟨'Z', "context", false⟩]) 1
    fun name options operands => do
      let clash := clashOf options "inf"
      let some destination ← destinationOf name {} options operands | return
      if clash = .keeps && options.any fun option => "b\x02S".toList.contains option.1 then
        misuse 1 name "options --backup and --no-clobber are mutually exclusive".toList
        return
      let some backup ← Backup.ofOptions name options | return
      let v : Mover :=
        { name, clash, backup
          tells := options.has 'v'
          updates := options.has 'u' && clash != .keeps }
      let bare (source : Octets) : Octets :=
        if options.has '\x08' then withoutSlashes source else source
      let errands := match destination with
        | .onto source goal => [{ source := bare source, goal : Errand }]
        | .into sources directory => sources.map fun source =>
          { source := bare source, goal := joined directory (baseOf source)
            isOneOfMany := 1 < sources.length }
      let _ ← errands.foldlM
        (fun made errand => do
          v.move made errand
          match look (← get) false errand.goal with
          | .ok there => return there.place :: made
          | .error _ => return made)
        []

/-! ## Linking -/

structure Linker where
  name : Octets
  tells : Bool := false
  isSymbolic : Bool := false
  follows : Bool := false
  isRelative : Bool := false
  removes : Bool := false
  asks : Bool := false
  backup : Backup := {}

def wayFrom (directory place : Place) : Octets :=
  let common := ((directory.zip place).takeWhile fun names => names.1 == names.2).length
  let names := List.replicate (directory.length - common) ".." ++ place.drop common
  octets (if names.isEmpty then "." else "/".intercalate names)

def resolved (m : Machine) (path : Octets) : Place :=
  (m.files.resolve m.cwd (.ofString (textOf path)) m.files.entries.length).toOption.getD (m.route path).names

namespace Linker

def refuse (k : Linker) (text : Octets) : Act Unit := fail 1 k.name text

def refuseLink (k : Linker) (source goal : Octets) (fault : FileFault) : Act Unit :=
  let arrow : Octets :=
    if k.isSymbolic then
      if fault = .nameTooLong || source.isEmpty then " -> ".toList ++ shellQuoted source else []
    else if fault = .alreadyExists then []
    else " => ".toList ++ shellQuoted source
  k.refuse ("failed to create ".toList ++ (if k.isSymbolic then "symbolic" else "hard").toList ++
    " link ".toList ++ shellQuoted goal ++ arrow ++ ": ".toList ++ faultText fault)

def clear (k : Linker) (source goal : Octets) (there : Found) : Act (Option (Option Octets)) := do
  let m ← get
  let isSame : Bool := !(k.isSymbolic && k.backup.isMade) &&
    match look m (k.isSymbolic || k.follows) source, look m false source with
    | .ok found, .ok entry =>
      Found.isSame m found there &&
        ((m.files.namesAt there.place).length ≤ 1 || entry.place == there.place)
    | _, _ => false
  if there.isDirectory then
    k.refuse (quotedIfPeculiar goal ++ ": cannot overwrite directory".toList)
    return none
  else if isSame then
    k.refuse (shellQuoted source ++ " and ".toList ++ shellQuoted goal ++
      " are the same file".toList)
    return none
  else if !(← confirmsIf k.asks k.name ("replace ".toList ++ shellQuoted goal)) then return none
  else if k.backup.isMade then return some (some (← k.backup.keep there.place))
  else
    set { m with files := m.files.erase there.place }
    return some none

def link (k : Linker) (source goal : Octets) : Act Unit := do
  let m ← get
  let target := if k.isRelative then
      wayFrom (resolved m (directoryOf goal)) (resolved m source)
    else source
  match k.isSymbolic, look m k.follows source with
  | false, .error fault =>
    k.refuse ("failed to access ".toList ++ shellQuoted source ++ ": ".toList ++ faultText fault)
  | isSymbolic, found =>
    if !isSymbolic && (found.toOption.any Found.isDirectory) then
      k.refuse (quotedIfPeculiar source ++ ": hard link not allowed for directory".toList)
    else
      let cleared ← match look m false goal with
        | .ok there =>
          if k.removes || k.asks || k.backup.isMade then k.clear target goal there
          else do
            k.refuseLink target goal .alreadyExists
            pure none
        | .error _ => pure (some none)
      let some kept := cleared | return
      let m ← get
      match goalPlace m false goal with
      | .error fault => k.refuseLink target goal fault
      | .ok place =>
        if isSymbolic && target.isEmpty then k.refuseLink target goal .notFound
        else
          match isSymbolic, found with
          | false, .ok found => set { m with files := m.files.addName found.place place }
          | _, _ =>
            set { m with
              files := (m.files.insert place (.link (textOf target))).stampNew place }
          if k.tells then
            let front := (kept.map fun ending =>
              shellQuoted (goal ++ ending) ++ " ~ ".toList).getD []
            let arrow := if isSymbolic then " -> " else " => "
            print (front ++ shellQuoted goal ++ arrow.toList ++ shellQuoted target ++ ['\n'])

end Linker

def takesLinks (m : Machine) (followsGoal : Bool) (goal : Octets) : Bool :=
  match look m followsGoal goal with
  | .ok found => found.isDirectory
  | .error _ => false

def ln : Tool :=
  withOptions false
    (plainFlags "dF" ++ Backup.flags ++ destinationFlags ++
      [⟨'f', "force", false⟩, ⟨'i', "interactive", false⟩, ⟨'L', "logical", false⟩,
        ⟨'n', "no-dereference", false⟩, ⟨'P', "physical", false⟩, ⟨'r', "relative", false⟩,
        ⟨'s', "symbolic", false⟩, ⟨'v', "verbose", false⟩, ⟨'d', "directory", false⟩]) 1
    fun name options operands => do
      let m ← get
      if operands.isEmpty then misuse 1 name "missing file operand".toList
      else if options.has 'r' && !options.has 's' then
        fail 1 name "cannot do --relative without --symbolic".toList
      else
        let some backup ← Backup.ofOptions name options | return
        let k : Linker :=
          { name, backup
            tells := options.has 'v'
            isSymbolic := options.has 's'
            follows := options.last? "LP" == some 'L'
            isRelative := options.has 'r'
            removes := options.last? "fi" == some 'f'
            asks := options.last? "fi" == some 'i' }
        let into (sources : List Octets) (directory : Octets) : Act Unit :=
          sources.forM fun source => k.link source (joined directory (baseOf source))
        match options.has 'T' || options.has 't', operands with
        | false, [source] => into [source] ['.']
        | false, operands =>
          let goal := operands.getLast?.getD []
          if takesLinks m (!options.has 'n') goal then into operands.dropLast goal
          else
            match operands with
            | [source, goal] => k.link source goal
            | _ =>
              fail 1 name ("target ".toList ++ shellQuoted goal ++ ": ".toList ++
                faultText ((directoryFault? m goal).getD .notADirectory))
        | true, operands => do
          let some destination ← destinationOf name
            { refusedTarget := "failed to access "
              optionClash := "cannot combine --target-directory and --no-target-directory" }
            options operands | return
          match destination with
          | .onto source goal => k.link source goal
          | .into sources directory => into sources directory

def link : Tool :=
  withOptions false [] 1 fun name _ operands =>
    withOperands 1 2 (some 2) name operands do
      let m ← get
      let (source, goal) := (operands.head?.getD [], operands.getLast?.getD [])
      let refuse (fault : FileFault) : Act Unit :=
        fail 1 name ("cannot create link ".toList ++ shellQuoted goal ++ " to ".toList ++
          shellQuoted source ++ ": ".toList ++ faultText fault)
      match look m false source, goalPlace m false goal with
      | .error fault, _ | _, .error fault => refuse fault
      | .ok found, .ok place =>
        if (m.files.get? place).isSome then refuse .alreadyExists
        else if found.isDirectory then
          fail 1 name ("cannot create link ".toList ++ shellQuoted goal ++ " to ".toList ++
            shellQuoted source ++ ": Operation not permitted".toList)
        else set { m with files := m.files.addName found.place place }

def unlink : Tool :=
  withOptions false [] 1 fun name _ operands =>
    withOperands 1 1 (some 1) name operands do
      let m ← get
      let path := operands.head?.getD []
      let refuse (fault : FileFault) : Act Unit :=
        fail 1 name ("cannot unlink ".toList ++ shellQuoted path ++ ": ".toList ++ faultText fault)
      match look m false path with
      | .error fault => refuse fault
      | .ok found =>
        if found.isDirectory then refuse .isADirectory
        else set { m with files := m.files.erase found.place }

end NextRelease.Shell.Tool
