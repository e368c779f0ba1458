import NextRelease.Files.Tree
import NextRelease.Shell.Tool.Values

/-!
Where files go that are copied, moved or linked, and what becomes of what is already there: it may
be kept under another name, with a suffix or with a number.
-/

namespace NextRelease.Shell.Tool

/-! ## Backups -/

inductive Numbering where
  | never
  | following
  | always

structure Backup where
  numbering : Option Numbering := none
  suffix : Octets := ['~']

namespace Backup

def isMade (backup : Backup) : Bool := backup.numbering.isSome

def isNumbered (backup : Backup) : Bool :=
  match backup.numbering with
  | some .always => true
  | _ => false

def kinds : List (List String × Option Numbering) :=
  [(["none", "off"], none), (["simple", "never"], some .never),
    (["existing", "nil"], some .following), (["numbered", "t"], some .always)]

def flags : List Flag :=
  [⟨'b', "", false⟩, ⟨'\x02', "backup", .maybe⟩, ⟨'S', "suffix", true⟩]

def ofOptions (name : Octets) (options : Options) : Act (Option Backup) := do
  let m ← get
  let suffix := ((options.value? 'S').or (m.value? "SIMPLE_BACKUP_SUFFIX".toList)).getD []
  let suffix := if suffix.isEmpty || suffix.contains '/' then ['~'] else suffix
  if !(options.any fun option => "b\x02S".toList.contains option.1) then
    return some { suffix }
  let given := ((options.value? '\x02').getD [], inQuotes "backup type".toList)
  let (word, subject) := if !given.1.isEmpty then given
    else ((m.value? "VERSION_CONTROL".toList).getD [], inQuotes "$VERSION_CONTROL".toList)
  if word.isEmpty then return some { numbering := some .following, suffix }
  return (← choose 1 name subject kinds word).map fun numbering => { numbering, suffix }

def numbersAt (m : Machine) (place : Place) : List Nat :=
  let front := octets (place.getLast?.getD "") ++ ".~".toList
  (namesIn m place.dropLast).filterMap fun name =>
    let number := (name.drop front.length).dropLast
    if front.isPrefixOf name && name.getLast? == some '~' && isNumber number &&
        number.head? != some '0' then some (readNat number)
    else none

def ending (backup : Backup) (m : Machine) (place : Place) : Octets :=
  let numbers := numbersAt m place
  let isNumbered := match backup.numbering with
    | some .always => true
    | some .following => !numbers.isEmpty
    | _ => false
  if isNumbered then ".~".toList ++ natText (numbers.foldl max 0 + 1) ++ ['~'] else backup.suffix

def keep (backup : Backup) (place : Place) : Act Octets := do
  let m ← get
  let ending := backup.ending m place
  let name := (place.getLast?.getD "") ++ textOf ending
  set { m with files := m.files.relocate place (place.dropLast ++ [name]) }
  return ending

end Backup

/-! ## Destinations -/

def withoutSlashes (path : Octets) : Octets :=
  let trimmed := (path.reverse.dropWhile (· == '/')).reverse
  if trimmed.isEmpty then path.take 1 else trimmed

def isSlashedLink (m : Machine) (path : Octets) : Bool :=
  path.getLast? == some '/' &&
    match m.entry path with
    | .ok place =>
      match m.files.get? place with
      | some (.link _) => true
      | _ => false
    | .error _ => false

inductive Destination where
  | onto (source goal : Octets)
  | into (sources : List Octets) (directory : Octets)

def directoryFault? (m : Machine) (path : Octets) : Option FileFault :=
  match m.status? path with
  | .ok .directory => none
  | .ok _ => some .notADirectory
  | .error fault => some fault

structure DestinationText where
  refusedTarget : String := "target directory "
  optionClash : String :=
    "cannot combine --target-directory (-t) and --no-target-directory (-T)"

def destinationFlags : List Flag :=
  [⟨'t', "target-directory", true⟩, ⟨'T', "no-target-directory", false⟩]

/-- Tells the sources of a call from where they go, unless that makes no sense. -/
def destinationOf (name : Octets) (texts : DestinationText) (options : Options)
    (operands : List Octets) : Act (Option Destination) := do
  let m ← get
  let refuse (text : Octets) : Act (Option Destination) := do
    misuse 1 name text
    return none
  match options.value? 't', options.has 'T', operands with
  | some _, true, _ => do
    fail 1 name texts.optionClash.toList
    return none
  | _, _, [] => refuse "missing file operand".toList
  | some directory, _, sources =>
    match directoryFault? m directory with
    | none => return some (.into sources directory)
    | some fault => do
      fail 1 name (texts.refusedTarget.toList ++ shellQuoted directory ++ ": ".toList ++
        faultText fault)
      return none
  | none, _, [only] =>
    refuse ("missing destination file operand after ".toList ++ shellQuoted only)
  | none, true, [source, goal] => return some (.onto source goal)
  | none, true, _ :: _ :: extra :: _ => refuse ("extra operand ".toList ++ shellQuoted extra)
  | none, false, sources =>
    let goal := sources.getLast?.getD []
    match directoryFault? m goal, sources with
    | none, _ => return some (.into sources.dropLast goal)
    | some _, [source, goal] => return some (.onto source goal)
    | some fault, _ => do
      fail 1 name ("target ".toList ++ shellQuoted goal ++ ": ".toList ++ faultText fault)
      return none

def quotedPair (source goal : Octets) : Octets :=
  shellQuoted source ++ " -> ".toList ++ shellQuoted goal

def keptPair (source goal : Octets) (kept : Option Octets) : Octets :=
  quotedPair source goal ++ match kept with
    | some ending => " (backup: ".toList ++ shellQuoted (goal ++ ending) ++ ")".toList
    | none => []

def goalPlace (m : Machine) (isDirectory : Bool) (goal : Octets) : Except FileFault Place :=
  match m.entry goal with
  | .ok place =>
    if goal.getLast? = some '/' && !isDirectory && (m.files.get? place).isNone then
      .error .notADirectory
    else .ok place
  | .error fault => .error fault

end NextRelease.Shell.Tool
