import NextRelease.Shell.Tool.Date
import NextRelease.Shell.Tool.Moving

/-!
Tools that make and remove files and directories, and that change what is said of them.
-/

namespace NextRelease.Shell.Tool

/-! ## Directories -/

def pathFronts (path : Octets) : List Octets :=
  let trimmed := (path.reverse.dropWhile (· == '/')).reverse
  let ends := (trimmed.zipIdx.filter fun c => c.1 == '/' && c.2 != 0).map (·.2)
  (ends.map trimmed.take) ++ [trimmed]

def makeOne (name : Octets) (tells : Bool) (path : Octets) : Act (Except FileFault Unit) := do
  let make (m : Machine) : Except FileFault FileTree := do
    let _ ← m.entry path
    if baseOf path = ['.'] then
      throw (if (m.status? path).isOk then .alreadyExists else .notFound)
    m.files.makeDirectory (m.route path)
  match ← changeFiles make with
  | .ok () => do
    modify fun m =>
      match m.entry path with
      | .error _ => m
      | .ok place =>
        let inherited := m.files.mode place.dropLast &&& 0o2000
        if m.mask = 0o22 && inherited = 0 then m
        else
          let mode := Permission.without 0o777 m.mask ||| inherited
          { m with files := m.files.setMode place mode }
    if tells then print (name ++ ": created directory ".toList ++ shellQuoted path ++ ['\n'])
    return .ok ()
  | .error fault => return .error fault

def makeAll (name : Octets) (tells : Bool) : List Octets → Act (Option (Octets × FileFault))
  | [] => return none
  | path :: paths => do
    match ← makeOne name tells path with
    | .ok () => makeAll name tells paths
    | .error .alreadyExists => do
      match (← get).status? path with
      | .ok .directory => makeAll name tells paths
      | _ => return some (path, if paths.isEmpty then .alreadyExists else .notADirectory)
    | .error fault => return some (path, fault)

def mkdir : Tool :=
  withOptions false
    [⟨'p', "parents", false⟩, ⟨'v', "verbose", false⟩, ⟨'m', "mode", true⟩] 1
    fun name options operands => do
      if let some mode := (options.value? 'm').filter fun mode =>
          (Permission.readChange? mode).isNone then
        fail 1 name ("invalid mode ".toList ++ inQuotes mode)
        return
      withOperands 1 1 none name operands do
        operands.forM fun path => do
          let failed ← if options.has 'p' then makeAll name (options.has 'v') (pathFronts path)
            else do
              match ← makeOne name (options.has 'v') path with
              | .ok () => pure none
              | .error fault => pure (some (path, fault))
          let m ← get
          match failed with
          | none =>
            match (options.value? 'm').bind Permission.readChange?, m.entry path with
            | some change, .ok place =>
              let inherited := m.files.mode place.dropLast &&& 0o2000
              let mode := change.apply m.mask true 0o777 ||| inherited
              set { m with files := m.files.setMode place mode }
            | _, _ => pure ()
          | some (path, fault) =>
            fail 1 name ("cannot create directory ".toList ++ inQuotes path ++ ": ".toList ++
              faultText fault)

def emptyDirectoryText : Octets := "Directory not empty".toList

/-- Removes an empty directory, or tells why that cannot be done. -/
def removeDirectory (path : Octets) : Act (Except Octets Unit) := do
  let m ← get
  match m.entry path with
  | .error fault => return .error (faultText fault)
  | .ok place =>
    match m.files.get? place with
    | none => return .error (faultText .notFound)
    | some .directory =>
      if (m.files.below place).isEmpty then
        set { m with files := m.files.erase place }
        return .ok ()
      else return .error emptyDirectoryText
    | some _ => return .error (faultText .notADirectory)

def rmdir : Tool :=
  withOptions false
    [⟨'p', "parents", false⟩, ⟨'v', "verbose", false⟩,
      ⟨'i', "ignore-fail-on-non-empty", false⟩] 1
    fun name options operands => do
      withOperands 1 1 none name operands do
        operands.forM fun path => do
          let fronts := if options.has 'p' then (pathFronts path).reverse else [path]
          let _ ← fronts.foldlM
            (fun (goesOn : Bool) path => do
              if !goesOn then return false
              if options.has 'v' then
                print (name ++ ": removing directory, ".toList ++ shellQuoted path ++ ['\n'])
              match ← removeDirectory path with
              | .ok () => return true
              | .error reason => do
                if !(options.has 'i' && reason = emptyDirectoryText) then
                  fail 1 name ("failed to remove ".toList ++ shellQuoted path ++ ": ".toList ++
                    reason)
                return false)
            true

/-! ## Removing -/

structure Remover where
  name : Octets
  tells : Bool := false
  isDeep : Bool := false
  takesDirectories : Bool := false
  asks : Bool := false
  ignoresAbsence : Bool := false

namespace Remover

def refuse (r : Remover) (path reason : Octets) : Act Unit :=
  fail 1 r.name ("cannot remove ".toList ++ shellQuoted path ++ ": ".toList ++ reason)

def confirmed (r : Remover) (front kind : String) (path : Octets) : Act Bool :=
  confirmsIf r.asks r.name (front.toList ++ kind.toList ++ [' '] ++ shellQuoted path)

def tell (r : Remover) (front : String) (path : Octets) : Act Unit := do
  if r.tells then print (front.toList ++ shellQuoted path ++ ['\n'])

def removeFile (r : Remover) (path : Octets) (found : Found) : Act Bool := do
  let kind := match found.node with
    | .file bytes => if bytes.isEmpty then "regular empty file" else "regular file"
    | .link _ => "symbolic link"
    | .device .pipe => "fifo"
    | .device _ => "character special file"
    | .directory => "directory"
  if ← r.confirmed "remove " kind path then
    modify fun m => { m with files := m.files.erase found.place }
    r.tell "removed " path
    return true
  return false

def removeEmpty (r : Remover) (path : Octets) : Act Bool := do
  if ← r.confirmed "remove " "directory" path then
    match ← removeDirectory (withoutSlashes path) with
    | .ok () => do
      r.tell "removed directory " path
      return true
    | .error reason => do
      r.refuse path reason
      return false
  return false

def removeAll (r : Remover) : (fuel : Nat) → (path : Octets) → Act Bool
  | 0, _ => return false
  | fuel + 1, path => do
    let m ← get
    match look m false path with
    | .error fault => do
      r.refuse path (faultText fault)
      return false
    | .ok found =>
      if !found.isDirectory then r.removeFile path found
      else
        let names := namesIn m found.place
        if names.isEmpty then r.removeEmpty path
        else if ← r.confirmed "descend into " "directory" path then
          let isEmptied ← names.foldlM
            (fun isEmptied name => do
              let isGone ← r.removeAll fuel (joined path name)
              return isEmptied && isGone)
            true
          if isEmptied then r.removeEmpty path
          else if r.asks then
            let _ ← r.confirmed "remove " "directory" path
            return false
          else return false
        else return false

def remove (r : Remover) (path : Octets) : Act Unit := do
  let base := baseOf path
  if r.isDeep && (base = ['.'] || base = ['.', '.']) then
    fail 1 r.name ("refusing to remove '.' or '..' directory: skipping ".toList ++ shellQuoted path)
  else if r.isDeep && base = ['/'] then
    fail 1 r.name "it is dangerous to operate recursively on '/'".toList
    report r.name "use --no-preserve-root to override this failsafe".toList
  else
    let m ← get
    match look m false path with
    | .error fault => if !(r.ignoresAbsence && fault.isAbsence) then r.refuse path (faultText fault)
    | .ok found =>
      if !found.isDirectory then
        let _ ← r.removeFile path found
      else if r.isDeep then
        if !r.tells && !r.asks && !isSlashedLink m path then
          set { m with files := m.files.prune found.place }
        else
          let _ ← r.removeAll (m.files.entries.length + 2) path
      else if r.takesDirectories then
        let _ ← r.removeEmpty path
      else r.refuse path (faultText .isADirectory)

end Remover

def askingOf (name : Octets) (options : Options) : Act (Option (Option Char)) :=
  match (options.filter fun option => "fiI\x02".toList.contains option.1).getLast? with
  | some ('\x02', []) => return some (some 'i')
  | some ('\x02', word) =>
    choose 1 name (inQuotes "--interactive".toList)
      [(["never", "no", "none"], none), (["once"], some 'I'), (["always", "yes"], some 'i')] word
  | some (letter, _) => return some (some letter)
  | none => return some none

def hyphenHints (name : Octets) (arguments : List Octets) : Act Unit := do
  let m ← get
  arguments.forM fun word =>
    if word.head? = some '-' && 1 < word.length && (look m false word).isOk then
      printError ("Try '".toList ++ name ++ " ./".toList ++ quotedIfPeculiar word ++
        "' to remove the file ".toList ++ shellQuoted word ++ ".\n".toList)
    else pure ()

def rmFlags : List Flag :=
  [⟨'r', "recursive", false⟩, ⟨'R', "", false⟩, ⟨'f', "force", false⟩, ⟨'v', "verbose", false⟩,
    ⟨'d', "dir", false⟩, ⟨'i', "", false⟩, ⟨'I', "", false⟩, ⟨'\x02', "interactive", .maybe⟩,
    ⟨'\x03', "one-file-system", false⟩, ⟨'\x03', "preserve-root", .maybe⟩,
    ⟨'\x03', "no-preserve-root", false⟩]

def rm : Tool := fun name arguments => do
  finish 0
  match readOptions false rmFlags (arguments.length + 1) arguments with
  | .error text => do
    fail 1 name text
    hyphenHints name arguments
    printError (helpHint name)
  | .ok (options, operands) => do
    let some asking ← askingOf name options | return
    let isDeep := options.has 'r' || options.has 'R'
    withOperands 1 (if options.has 'f' then 0 else 1) none name operands do
      let count := operands.length
      let many := if count = 1 then " argument" else " arguments"
      let goesOn ← if asking = some 'I' && !operands.isEmpty && (isDeep || 3 < count) then
          confirms name ("remove ".toList ++ natText count ++ many.toList ++
            (if isDeep then " recursively" else "").toList)
        else pure true
      if goesOn then
        operands.forM ({ name, isDeep
                         tells := options.has 'v'
                         takesDirectories := options.has 'd'
                         asks := asking = some 'i'
                         ignoresAbsence := options.has 'f' } : Remover).remove

/-! ## Single files -/

def stampYear? (m : Machine) (digits : Octets) : Option (Int × Octets) :=
  let number (digits : Octets) : Int := Int.ofNat (readNat digits)
  match digits.length with
  | 8 => some ((presentMoment m).day.year, digits)
  | 10 =>
    let year := number (digits.take 2)
    some (if year < 69 then 2000 + year else 1900 + year, digits.drop 2)
  | 12 => some (number (digits.take 4), digits.drop 4)
  | _ => none

/-- The time that figures say: a year of two or four figures that may be missing, a month, a day, an
hour and a minute, and seconds behind a point. -/
def stampTime? (m : Machine) (text : Octets) : Option Int := do
  let (digits, fraction) := Text.cut '.' text
  let seconds ← match fraction with
    | none => some 0
    | some fraction =>
      if fraction.length = 2 && isNumber fraction then some (Int.ofNat (readNat fraction)) else none
  if !isNumber digits then none
  let (year, rest) ← stampYear? m digits
  let part (n : Nat) : Int := Int.ofNat (readNat ((rest.drop (2 * n)).take 2))
  let day : Calendar.Day := ⟨year, part 0, part 1⟩
  if !day.exists || 24 ≤ part 2 || 60 ≤ part 3 || 60 < seconds then none
  let shown := day.number * 86400 + part 2 * 3600 + part 3 * 60 + seconds
  return (shown - (zoneOf m).offsetOfShown shown) * 1000000000

def touchChange (name : Octets) (options : Options) : Act (Option (FileTimes → FileTimes)) := do
  let m ← get
  let reference := options.value? 'r'
  let base ← match reference with
    | none => pure (some ⟨m.files.now, m.files.now⟩)
    | some path =>
      match look m true path with
      | .ok found => pure (some (m.files.timesAt found.place))
      | .error fault => do
        fail 1 name ("failed to get attributes of ".toList ++ shellQuoted path ++ ": ".toList ++
          faultText fault)
        pure none
  let some base := base | return none
  let told (time : Int) (text : Octets) : Option Int :=
    let from_ := (momentOf time).inZone (zoneOf m)
    (TimeText.moment? (zoneOf m) from_ text).map fun moment =>
      moment.seconds * 1000000000 + Int.ofNat moment.nanoseconds
  let times ← match options.value? 'd', options.value? 't' with
    | some _, some _ => do
      misuse 1 name "cannot specify times from more than one source".toList
      pure none
    | some text, none =>
      match told base.changed text, told base.read text with
      | some changed, some read => pure (some (⟨changed, read⟩ : FileTimes))
      | _, _ => do
        fail 1 name ("invalid date format ".toList ++ inQuotes text)
        pure none
    | none, some text =>
      if reference.isSome then do
        misuse 1 name "cannot specify times from more than one source".toList
        pure none
      else
        match stampTime? m text with
        | some time => pure (some ⟨time, time⟩)
        | none => do
          fail 1 name ("invalid date format ".toList ++ inQuotes text)
          pure none
    | none, none => pure (some base)
  let isAlone (letter other : Char) : Bool := options.has letter && !options.has other
  return times.map fun times old =>
    if isAlone 'm' 'a' then { old with changed := times.changed }
    else if isAlone 'a' 'm' then { old with read := times.read }
    else times

def touchWord? (word : Octets) : Option Char :=
  let words (words : List String) : Bool :=
    words.any fun known => !word.isEmpty && word.isPrefixOf known.toList
  if words ["atime", "access", "use"] then some 'a'
  else if words ["mtime", "modify"] then some 'm'
  else none

def touch : Tool :=
  withOptions false
    (plainFlags "f" ++
      [⟨'c', "no-create", false⟩, ⟨'a', "", false⟩, ⟨'m', "", false⟩,
        ⟨'h', "no-dereference", false⟩, ⟨'d', "date", true⟩, ⟨'t', "", true⟩,
        ⟨'r', "reference", true⟩, ⟨'w', "time", true⟩]) 1
    fun name options operands => do
      let options := options ++ (options.values 'w').filterMap fun word =>
        (touchWord? word).map (·, [])
      let some change ← touchChange name options | return
      if operands.isEmpty then misuse 1 name "missing file operand".toList
      else
        operands.forM fun path => do
          let m ← get
          let refuse (fault : FileFault) : Act Unit :=
            fail 1 name ("cannot touch ".toList ++ shellQuoted path ++ ": ".toList ++
              faultText fault)
          let setAt (m : Machine) (place : Place) : Machine :=
            let files := (m.files.namesAt place).foldl
              (fun files place => files.setTimes place (change (files.timesAt place))) m.files
            { m with files }
          let setAbsent (fault : FileFault) : Act Unit :=
            if options.has 'c' then pure ()
            else fail 1 name ("setting times of ".toList ++ shellQuoted path ++ ": ".toList ++
              faultText fault)
          if isStandard path then
            match m.channel? 1 with
            | some (.file place) => set (setAt m place)
            | _ => pure ()
          else
            match look m (!options.has 'h') path, m.files.locate (m.route path) with
            | .ok found, _ => set (setAt m found.place)
            | .error .notFound, .ok place =>
              if path.isEmpty then refuse .notFound
              else if path.getLast? = some '/' || options.has 'h' then setAbsent .notFound
              else if !options.has 'c' then
                set (setAt { m with files := m.makeFile place .empty } place)
            | .error .notFound, .error .notFound => if !options.has 'c' then refuse .notFound
            | .error fault, place =>
              if path.getLast? = some '/' && place.isOk then setAbsent fault
              else if !(options.has 'c' && fault.isAbsence) then refuse fault

/-- Makes pipes that have names. -/
def mkfifo : Tool :=
  withOptions false [⟨'m', "mode", true⟩, ⟨'Z', "context", false⟩] 1
    fun name options operands =>
      withOperands 1 1 none name operands do
        match (options.value? 'm').map Permission.readChange? with
        | some none => fail 1 name "invalid mode".toList
        | change =>
          operands.forM fun path => do
            let m ← get
            let refuse (fault : FileFault) : Act Unit :=
              fail 1 name ("cannot create fifo ".toList ++ shellQuoted path ++ ": ".toList ++
                faultText fault)
            match m.entry path with
            | .error fault => refuse fault
            | .ok place =>
              if (m.files.get? place).isSome then refuse .alreadyExists
              else if path.getLast? = some '/' then refuse .notFound
              else
                let files := (m.files.insert place (.device .pipe)).stampNew place
                let mode := match change.join with
                  | some change => change.apply m.mask false 0o666
                  | none => Permission.without 0o666 m.mask
                set { m with files := files.setMode place mode }

def modeText (mode : Nat) : Octets :=
  Permission.digits 4 mode ++ " (".toList ++ Permission.letters mode ++ [')']

def chmodAt (options : Options) (change : Permission.Change) (path : Octets) (place : Place) :
    Act Unit := do
  let m ← get
  let isDirectory := match m.files.get? place with
    | some .directory => true
    | _ => false
  let old := m.files.mode place
  let new := change.apply m.mask isDirectory old
  set { m with files := m.files.setMode place new }
  let front := "mode of ".toList ++ shellQuoted path
  if old != new && (options.has 'v' || options.has 'c') then
    print (front ++ " changed from ".toList ++ modeText old ++ " to ".toList ++ modeText new ++
      ['\n'])
  else if old == new && options.has 'v' then
    print (front ++ " retained as ".toList ++ modeText new ++ ['\n'])

def chmodWords : List Octets → List Octets × List Octets
  | [] => ([], [])
  | word :: words =>
    let (options, operands) := chmodWords words
    match word with
    | ['-', '-'] => ([], words)
    | '-' :: '-' :: _ => (word :: options, operands)
    | '-' :: c :: _ => if "Rvcf".toList.contains c then (word :: options, operands)
      else (options, word :: operands)
    | _ => (options, word :: operands)

def chmod : Tool := fun name arguments => do
  finish 0
  let flags := plainFlags "Rvcf" ++ [⟨'R', "recursive", false⟩, ⟨'v', "verbose", false⟩,
    ⟨'c', "changes", false⟩, ⟨'f', "silent", false⟩, ⟨'f', "quiet", false⟩,
    ⟨'=', "reference", true⟩]
  let (words, operands) := chmodWords arguments
  match readOptions false flags (words.length + 1) words with
  | .error text => misuse 1 name text
  | .ok (options, _) => do
    let m ← get
    let (change, operands) ← match options.value? '=' with
      | some path => do
        match m.status? path, m.files.locate (m.route path) with
        | .ok _, .ok place =>
          pure (some (Permission.Change.number (m.files.mode place) true), operands)
        | .error fault, _ | _, .error fault => do
          fail 1 name ("failed to get attributes of ".toList ++ shellQuoted path ++
            ": ".toList ++ faultText fault)
          return
      | none => pure ((operands.head?.bind Permission.readChange?), operands.drop 1)
    match change, operands with
    | none, _ =>
      match words, arguments.filter fun word => !words.contains word with
      | _, [] => misuse 1 name "missing operand".toList
      | _, [mode] => misuse 1 name ("missing operand after ".toList ++ inQuotes mode)
      | _, mode :: _ => misuse 1 name ("invalid mode: ".toList ++ inQuotes mode)
    | some _, [] =>
      match arguments.getLast? with
      | some mode => misuse 1 name ("missing operand after ".toList ++ inQuotes mode)
      | none => misuse 1 name "missing operand".toList
    | some change, paths =>
      paths.forM fun path => do
        let m ← get
        match m.status? path, m.files.locate (m.route path) with
        | .ok _, .ok place => do
          chmodAt options change path place
          if options.has 'R' then
            let names := (m.files.below place).filterMap fun entry => match entry.2 with
              | .link _ => none
              | _ => some entry.1
            names.forM fun names =>
              chmodAt options change (path ++ '/' :: octets ("/".intercalate names))
                (place ++ names)
        | .error fault, _ | _, .error fault =>
          if options.has 'f' then finish 1
          else if (look m false path).isOk && fault.isAbsence then
            fail 1 name ("cannot operate on dangling symlink ".toList ++ shellQuoted path)
          else fail 1 name ("cannot access ".toList ++ shellQuoted path ++ ": ".toList ++
            faultText fault)
          if options.has 'v' then
            print (shellQuoted path ++ " could not be accessed\n".toList)

/-! ## Where paths lead -/

inductive Existence where
  | none
  | parents
  | all
  deriving DecidableEq

def canonical (m : Machine) (existence : Existence) (path : Octets) : Except FileFault Place :=
  if path.isEmpty then .error .notFound
  else
    match existence with
    | .none => .ok (resolved m path)
    | .parents =>
      match m.files.locate (m.route path) with
      | .ok place =>
        match m.files.get? place with
        | some .directory | none => .ok place
        | some _ => if path.getLast? = some '/' then .error .notADirectory else .ok place
      | .error fault => .error fault
    | .all => (look m true path).map Found.place

def existenceOf (options : Options) (usual : Existence) : Existence :=
  match options.last? "efm" with
  | some 'e' => .all
  | some 'm' => .none
  | some _ => .parents
  | none => usual

def readlink : Tool :=
  withOptions false
    [⟨'f', "canonicalize", false⟩, ⟨'e', "canonicalize-existing", false⟩,
      ⟨'m', "canonicalize-missing", false⟩, ⟨'n', "no-newline", false⟩, ⟨'q', "quiet", false⟩,
      ⟨'s', "silent", false⟩, ⟨'v', "verbose", false⟩, ⟨'z', "zero", false⟩] 1
    fun name options operands => do
      withOperands 1 1 none name operands do
        let isBare := options.has 'n' && operands.length = 1
        if options.has 'n' && !isBare then
          report name "ignoring --no-newline with multiple arguments".toList
        let ending : Octets := if isBare then [] else if options.has 'z' then ['\x00'] else ['\n']
        operands.forM fun path => do
          let m ← get
          let found : Except Octets Octets :=
            if (options.last? "efm").isSome then
              match canonical m (existenceOf options .parents) path with
              | .ok place => .ok (Machine.directoryText place)
              | .error fault => .error (faultText fault)
            else
              match look m false path with
              | .ok ⟨_, .link target⟩ => .ok (octets target)
              | .ok _ => .error "Invalid argument".toList
              | .error fault => .error (faultText fault)
          match found with
          | .ok text => print (text ++ ending)
          | .error reason =>
            if options.last? "vqs" == some 'v' then
              fail 1 name (quotedIfPeculiar path ++ ": ".toList ++ reason)
            else finish 1

def isWithin (directory place : Place) : Bool := directory.isPrefixOf place

def namedPlace (m : Machine) (path : Octets) : Place :=
  FileTree.collapse (m.route path).names

def realpath : Tool :=
  withOptions false
    [⟨'e', "canonicalize-existing", false⟩, ⟨'m', "canonicalize-missing", false⟩,
      ⟨'L', "logical", false⟩, ⟨'P', "physical", false⟩, ⟨'q', "quiet", false⟩,
      ⟨'t', "relative-to", true⟩, ⟨'b', "relative-base", true⟩, ⟨'s', "strip", false⟩,
      ⟨'s', "no-symlinks", false⟩, ⟨'z', "zero", false⟩] 1
    fun name options operands => do
      withOperands 1 1 none name operands do
        let m ← get
        let existence := existenceOf options .parents
        let place (path : Octets) : Except FileFault Place :=
          match options.last? "LPs" with
          | some 's' | some 'L' =>
            if path.isEmpty then .error .notFound
            else
              let place := namedPlace m path
              if existence = .none then .ok place
              else (canonical m existence path).map fun _ =>
                if options.last? "LPs" = some 'L' then resolved m (Machine.directoryText place)
                else place
          | _ => canonical m existence path
        let directory (letter : Char) : Act (Option (Option Place)) := do
          match options.value? letter with
          | none => return some none
          | some path =>
            match place path with
            | .error fault => do
              fail 1 name (about path fault)
              return none
            | .ok found =>
              if existence = .all && !(m.files.get? found matches some .directory) then
                fail 1 name (about path .notADirectory)
                return none
              return some (some found)
        let some start ← directory 't' | return
        let some base ← directory 'b' | return
        let ending : Octets := if options.has 'z' then ['\x00'] else ['\n']
        operands.forM fun path =>
          match place path with
          | .error fault => if options.has 'q' then finish 1 else fail 1 name (about path fault)
          | .ok place =>
            let start := match start, base with
              | some start, some base => if isWithin base start then some start else none
              | start, base => start.or base
            let shown := match start with
              | some start =>
                if isWithin (base.getD []) place then wayFrom start place
                else Machine.directoryText place
              | none => Machine.directoryText place
            print (shown ++ ending)

end NextRelease.Shell.Tool
