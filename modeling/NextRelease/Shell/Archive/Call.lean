import NextRelease.Shell.Archive.Search

/-!
The call of the archiver: its options, which may stand in a first word without a hyphen, and what
they ask for.
-/

namespace NextRelease.Shell.Archive

open Tool

/-! ## Options -/

def plainNames : List (Char × String) :=
  [('A', "catenate"), ('A', "concatenate"), ('c', "create"), ('d', "diff"), ('d', "compare"),
    ('\x01', "delete"), ('r', "append"), ('t', "list"), ('u', "update"), ('x', "extract"),
    ('x', "get"), ('v', "verbose"), ('z', "gzip"), ('z', "gunzip"), ('z', "ungzip"),
    ('j', "bzip2"), ('J', "xz"), ('Z', "compress"), ('Z', "uncompress"), ('a', "auto-compress"),
    ('O', "to-stdout"), ('k', "keep-old-files"), ('\x02', "skip-old-files"),
    ('\x03', "keep-newer-files"), ('\x06', "wildcards"), ('\x0e', "no-wildcards"),
    ('\x0f', "no-recursion"), ('\x10', "recursion"), ('P', "absolute-names"),
    ('h', "dereference"), ('p', "preserve-permissions"), ('p', "same-permissions"),
    ('m', "touch"), ('\x11', "remove-files"), ('\x16', "numeric-owner"), ('\x19', "full-time"),
    ('\x1a', "show-transformed-names"), ('\x1a', "show-stored-names"), ('i', "ignore-zeros"),
    ('\x1c', "null"), ('\x1d', "no-null"), ('\x1e', "anchored"), ('\x1f', "no-anchored"),
    ('\x7f', "overwrite"), ('U', "unlink-first"), ('\x7f', "recursive-unlink"),
    ('\x7f', "overwrite-dir"), ('\x7f', "no-overwrite-dir"), ('W', "verify"),
    ('o', "no-same-owner"), ('\x7f', "same-owner"), ('\u0080', "no-same-permissions"),
    ('S', "sparse"), ('\x7f', "sparse-version"), ('s', "preserve-order"),
    ('B', "read-full-records"), ('n', "seek"), ('\x7f', "no-seek"), ('G', "incremental"),
    ('l', "check-links"), ('\x7f', "hard-dereference"), ('\x7f', "one-file-system"),
    ('\x7f', "acls"), ('\x7f', "no-acls"), ('\x7f', "selinux"), ('\x7f', "no-selinux"),
    ('\x7f', "xattrs"), ('\x7f', "no-xattrs"), ('\x7f', "delay-directory-restore"),
    ('\x7f', "no-delay-directory-restore"), ('\x7f', "ignore-case"),
    ('\x7f', "no-ignore-case"), ('\x7f', "wildcards-match-slash"), ('\x7f', "utc"),
    ('\x7f', "no-check-device"), ('\x7f', "check-device"), ('\x7f', "force-local"),
    ('\x7f', "ignore-failed-read"), ('\x7f', "keep-directory-symlink"),
    ('\x7f', "verbatim-files-from"), ('\x7f', "no-verbatim-files-from"),
    ('\u0081', "exclude-vcs"), ('\u0082', "exclude-backups"), ('\u0083', "no-auto-compress"),
    ('\u0084', "zstd"), ('\u0085', "lzma"), ('\u0086', "lzip"), ('\u0087', "lzop"),
    ('\u0088', "posix"), ('\u0088', "old-archive"), ('\u0088', "portability")]

def valueNames : List (Char × String) :=
  [('f', "file"), ('C', "directory"), ('\x04', "strip-components"), ('\x05', "exclude"),
    ('X', "exclude-from"), ('T', "files-from"), ('\x12', "owner"), ('\x13', "group"),
    ('\x14', "mode"), ('\x15', "mtime"), ('\x17', "sort"), ('\x18', "transform"),
    ('\x18', "xform"), ('b', "blocking-factor"), ('H', "format"), ('I', "use-compress-program"),
    ('\u0090', "add-file"), ('\u0091', "warning"), ('\u0091', "record-size"),
    ('V', "label"), ('\u0092', "quoting-style"), ('\u0091', "checkpoint-action")]

def flags : List Flag :=
  plainNames.map (fun (letter, name) => ⟨letter, name, .never⟩) ++
    valueNames.map (fun (letter, name) => ⟨letter, name, .always⟩) ++
    [⟨'\x1b', "one-top-level", .maybe⟩]

def operand : Char := '\x00'

def readSteps : (fuel : Nat) → List Octets → Except Octets Options
  | 0, _ => .ok []
  | _, [] => .ok []
  | fuel + 1, word :: words => do
    let goOn (read : Options × List Octets) : Except Octets Options := do
      return read.1 ++ (← readSteps fuel read.2)
    match word with
    | ['-', '-'] => return words.map fun word => (operand, word)
    | '-' :: '-' :: name => goOn (← Tool.readName flags name words)
    | '-' :: c :: cs => goOn (← readLetters flags words (c :: cs))
    | _ => goOn ([(operand, word)], words)

def spreadLetters : Octets → List Octets → Except Octets (List Octets)
  | [], words => .ok words
  | c :: cs, words => do
    let takesValue := flags.any fun flag => flag.letter == c && flag.takesValue = .always
    match takesValue, words with
    | false, _ => return ['-', c] :: (← spreadLetters cs words)
    | true, value :: words => return ['-', c] :: value :: (← spreadLetters cs words)
    | true, [] => throw ("Old option '".toList ++ [c] ++ "' requires an argument.".toList)

/-! ## What options ask for -/

def listedNames (endsInZero : Bool) (text : Octets) : List Octets :=
  let ending := if endsInZero then '\x00' else '\n'
  (Text.splitOn ending text).filter (!·.isEmpty)

def ownerOf (text : Octets) : Job Owner := do
  let (front, back) := Text.cut ':' text
  let bare := if front.head? == some '+' then front.drop 1 else front
  match back with
  | some digits =>
    if isNumber digits then return ⟨readNat digits, front⟩
    else fatal (escaped true digits ++ ": Invalid owner or group ID".toList)
  | none =>
    if isNumber bare then
      return ⟨readNat bare, if readNat bare = 0 then "root".toList else []⟩
    else return ⟨0, front⟩

def changeOf? (text : Octets) : Option Change :=
  let isScope (c : Char) : Bool := "rRsShHx".toList.contains c
  let letters := (text.reverse.takeWhile fun c => c.isAlphanum).reverse
  let isScoped := letters.any isScope && text.getLast? != some ';' &&
    (text[1]?).any fun delimiter => text[text.length - letters.length - 1]? == some delimiter
  let front := if isScoped then text.take (text.length - letters.length) else text
  let letters := if isScoped then letters else []
  let source := front ++ letters.filter fun c => !isScope c
  let style : Edit.Style := { isExtended := letters.contains 'x', isConfined := true }
  match (Edit.readScript style [{ text := source }]).1 with
  | .error _ => none
  | .ok reading =>
    let areSubstitutions := reading.commands.all fun command =>
      command.action matches .substitute _
    if !areSubstitutions || reading.commands.isEmpty then none
    else
      some
        { commands := reading.commands
          forNames := !letters.contains 'R'
          forLinks := !letters.contains 'S'
          forTwins := !letters.contains 'H' }

def versionPatterns : List String :=
  ["CVS", ".cvsignore", "RCS", "SCCS", ".git", ".gitignore", ".gitattributes", ".gitmodules",
    ".svn", ".arch-ids", "\x7barch\x7d", "=RELEASE-ID", "=meta-update", "=update", ".bzr",
    ".bzrignore", ".bzrtags", ".hg", ".hgignore", ".hgtags", "_darcs"]

def exclusionsOf (patterns : List String) : List Item :=
  patterns.map fun pattern => .exclusion ⟨pattern.toList, false⟩

def timeOf (text : Octets) : Job Int := do
  let m ← machine
  if text.head? == some '/' || text.head? == some '.' then
    match look m true text with
    | .ok found => return (m.files.timesAt found.place).changed / 1000000000
    | .error fault => fatal (escaped true text ++ ": Cannot stat: ".toList ++ faultText fault)
  else
    match TimeText.moment? (zoneOf m) (presentMoment m) text with
    | some moment => return moment.seconds
    | none => do
      say ("Substituting -9223372036854775807 for unknown date format ".toList ++ inQuotes text)
      return 0

def topOf (archive : Octets) : Octets :=
  let name := baseOf archive
  let endings := [".tar.gz", ".tar.bz2", ".tar.xz", ".tar", ".tgz", ".taz", ".tbz", ".txz"]
  match endings.find? fun ending => ending.toList.isSuffixOf name with
  | some ending => name.take (name.length - ending.length)
  | none => name

def withWork (r : Request) (work : Work) : Job Request := do
  if !r.works.isEmpty && !r.works.contains work then
    misuse ("You may not specify more than one '-Acdtrux', '--delete' or  '--test-label' " ++
      "option").toList
  return { r with works := [work] }

def numberOf (isRight : Nat → Bool) (value : Octets) (subject : String) : Job Nat := do
  if isNumber value && isRight (readNat value) then return readNat value
  else misuse (escaped true value ++ ": Invalid ".toList ++ subject.toList)

/-- Takes an option without a value into a request. -/
def takeFlag (s : Style) (r : Request) (letter : Char) : Job (Style × Request) := do
  let lacking (program : String) : Job (Style × Request) :=
    return (s, { r with lacks := some program })
  match letter with
  | 'A' => return (s, ← withWork r .join)
  | 'c' => return (s, ← withWork r .create)
  | 'd' => return (s, ← withWork r .compare)
  | '\x01' => return (s, ← withWork r .remove)
  | 'r' => return (s, ← withWork r .append)
  | 't' => return (s, ← withWork r .list)
  | 'u' => return (s, ← withWork r .update)
  | 'x' => return (s, ← withWork r .extract)
  | 'v' => return (s, { r with tells := r.tells + 1 })
  | 'z' => return (s, { r with packs := true })
  | 'a' => return (s, { r with packsByName := true })
  | 'j' => lacking "bzip2"
  | 'J' => lacking "xz"
  | 'Z' => lacking "compress"
  | '\u0084' => lacking "zstd"
  | '\u0085' => lacking "lzma"
  | '\u0086' => lacking "lzip"
  | '\u0087' => lacking "lzop"
  | 'O' => return (s, { r with prints := true })
  | 'k' => return (s, { r with inWay := .stays })
  | '\x02' => return (s, { r with inWay := .staysQuietly })
  | '\x03' => return (s, { r with inWay := .staysIfNewer })
  | '\x06' => return (s, { r with usesWildcards := true, knowsWildcards := true })
  | '\x0e' => return (s, { r with usesWildcards := false, knowsWildcards := true })
  | '\x0f' => return ({ s with isDeep := false }, { r with items := r.items ++ [.shallow] })
  | '\x10' => return ({ s with isDeep := true }, r)
  | 'P' => return (s, { r with keepsNames := true })
  | 'h' => return (s, { r with follows := true })
  | 'm' => return (s, { r with keepsTimes := false })
  | '\u0080' => return (s, { r with keepsModes := false })
  | '\x11' => return (s, { r with removes := true })
  | '\x16' => return (s, { r with usesNumbers := true })
  | '\x19' => return (s, { r with tellsSeconds := true })
  | '\x1a' => return (s, { r with showsChanged := true })
  | 'i' => return (s, { r with passesEmpty := true })
  | '\x1c' => return ({ s with endsInZero := true }, r)
  | '\x1d' => return ({ s with endsInZero := false }, r)
  | '\x1e' => return ({ s with isAnchored := some true }, { r with nameAnchored := true })
  | '\x1f' => return ({ s with isAnchored := some false }, { r with nameAnchored := false })
  | '\u0081' => return (s, { r with items := r.items ++ exclusionsOf versionPatterns })
  | '\u0082' => return (s, { r with items := r.items ++ exclusionsOf [".#*", "*~", "#*#"] })
  | _ => return (s, r)

def takeValue (s : Style) (r : Request) (letter : Char) (value : Octets) : Job Request := do
  let add (item : Item) : Request := { r with items := r.items ++ [item] }
  let exclusion (pattern : Octets) : Item := .exclusion ⟨pattern, s.isAnchored.getD false⟩
  match letter with
  | 'f' => return { r with archive := value }
  | 'C' => return add (.directory value)
  | '\u0090' => return { add (.name value s.isDeep) with namesFiles := true }
  | '\x04' => return { r with skipped := ← numberOf (fun _ => true) value "number of elements" }
  | '\x05' => return add (exclusion value)
  | 'X' =>
    match ← act (content value) with
    | .ok text => return { r with items := r.items ++ (listedNames false text).map exclusion }
    | .error fault => fatal (escaped true value ++ ": ".toList ++ fault.text)
  | 'T' =>
    match ← act (content value) with
    | .ok text =>
      let names := (listedNames s.endsInZero text).map fun name => Item.name name s.isDeep
      return { r with items := r.items ++ names, namesFiles := true }
    | .error fault => fatal (escaped true value ++ ": Cannot stat: ".toList ++ fault.text)
  | '\x12' => return { r with user := some (← ownerOf value) }
  | '\x13' => return { r with group := some (← ownerOf value) }
  | '\x14' =>
    match Permission.readChange? value with
    | some change => return { r with mode := some change }
    | none => fatal "Invalid mode given on option".toList
  | '\x15' => return { r with time := some (← timeOf value) }
  | '\x17' =>
    if ["none", "name", "inode"].any fun known => known.toList == value then return r
    else do
      say ("invalid argument ".toList ++ inQuotes value ++ " for ".toList ++
        inQuotes "--sort".toList)
      act (printError ("Valid arguments are:\n".toList ++
        ["none", "name", "inode"].flatMap fun word =>
          "  - ".toList ++ inQuotes word.toList ++ ['\n']))
      act (finish 2)
      throw ()
  | '\x18' =>
    match changeOf? value with
    | some change => return { r with changes := r.changes ++ [change] }
    | none => misuse "Invalid transform expression".toList
  | 'b' => return { r with blocking := ← numberOf (0 < ·) value "blocking factor" }
  | 'H' =>
    if ["gnu", "oldgnu", "pax", "posix", "ustar", "v7"].any fun known => known.toList == value then
      return r
    else misuse (escaped true value ++ ": Invalid archive format".toList)
  | 'I' =>
    let program := value.takeWhile (· != ' ')
    if baseOf program == "gzip".toList then return { r with packs := true }
    else return { r with lacks := some (textOf program) }
  | '\u0092' => return { r with quotes := value != "literal".toList }
  | _ => return r

def takeStep (state : Style × Request) (step : Char × Octets) : Job (Style × Request) := do
  let (s, r) := state
  let (letter, value) := step
  if letter = operand then
    return (s, { r with items := r.items ++ [.name value s.isDeep], namesFiles := true })
  else if letter = '\x1b' then return (s, { r with top := some value })
  else if valueNames.any fun one => one.1 == letter then return (s, ← takeValue s r letter value)
  else takeFlag s r letter

/-! ## Calls -/

def perform (r : Request) : Job Unit := do
  let r := if r.top == some [] then { r with top := some (topOf r.archive) } else r
  match r.works with
  | .create :: _ => create r
  | .append :: _ | .update :: _ => extend r
  | .join :: _ => join r
  | .remove :: _ => remove r
  | .list :: _ => search r (list r)
  | .extract :: _ => do
    search r (extract r)
    dressDirectories r
  | .compare :: _ => search r (compare r)
  | [] =>
    misuse ("You must specify one of the '-Acdtrux', '--delete' or '--test-label' " ++
      "options").toList

def run (arguments : List Octets) : Job Unit := do
  let words ← match arguments with
    | [] => pure []
    | word :: words =>
      if word.head? == some '-' || word.isEmpty then pure arguments
      else
        match spreadLetters word words with
        | .ok words => pure words
        | .error text => misuse text
  match readSteps (words.length + 1) words with
  | .error text => do
    say text
    act (printError hint)
    act (finish 64)
  | .ok steps => do
    let (_, r) ← steps.foldlM takeStep ({}, {})
    perform r

def call : Tool := fun _ arguments => do
  finish 0
  let (result, log) ← (run arguments).run.run {}
  if result.isOk && log.hasFailed then
    report "tar".toList "Exiting with failure status due to previous errors".toList
    finish 2

end NextRelease.Shell.Archive
