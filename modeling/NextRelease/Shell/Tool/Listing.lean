import NextRelease.Shell.Pattern
import NextRelease.Shell.Tool.Date
import NextRelease.Shell.Tool.Sort
import NextRelease.Shell.Tool.Status
import NextRelease.Shell.Octets

/-!
Lists of the files in directories: names alone, one below the other or in columns, or lines that
tell more of each file.
-/

namespace NextRelease.Shell.Tool

def humanSize (base : Nat) (size : Nat) : Octets :=
  if size < base then natText size
  else
    let power := ((List.range 6).filter fun k => Nat.pow base (k + 1) ≤ size).length
    let unit := Nat.pow base power
    let tenths := (size * 10 + unit - 1) / unit
    let letters := if base = 1000 then "kMGTPE".toList else "KMGTPE".toList
    let letter (power : Nat) : Octets := (letters[power - 1]?).toList
    if tenths < 100 then
      natText (tenths / 10) ++ '.' :: natText (tenths % 10) ++ letter power
    else
      let whole := (size + unit - 1) / unit
      if whole < base then natText whole ++ letter power
      else "1.0".toList ++ letter (power + 1)

namespace Listing

structure Entry where
  name : Octets
  place : Place
  status : Status

inductive Form where
  | long
  | single
  | columns
  | rows
  | commas
  deriving DecidableEq

def formOf (options : Options) : Form :=
  options.foldl
    (fun form option =>
      match option.1 with
      | 'l' | 'g' | 'n' | 'o' => .long
      | '1' => if form = .long then .long else .single
      | 'C' => .columns
      | 'x' => .rows
      | 'm' => .commas
      | _ => form)
    .single

def kindMark (options : Options) (s : Status) : Octets :=
  let last := options.last? "Fp\x14\x13"
  let showsTypes := last == some 'F' || last == some '\x14'
  match s.letter with
  | 'd' => if showsTypes || last == some 'p' then ['/'] else []
  | 'l' => if showsTypes && formOf options != .long then ['@'] else []
  | 'p' => if showsTypes then ['|'] else []
  | '-' => if last == some 'F' && (s.mode &&& 0o111) != 0 then ['*'] else []
  | _ => []

inductive Quoting where
  | literal
  | shell (always escapes : Bool)
  | double
  | bare
  | locale

def quotings : List (List String × Quoting) :=
  [(["literal"], .literal), (["shell"], .shell false false), (["shell-always"], .shell true false),
    (["shell-escape"], .shell false true), (["shell-escape-always"], .shell true true),
    (["c"], .double), (["c-maybe"], .double), (["escape"], .bare), (["locale"], .locale),
    (["clocale"], .locale)]

def quotingOf (options : Options) : Quoting :=
  options.foldl
    (fun quoting option =>
      match option.1 with
      | 'Q' => .double
      | 'b' => .bare
      | 'N' => .literal
      | '\x0f' =>
        ((quotings.find? fun one => one.1.any fun word => option.2.isPrefixOf word.toList).map
          (·.2)).getD quoting
      | _ => quoting)
    .literal

def plainlyQuoted (name : Octets) : Octets :=
  if name.contains '\x27' && !(name.any fun c => "\"$\\".toList.contains c || isBackquote c) then
    ['\x22'] ++ name ++ ['\x22']
  else
    ['\x27'] ++ (name.flatMap fun c => if c = '\x27' then "'\\''".toList else [c]) ++ ['\x27']

def shownName (options : Options) (name : Octets) : Octets :=
  match quotingOf options with
  | .literal =>
    if options.has 'q' then name.map fun c => if (hiddenEscape? c).isSome then '?' else c else name
  | .shell true true => shellQuoted name
  | .shell false true => quotedIfPeculiar name
  | .shell true false => plainlyQuoted name
  | .shell false false => if quotedIfPeculiar name = name then name else plainlyQuoted name
  | .double =>
    ['\x22'] ++ (name.flatMap fun c =>
      if c = '\x22' || c = '\\' then ['\\', c] else (hiddenEscape? c).getD [c]) ++ ['\x22']
  | .bare =>
    name.flatMap fun c =>
      if c = ' ' || c = '\\' then ['\\', c] else (hiddenEscape? c).getD [c]
  | .locale => inQuotes name

def movesNames (options : Options) (names : List Octets) : Bool :=
  match quotingOf options, formOf options with
  | .shell false _, .long | .shell false _, .columns | .shell false _, .rows =>
    names.any fun name => shownName options name != name
  | _, _ => false

def shownAmong (options : Options) (moves : Bool) (name : Octets) : Octets :=
  let text := shownName options name
  if moves && text = name then ' ' :: text else text

def unitOf? (options : Options) : Option (Nat × Octets) :=
  (options.value? '\x12').bind fun text =>
    let digits := text.takeWhile Char.isDigit
    (count? text).map fun unit => (unit, if digits.isEmpty then text else [])

def shownSize (options : Options) (size : Nat) : Octets :=
  if options.has 'h' then humanSize 1024 size
  else if options.has '\x0e' then humanSize 1000 size
  else
    match unitOf? options with
    | some (unit, more) => natText ((size + unit - 1) / unit) ++ more
    | none => natText size

def shownBlocks (options : Options) (blocks : Nat) : Octets :=
  if options.has 'h' || options.has '\x0e' || (unitOf? options).isSome then
    shownSize options (blocks * 512)
  else natText (blocks / 2)

def numberText (s : Status) (options : Options) : Octets :=
  match s.node with
  | .device .pipe => shownSize options 0
  | .device _ => natText s.deviceNumber.1 ++ ", ".toList ++ natText s.deviceNumber.2
  | _ => shownSize options s.size

def widest (texts : List Octets) : Nat := (texts.map List.length).foldl max 0

def fronts (options : Options) (entries : List Entry) : List Octets :=
  let nodes := entries.map fun entry =>
    natText (100000 + ((entry.place.flatMap String.toList).foldl (fun n c => n + c.toNat) 0))
  let blocks := entries.map fun entry => shownBlocks options entry.status.blocks
  let column (isShown : Bool) (texts : List Octets) : List Octets :=
    texts.map fun text => if isShown then padLeft (widest texts) text ++ [' '] else []
  let contexts := entries.map fun _ =>
    if options.has 'Z' && formOf options != .long then "? ".toList else []
  List.zipWith (· ++ ·) (column (options.has 'i') nodes)
    (List.zipWith (· ++ ·) (column (options.has 's') blocks) contexts)

def timeText (m : Machine) (options : Options) (s : Status) : Octets :=
  let time := if options.has 'u' then s.times.read
    else if options.has 'c' then m.files.now else s.times.changed
  let moment := (momentOf time).inZone (zoneOf m)
  let halfYear : Int := 15778476000000000
  let isRecent := m.files.now - halfYear < time && time ≤ m.files.now
  match options.value? '\x05' with
  | some ('+' :: format) =>
    let formats := Text.splitOn '\n' format
    moment.text ((if isRecent then formats[1]?.or formats[0]? else formats[0]?).getD [])
  | style =>
    let style := (style.map String.ofList).getD "locale"
    if style = "full-iso" then fullTime m time
    else if style = "long-iso" then moment.text "%Y-%m-%d %H:%M".toList
    else if style = "iso" then
      moment.text (if isRecent then "%m-%d %H:%M" else "%Y-%m-%d ").toList
    else moment.text (if isRecent then "%b %e %H:%M" else "%b %e  %Y").toList

/-- Lines that tell all of some files. -/
def longLines (m : Machine) (options : Options) (entries : List Entry) : List Octets :=
  let links := entries.map fun entry => natText entry.status.links
  let sizes := entries.map fun entry => numberText entry.status options
  let owner := if options.has 'n' then ['0'] else "root".toList
  let owners := (if options.has 'g' then [] else ' ' :: owner) ++
    (if options.has 'o' || options.has 'G' then [] else ' ' :: owner) ++
    (if options.has '\x11' then ' ' :: owner else []) ++
    (if options.has 'Z' then " ?".toList else [])
  let moves := movesNames options (entries.map Entry.name)
  entries.map fun entry =>
    let target := match entry.status.target? with
      | some target =>
        let found := (m.files.locate (Route.ofNames entry.place)).toOption.bind (statusAt? m)
        let mark := (found.map (kindMark options)).getD []
        " -> ".toList ++ shownName options target ++ mark
      | none => []
    entry.status.letters ++ ' ' :: padLeft (widest links) (natText entry.status.links) ++ owners ++
      ' ' :: padLeft (widest sizes) (numberText entry.status options) ++
        ' ' :: timeText m options entry.status ++
      ' ' :: shownAmong options moves entry.name ++ kindMark options entry.status ++ target

/-! ## Columns -/

def columnWidths (acrossRows : Bool) (lengths : List Nat) (count : Nat) : List Nat :=
  let rows := (lengths.length + count - 1) / count
  let column (i : Nat) : Nat := if acrossRows then i % count else i / rows
  (List.range count).map fun c =>
    ((lengths.zipIdx.filter fun e => column e.2 == c).map fun e =>
      e.1 + if c + 1 = count then 0 else 2).foldl max 0

def gap : (fuel : Nat) → (start goal : Nat) → Octets
  | 0, _, _ => []
  | fuel + 1, start, goal =>
    if goal ≤ start then []
    else if (start + 1) / 8 < goal / 8 then '\t' :: gap fuel (start + 8 - start % 8) goal
    else ' ' :: gap fuel (start + 1) goal

def rowText : (start : Nat) → List (Octets × Nat) → Octets
  | _, [] => []
  | _, [(text, _)] => text
  | start, (text, width) :: rest =>
    text ++ gap (width + 1) (start + text.length) (start + width) ++ rowText (start + width) rest

def inColumns (acrossRows : Bool) (lineWidth : Nat) (texts : List Octets) : List Octets :=
  let lengths := texts.map List.length
  let most := min texts.length (max 1 (lineWidth / 3))
  let fits (count : Nat) : Bool :=
    ((columnWidths acrossRows lengths count).map (max 3)).foldl (· + ·) 0 < lineWidth
  let count := ((List.range most).map (· + 1)).foldl
    (fun best count => if fits count then count else best) 1
  let widths := (columnWidths acrossRows lengths count).map (max 3)
  let rows := (texts.length + count - 1) / count
  (List.range rows).map fun row =>
    let chosen := (List.range count).filterMap fun column =>
      let i := if acrossRows then row * count + column else column * rows + row
      (texts[i]?).map fun text => (text, widths[column]?.getD 0)
    rowText 0 chosen

def withCommas (lineWidth : Nat) : (used : Nat) → List Octets → Octets
  | _, [] => []
  | _, [text] => text
  | used, text :: next :: rest =>
    let used := used + text.length
    let stays := used + next.length + 2 < lineWidth
    text ++ ',' :: (if stays then ' ' else '\n') ::
      withCommas lineWidth (if stays then used + 2 else 0) (next :: rest)

def shown (m : Machine) (options : Options) (entries : List Entry) : Octets :=
  let ending := if options.has '\x04' then '\x00' else '\n'
  let form := formOf options
  let moves := movesNames options (entries.map Entry.name)
  let plain :=
    entries.map fun entry => shownAmong options moves entry.name ++ kindMark options entry.status
  let lines := List.zipWith (· ++ ·) (fronts options entries)
    (if form = .long then longLines m options entries else plain)
  let width := match options.value? 'w' with
    | some text => if readNat text = 0 then 100000 else readNat text
    | none => 80
  match form with
  | .long | .single => lines.flatMap (· ++ [ending])
  | .columns => (inColumns false width lines).flatMap (· ++ [ending])
  | .rows => (inColumns true width lines).flatMap (· ++ [ending])
  | .commas => if lines.isEmpty then [] else withCommas width 0 lines ++ [ending]

/-! ## Order -/

def extensionOf (name : Octets) : Octets :=
  let back := name.reverse.takeWhile (· != '.')
  if back.length = name.length then [] else '.' :: back.reverse

def sorted (options : Options) (entries : List Entry) : List Entry :=
  let byName (a b : Entry) : Ordering := Ord.compare a.name b.name
  let time (entry : Entry) : Int :=
    if options.has 'u' then entry.status.times.read else entry.status.times.changed
  let order (a b : Entry) : Ordering :=
    match options.last? "SXvtUf\x19" with
    | some 'S' => (Ord.compare b.status.size a.status.size).then (byName a b)
    | some 'X' => (Ord.compare (extensionOf a.name) (extensionOf b.name)).then (byName a b)
    | some 'v' => compareVersions a.name b.name
    | some 't' => (Ord.compare (time b) (time a)).then (byName a b)
    | some 'U' | some 'f' => .eq
    | some '\x19' =>
      (Ord.compare (Wide.ofOctets a.name).length (Wide.ofOctets b.name).length).then (byName a b)
    | _ => byName a b
  let ordered := entries.mergeSort fun a b => (order a b).isLE
  let ordered := if options.has 'r' && (options.last? "SXvtUf" != some 'U') then ordered.reverse
    else ordered
  if options.has '\x03' then
    let isDirectory (entry : Entry) : Bool := entry.status.letter == 'd'
    ordered.filter isDirectory ++ ordered.filter fun entry => !isDirectory entry
  else ordered

def isHidden (options : Options) (name : Octets) : Bool :=
  let matchesAny (patterns : List Octets) : Bool :=
    patterns.any fun pattern => matchesPattern (marked false pattern) name
  let all := options.has 'a' || options.has 'A' || options.has 'f'
  (!all && name.head? == some '.') || (options.has 'B' && name.getLast? == some '~') ||
    matchesAny (options.values 'I') || (!all && matchesAny (options.values '\x01'))

def entriesIn (m : Machine) (options : Options) (place : Place) : List Entry :=
  let names := (m.files.below place).filterMap fun entry =>
    match entry.1 with
    | [name] => some (octets name)
    | _ => none
  let inner := (names.filter fun name => !isHidden options name).filterMap fun name =>
    let place := place ++ [textOf name]
    let followed := if options.has 'L' then
        (m.files.locate (Route.ofNames place)).toOption.getD place
      else place
    (statusAt? m followed).or (statusAt? m place) |>.map fun status => ⟨name, place, status⟩
  let dots := if options.has 'a' || options.has 'f' then
      [(['.'], place), (['.', '.'], place.dropLast)].filterMap fun dot =>
        (statusAt? m dot.2).map fun status => (⟨dot.1, dot.2, status⟩ : Entry)
    else []
  sorted options (dots ++ inner)

def directoryText (m : Machine) (options : Options) (deep : Bool) :
    (fuel : Nat) → (path : Octets) → Place → Octets
  | 0, _, _ => []
  | fuel + 1, path, place =>
    let entries := entriesIn m options place
    let total := if formOf options = .long || options.has 's' then
        let blocks := (entries.map fun entry => entry.status.blocks).foldl (· + ·) 0
        "total ".toList ++ shownBlocks options blocks ++ ['\n']
      else []
    let inner := if !deep then [] else entries.flatMap fun entry =>
      let isDot := entry.name == ['.'] || entry.name == ['.', '.']
      if isDot || entry.status.letter != 'd' then []
      else
        let path := (if path.getLast? == some '/' then path else path ++ ['/']) ++ entry.name
        '\n' :: shownName options path ++ [':', '\n'] ++ directoryText m options deep fuel path entry.place
    total ++ shown m options entries ++ inner

def flags : List Flag :=
  plainFlags "1bcCdDfFghHiklLmnNopqQrRsStuUvxXZ" ++
    [⟨'a', "all", false⟩, ⟨'A', "almost-all", false⟩, ⟨'b', "escape", false⟩,
      ⟨'B', "ignore-backups", false⟩, ⟨'d', "directory", false⟩, ⟨'F', "classify", .maybe⟩,
      ⟨'G', "no-group", false⟩, ⟨'h', "human-readable", false⟩, ⟨'\x0e', "si", false⟩,
      ⟨'H', "dereference-command-line", false⟩, ⟨'i', "inode", false⟩, ⟨'I', "ignore", true⟩,
      ⟨'\x01', "hide", true⟩, ⟨'L', "dereference", false⟩, ⟨'n', "numeric-uid-gid", false⟩,
      ⟨'N', "literal", false⟩, ⟨'Q', "quote-name", false⟩, ⟨'r', "reverse", false⟩,
      ⟨'R', "recursive", false⟩, ⟨'s', "size", false⟩, ⟨'\x02', "full-time", false⟩,
      ⟨'w', "width", true⟩, ⟨'\x03', "group-directories-first", false⟩,
      ⟨'\x04', "zero", false⟩, ⟨'\x05', "time-style", true⟩, ⟨'\x06', "sort", true⟩,
      ⟨'q', "hide-control-chars", false⟩, ⟨'\x10', "show-control-chars", false⟩,
      ⟨'k', "kibibytes", false⟩, ⟨'\x0f', "quoting-style", true⟩, ⟨'\x11', "author", false⟩,
      ⟨'\x12', "block-size", true⟩, ⟨'\x13', "indicator-style", true⟩,
      ⟨'\x14', "file-type", false⟩, ⟨'\x15', "format", true⟩, ⟨'\x16', "time", true⟩,
      ⟨'T', "tabsize", true⟩, ⟨'D', "dired", false⟩, ⟨'\x17', "color", .maybe⟩,
      ⟨'Z', "context", false⟩]

def wordMeanings : Char → List (List String × Options)
  | '\x06' =>
    [(["none"], [('U', [])]), (["time"], [('t', [])]), (["size"], [('S', [])]),
      (["extension"], [('X', [])]), (["version"], [('v', [])]), (["width"], [('\x19', [])])]
  | '\x16' =>
    [(["atime", "access", "use"], [('u', [])]), (["ctime", "status"], [('c', [])]),
      (["birth", "creation"], [])]
  | '\x15' =>
    [(["verbose", "long"], [('l', [])]), (["commas"], [('m', [])]),
      (["horizontal", "across"], [('x', [])]), (["vertical"], [('C', [])]),
      (["single-column"], [('1', [])])]
  | '\x13' =>
    [(["none"], [('\x13', [])]), (["slash"], [('p', [])]), (["file-type"], [('\x14', [])]),
      (["classify"], [('F', [])])]
  | '\x17' => [(["always", "yes", "force"], []), (["never", "no", "none"], []),
      (["auto", "tty", "if-tty"], [])]
  | _ => []

/-- Puts other options in the places of those that stand for them; `none` if a word stands for
nothing. -/
def plainOptions (name : Octets) (options : Options) : Act (Option Options) := do
  let plain ← options.mapM fun option => do
    match option.1, wordMeanings option.1 with
    | '\x02', _ => return some [('l', []), ('\x05', "full-iso".toList)]
    | '\x0f', _ => do
      let chosen ← choose 2 name (octets "‘--quoting-style’") quotings option.2
      return chosen.map fun _ => [option]
    | 'f', _ => return some [('f', []), ('a', []), ('U', [])]
    | '\x17', meanings =>
      if option.2.isEmpty then return some []
      else choose 2 name (octets "‘--color’") meanings option.2
    | _, [] => return some [option]
    | letter, meanings => do
      let subject := match letter with
        | '\x06' => "‘--sort’"
        | '\x16' => "‘--time’"
        | '\x15' => "‘--format’"
        | _ => "‘--indicator-style’"
      choose 2 name (octets subject) meanings option.2
  return (plain.mapM id).map List.flatten

end Listing

/-- Lists files, with some options in front of those of the call. -/
def listing (usual : Options) : Tool := fun name arguments =>
  withOptions false Listing.flags 2
    (fun name options operands => do
      let some options ← Listing.plainOptions name options | return
      let options := usual ++ options
      let m ← get
      let paths := if operands.isEmpty then [['.']] else operands
      let refuse (path : Octets) (fault : FileFault) : Act (Option (Listing.Entry × Bool)) := do
        fail 2 name ("cannot access ".toList ++ shellQuoted path ++ ": ".toList ++ faultText fault)
        return none
      /- A link to a directory is listed itself where more is told of it than its name. -/
      let keepsLinks := (Listing.formOf options = .long || options.has 'd' || options.has 'F') &&
        !options.has 'L' && !options.has 'H'
      let found ← paths.filterMapM fun path => do
        let own := statusOf m false path
        let followed := statusOf m true path
        let entry (s : Status) : Listing.Entry :=
          let place := if s.letter == 'l' then m.entry path else m.files.locate (m.route path)
          ⟨path, place.toOption.getD [], s⟩
        match own, followed with
        | .error fault, _ => refuse path fault
        | .ok own, .error fault =>
          if options.has 'L' || options.has 'H' || own.letter != 'l' ||
              (fault != .notFound && !keepsLinks) then refuse path fault
          else return some (entry own, false)
        | .ok own, .ok followed =>
          let isListed := followed.letter == 'd' && !options.has 'd' &&
            !(own.letter == 'l' && keepsLinks)
          return some (entry (if options.has 'L' || options.has 'H' || isListed then followed else own),
            isListed)
      let named (isListed : Bool) : List Listing.Entry :=
        Listing.sorted options ((found.filter fun entry => entry.2 == isListed).map (·.1))
      let (files, directories) := (named false, named true)
      if !files.isEmpty then print (Listing.shown m options files)
      let hasHeads := 1 < paths.length || options.has 'R'
      let _ ← directories.foldlM
        (fun (isFirst : Bool) entry => do
          let head := if hasHeads then Listing.shownName options entry.name ++ [':', '\n'] else []
          print ((if isFirst then [] else ['\n']) ++ head ++
            Listing.directoryText m options (options.has 'R') 64 entry.name entry.place)
          return false)
        files.isEmpty)
    name arguments

def ls : Tool := listing []

def dir : Tool := listing [('C', []), ('b', [])]

def vdir : Tool := listing [('l', []), ('b', [])]

end NextRelease.Shell.Tool
