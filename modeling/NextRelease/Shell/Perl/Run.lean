import NextRelease.Shell.Perl.Module

/-!
Running scripts. An expression gives one value or a list of values, as its surroundings want it, or
the cell that can be assigned to. Every step takes fuel, of which there is more than any script uses
that ends.
-/

namespace NextRelease.Shell.Perl.Work

/-! ## Sorting -/

def mergeBy (isBehind : Nat → Nat → Work Bool) : (fuel : Nat) → List Nat → List Nat →
    Work (List Nat)
  | 0, as, bs => return as ++ bs
  | _, [], bs => return bs
  | _, as, [] => return as
  | fuel + 1, a :: as, b :: bs => do
    if ← isBehind a b then return b :: (← mergeBy isBehind fuel (a :: as) bs)
    else return a :: (← mergeBy isBehind fuel as (b :: bs))

def sortBy (isBehind : Nat → Nat → Work Bool) : (fuel : Nat) → List Nat → Work (List Nat)
  | 0, as => return as
  | _, [] => return []
  | _, [a] => return [a]
  | fuel + 1, as => do
    let half := as.length / 2
    let front ← sortBy isBehind fuel (as.take half)
    let back ← sortBy isBehind fuel (as.drop half)
    mergeBy isBehind (as.length + 1) front back

/-! ## Helpers of evaluation -/

def argumentsOf : List Expr → List Expr
  | [.list es] => es
  | es => es

def captured (text : Array Char) (count : Nat) (m : Match) : List Scalar :=
  (List.range count).map fun i =>
    match m.spans.lookup (i + 1) with
    | some (start, stop) => .text (text.extract start stop).toList
    | none => .undefined

def edgeOf (found : Option Found) (isStart : Bool) (number : Nat) : Scalar :=
  match found with
  | none => .undefined
  | some found =>
    let span := if number = 0 then some (found.place.start, found.place.stop)
      else found.place.spans.lookup number
    match span with
    | some (start, stop) => .ofNat (if isStart then start else stop)
    | none => .undefined

def edgeList (isStart : Bool) : Work Nat := do
  match (← get).found with
  | none => newList #[]
  | some found =>
    let last := if isStart then (found.place.spans.map (·.1)).foldl max 0 else found.groups.count
    let cells ← newCells ((List.range (last + 1)).map (edgeOf (some found) isStart))
    newList cells.toArray

def groupTable : Work Nat := do
  let id ← newTable
  if let some found := (← get).found then
    found.groups.names.reverse.forM fun (name, number) => do
      if (found.place.spans.lookup number).isSome then
        setCell (← entryOf id name) (← groupOf number)
  return id

def note (text : Array Char) (pattern : Pattern) (groups : Groups) (m : Match) : Work Unit :=
  modify fun s => { s with found := some ⟨text, m, pattern, groups⟩ }

def patternOrLast (source flags : Octets) : Work (Pattern × Groups) := do
  match source, (← get).found with
  | [], some found => return (found.pattern, found.groups)
  | source, _ => pattern source flags

def joinedKey (vs : List Scalar) : Work Octets := do
  match vs with
  | [v] => return v.toText
  | vs => return List.intercalate (← special ";").toText (vs.map Scalar.toText)

def regexText (flags source : Octets) : Scalar :=
  .text ("(?^".toList ++ flags.filter (fun c => "imsx".toList.contains c) ++ ':' :: source ++ [')'])

def functionOf (name : Octets) : Work Nat := do
  let bare := inMain name
  match (← get).functions[bare]? with
  | some id => return id
  | none => failAt ("Undefined subroutine &" ++ String.ofList (fullName bare) ++ " called")

def defaultList : Work Nat := do
  if (← get).depth = 0 then shared .list "ARGV".toList else shared .list ['_']

def takeItem (fromFront : Bool) (id : Nat) : Work Scalar := do
  let cells ← list id
  if cells.isEmpty then return .undefined
  if fromFront then
    setList id (cells.extract 1 cells.size)
    cell (cells[0]?.getD 0)
  else
    modify fun s => { s with lists := s.lists.modify id Array.pop }
    cell (cells.back?.getD 0)

def spliceList (id : Nat) (start : Option Int) (count : Option Int) (cells : List Nat) :
    Work (List Scalar) := do
  let old ← list id
  let size : Int := old.size
  let first := start.getD 0
  let first := min (max (if first < 0 then first + size else first) 0) size
  let last := match count with
    | none => size
    | some n => if n < 0 then max first (size + n) else min size (first + n)
  let removed := old.extract first.toNat last.toNat
  setList id (old.extract 0 first.toNat ++ cells.toArray ++ old.extract last.toNat old.size)
  removed.toList.mapM cell

def chompCell (id : Nat) : Work Nat := do
  match ← special "/", ← cell id with
  | .undefined, _ | _, .undefined => return 0
  | separator, v =>
    let text := v.toText
    let mark := match separator.toText with
      | [] => ['\n']
      | mark => mark
    if mark.isSuffixOf text then
      changeCell id (.text (text.take (text.length - mark.length)))
      return mark.length
    else return 0

def chopCell (id : Nat) : Work Octets := do
  let text := (← cell id).toText
  changeCell id (.text text.dropLast)
  return text.drop (text.length - 1)

def tableSize (id : Nat) : Work Scalar := readTable id fun t => .ofNat t.entries.size

def nextPair (id : Nat) : Work (List Scalar) := do
  let pending ← readTable id fun t => t.pending.getD t.keys
  match pending with
  | [] => do
    changeTable id fun t => { t with pending := none }
    return []
  | key :: rest => do
    changeTable id fun t => { t with pending := some rest }
    return [.text key, ← cell (← entryOf id key)]

def checkName (v : Scalar) (kind : String) : Work Unit := do
  if (← get).isStrict then
    let text := v.toText
    let shown := if text.length ≤ 32 then "(\"".toList ++ text ++ "\")".toList
      else "(\"".toList ++ text.take 32 ++ "\"...)".toList
    if v.isDefined then
      failAt ("Can't use string " ++ String.ofList shown ++ " as " ++ kind ++
        " ref while \"strict refs\" in use")
    else failAt ("Can't use an undefined value as " ++ kind ++ " reference")

def listBehind (v : Scalar) : Work Nat := do
  match v with
  | .listRef id => return id
  | .text _ | .whole _ | .real _ | .undefined => do
    checkName v "an ARRAY"
    shared .list v.toText
  | _ => failAt "Not an ARRAY reference"

def tableBehind (v : Scalar) : Work Nat := do
  match v with
  | .tableRef id => return id
  | .text _ | .whole _ | .real _ | .undefined => do
    checkName v "a HASH"
    shared .table v.toText
  | _ => failAt "Not a HASH reference"

def isMeant (label meant : Octets) : Bool := meant.isEmpty || meant = label

def blocksIn : Expr → List (List Statement)
  | .block body | .attempt body => [body]
  | .assign _ e | .logic _ e _ => blocksIn e
  | _ => []

def definitions : (fuel : Nat) → List Statement → List (Octets × List Statement)
  | 0, _ | _, [] => []
  | fuel + 1, s :: ss =>
    let inner := match s with
      | .define name body => [(name, body)]
      | .block _ body | .loop _ _ _ _ body | .each _ _ _ _ body => definitions fuel body
      | .choose _ _ accepted refused => definitions fuel (accepted ++ refused)
      | .expression _ e => definitions fuel (blocksIn e).flatten
    inner ++ definitions fuel ss

def setSymbol (name : Octets) (v : Scalar) : Work Unit := do
  match v with
  | .codeRef id => modify fun s => { s with functions := s.functions.insert name id }
  | .cellRef id => bindShared (sharedName .scalar name) id
  | .listRef id => bindShared (sharedName .list name) id
  | .tableRef id => bindShared (sharedName .table name) id
  | .handle other => do
    match (← get).functions[inMain other]? with
    | some id => modify fun s => { s with functions := s.functions.insert name id }
    | none => pure ()
    bindShared (sharedName .scalar name) (← shared .scalar other)
    bindShared (sharedName .list name) (← shared .list other)
    bindShared (sharedName .table name) (← shared .table other)
  | _ => return ()

def define (name : Octets) (body : List Statement) (env : Option Env) : Work Nat := do
  let id := (← get).codes.size
  modify fun s => { s with codes := s.codes.push ⟨name, body, env⟩ }
  return id

def setFunction (name : Octets) (id : Nat) : Work Unit :=
  modify fun s => { s with functions := s.functions.insert name id }

def setRange (place : Nat) (isIn : Bool) : Work Unit :=
  modify fun s => { s with
    inRange := if isIn then place :: s.inRange else s.inRange.filter (· != place) }

def openDirectory (name path : Octets) : Work Bool := do
  let m ← act get
  match m.status? path with
  | .ok .directory => do
    setHandle name { names := some (entriesOf m path true) }
    return true
  | .ok _ => do
    setFault 20
    return false
  | .error fault => do
    setFileFault fault
    return false

def printedText (kind : String) (vs : List Scalar) : Work Octets := do
  if kind = "printf" then
    return sprintf (vs.head?.getD .undefined).toText (vs.drop 1)
  let between := (← special ",").toText
  let ending := (← special "\\").toText
  let text := List.intercalate between (vs.map Scalar.toText)
  return text ++ (if kind = "say" then '\n' :: ending else ending)

def forTopics {α : Type} (cells : List Nat) (work : Nat → Work α) : Work (List α) := do
  let full := ['$', '_']
  let old := (← get).globals[full]?
  let result ← caught (cells.mapM fun id => do
    bindShared full id
    work id)
  match old with
  | some id => bindShared full id
  | none => pure ()
  ExceptT.mk (pure result)

def comparing {α : Type} (work : Work α) : Work α := do
  let first := (← get).globals[(['$', 'a'] : Octets)]?
  let second := (← get).globals[(['$', 'b'] : Octets)]?
  let result ← caught work
  match first, second with
  | some a, some b => do
    bindShared ['$', 'a'] a
    bindShared ['$', 'b'] b
  | _, _ => pure ()
  ExceptT.mk (pure result)

def turn (label : Octets) (work : Work Unit) : Work Bool := do
  match ← caught (inBlock work) with
  | .ok () => return true
  | .error (.next meant) => if isMeant label meant then return true else throw (.next meant)
  | .error (.redo meant) => if isMeant label meant then return true else throw (.redo meant)
  | .error (.last meant) => if isMeant label meant then return false else throw (.last meant)
  | .error leave => throw leave

def attempt (wants : Option Bool) (work : Work (List Scalar)) : Work (List Scalar) := do
  let outer := (← get).wants
  let envs := (← get).envs
  let frames := (← get).frames
  let frame : Frame := ⟨"(eval)".toList, ← currentPackage, (← get).line, 0⟩
  modify fun s => { s with wants, frames := frame :: frames }
  setSpecial "@" (.text [])
  let result ← caught (inBlock work)
  modify fun s => { s with wants := outer, frames, envs }
  match result with
  | .ok vs | .error (.giveBack vs) => do
    setSpecial "@" (.text [])
    return vs
  | .error (.died cause) => do
    setSpecial "@" cause
    return []
  | .error leave => throw leave

def decided (op : Logic) (v : Scalar) : Bool :=
  match op with
  | .both => !v.isTrue
  | .either => v.isTrue
  | .given => v.isDefined

def isComputed : Expr → Bool
  | .lastIndex _ | .builtin _ _ => true
  | .named .scalar ['!'] => true
  | e => e.isPlural

def canHold : Expr → Bool
  | .named .scalar _ | .item _ _ | .entry _ _ | .deref .scalar _ | .own _ _ => true
  | _ => false

def settled : Expr → Expr
  | .own [(sigil, name)] _ => .named sigil name
  | .own names _ => .list (names.map fun (sigil, name) => .named sigil name)
  | .localized e => e
  | e => e

def shownName : Expr → Octets
  | .own [(_, name)] _ | .named _ name => '$' :: name
  | _ => "__ANONIO__".toList

def replacePart (id : Nat) (start : Int) (count : Option Int) (new : Octets) : Work Scalar := do
  let text := (← cell id).toText
  match partBounds? text.length start count with
  | none => failAt "substr outside of string"
  | some (first, last) => do
    changeCell id (.text (text.take first ++ new ++ text.drop last))
    return .text ((text.drop first).take (last - first))

def markLine (line : Nat) : Work Unit :=
  if line = 0 then return () else modify fun s => { s with line }

/-! ## Classes -/

structure Way where
  className : Octets
  name : Octets
  skipsFirst : Bool := false

def wayOf (name package className : Octets) : Way :=
  let front := "SUPER::".toList
  if front.isPrefixOf name then ⟨package, name.drop front.length, true⟩
  else if name.contains ':' then
    let last := (name.reverse.takeWhile (· != ':')).reverse
    ⟨name.take (name.length - last.length - 2), last, false⟩
  else ⟨className, name, false⟩

def universalMethods : List String :=
  ["isa", "can", "DOES", "VERSION", "import", "unimport", "DESTROY"]

def universal (v : Scalar) (className : Octets) (name : String) (vs : List Scalar) :
    Work (List Scalar) := do
  let asked := (firstOf vs).toText
  match name with
  | "isa" | "DOES" => return told ((← lineageOf className).contains asked)
  | "can" => do
    let lineage ← lineageOf className
    match ← methodIn? lineage asked with
    | some id => return [.codeRef id]
    | none =>
      let isKnown := (moduleMethod? (fun _ _ => return v) lineage (String.ofList asked)).isSome ||
        universalMethods.contains (String.ofList asked)
      return told isKnown
  | "VERSION" => return [← cell (← shared .scalar (className ++ "::VERSION".toList))]
  | _ => return []

def handleMethods : List String :=
  ["print", "printf", "say", "getline", "getlines", "close", "eof", "fileno", "read", "syswrite",
    "opened", "autoflush", "flush", "sync", "binmode", "blocking", "can", "isa"]

def keepsObjects (name : String) : Bool :=
  ["ref", "bless", "die", "croak", "confess", "uniq", "shuffle", "pairs", "pairvalues", "head",
    "tail", "encode_json", "Dumper", "dclone", "blessed", "reftype", "refaddr", "weaken",
    "looks_like_number"].contains name

/-! ## Modules -/

def modules : List String :=
  ["strict", "warnings", "utf8", "feature", "lib", "vars", "integer", "bigint", "bignum", "POSIX",
    "List::Util", "Scalar::Util", "Sub::Util", "Hash::Util", "Data::Dumper", "JSON::PP",
    "File::Basename", "File::Spec", "File::Spec::Functions", "File::Path", "File::Temp",
    "File::Copy", "File::Find", "File::Compare", "File::stat", "File::Glob", "Cwd", "Time::HiRes",
    "Time::Local", "Time::Piece", "Time::Seconds", "Getopt::Long", "Getopt::Std", "Storable",
    "Encode", "MIME::Base64", "MIME::QuotedPrint", "Digest::MD5", "Digest::SHA", "Text::Wrap",
    "Text::ParseWords", "Text::Tabs", "Text::Abbrev", "Term::ANSIColor", "Carp", "Exporter",
    "IO::File", "IO::Handle", "IO::Select", "IO::Socket", "IO::Pipe", "Socket", "Fcntl", "Errno",
    "Sys::Hostname", "Tie::File", "Tie::Hash", "Tie::Array", "Symbol", "Benchmark", "Math::Trig",
    "Math::BigInt", "Math::BigFloat", "Math::Complex", "Unicode::Normalize", "Unicode::UCD", "sort",
    "locale", "bytes", "open", "re", "mro", "threads", "English", "FindBin", "Env", "Config",
    "Test::More", "Test::Simple", "B", "charnames", "diagnostics", "if", "less", "autodie",
    "experimental", "fields", "filetest", "attributes", "encoding", "subs", "version", "UNIVERSAL",
    "IPC::Open2", "IPC::Open3", "IPC::Cmd", "Memoize", "SelectSaver", "Safe", "Opcode",
    "Pod::Usage", "HTTP::Tiny", "Compress::Zlib", "Archive::Tar", "Module::Load", "Params::Check",
    "DB_File", "Devel::Peek", "Filter::Simple", "I18N::Langinfo", "List::Util::XS", "PerlIO",
    "overloading", "sigtrap", "vmsish", "builtin", "constant", "parent", "base", "overload"]

def modulePlaces : List String :=
  ["/etc/perl", "/usr/local/lib/x86_64-linux-gnu/perl/5.36.0", "/usr/local/share/perl/5.36.0",
    "/usr/lib/x86_64-linux-gnu/perl5/5.36", "/usr/share/perl5",
    "/usr/lib/x86_64-linux-gnu/perl-base", "/usr/lib/x86_64-linux-gnu/perl/5.36",
    "/usr/share/perl/5.36", "/usr/local/lib/site_perl"]

def modulePath (name : Octets) : Octets :=
  let parts := (Text.splitOn ':' name).filter fun part => !part.isEmpty
  List.intercalate ['/'] parts ++ ".pm".toList

def noteModule (name : Octets) : Work Unit := do
  let path := modulePath name
  let table ← shared .table "INC".toList
  setCell (← entryOf table path) (.text ("/usr/share/perl/5.36/".toList ++ path))

def missingModule (places : List Octets) (path : Octets) : Octets :=
  let name := List.intercalate "::".toList (Text.splitOn '/' (path.take (path.length - 3)))
  let hint := if ".pm".toList.isSuffixOf path then
    " (you may need to install the ".toList ++ name ++ " module)".toList else []
  "Can't locate ".toList ++ path ++ " in @INC".toList ++ hint ++ " (@INC contains: ".toList ++
    List.intercalate [' '] places ++ [')']

def definitionBound : Nat := 1000000

def requiredText (path : Octets) : Work (Octets × Octets) := do
  let places := (← listValues (← shared .list "INC".toList)).map Scalar.toText
  let isPlain := ["/", "./", "../"].any fun front => front.toList.isPrefixOf path
  let candidates := if isPlain then [path] else places.map fun place => place ++ '/' :: path
  let m ← act get
  match candidates.find? fun candidate => m.hasKind .file candidate with
  | some found => do
    match ← act (Tool.openInput found) with
    | .ok input => return (found, input.rest)
    | .error fault => failAt fault.text
  | none => do
    setFault 2
    failAt (String.ofList (missingModule places path))

def importNames (name package : Octets) (names : List Octets) : Work Unit := do
  let lent ← listValues (← shared .list (name ++ "::EXPORT".toList))
  let names := if names.isEmpty then lent.map Scalar.toText else names
  names.forM fun one => do
    let bare := if one.head? = some '&' then one.drop 1 else one
    match (← get).functions[inMain (name ++ "::".toList ++ bare)]? with
    | some id => setFunction (inMain (package ++ "::".toList ++ bare)) id
    | none => pure ()

def callerParts (level : Option Nat) : Work (List Scalar) := do
  let s ← get
  match s.frames[level.getD 0]? with
  | none => return []
  | some frame =>
    let place : List Scalar := [.text frame.package, .text s.file, .ofNat frame.line]
    if level.isNone then return place
    return place ++ [.text (if frame.name.head? = some '(' then frame.name
      else fullName frame.name), .whole 1, .undefined]

/-! ## Evaluation -/

mutual

def value (start : Starter) : (fuel : Nat) → Expr → Work Scalar
  | 0, _ => return .undefined
  | fuel + 1, e => do
    match e with
    | .value v => return v
    | .interpolated parts => do
      let texts ← parts.mapM fun part => do
        if part.isPlural then
          let texts ← (← values start fuel part).mapM fun v => textOf start fuel v
          return List.intercalate (← special "\x22").toText texts
        else textOf start fuel (← value start fuel part)
      return .text texts.flatten
    | .named .scalar name => valueOf name
    | .named .code name => return .codeRef (← functionOf name)
    | .named .list _ | .deref .list _ => return .ofNat (← list (← listOf start fuel e)).size
    | .named .table _ | .deref .table _ => tableSize (← tableOf start fuel e)
    | .deref .code e => value start fuel e
    | .deref .scalar _ => cell (← cellOf start fuel e)
    | .own _ _ => do return (← values start fuel e).getLast?.getD .undefined
    | .localized inner => do
      localize start fuel inner
      value start fuel inner
    | .item (.named .list ['-']) index => do
      return edgeOf (← get).found true (← value start fuel index).toInt.toNat
    | .item (.named .list ['+']) index => do
      return edgeOf (← get).found false (← value start fuel index).toInt.toNat
    | .item l index => do
      let id ← listOf start fuel l
      match ← itemAt? id (← value start fuel index).toInt with
      | some id => cell id
      | none => return .undefined
    | .entry t key => do
      let id ← tableOf start fuel t
      let key ← keyOf start fuel key
      match ← readTable id fun t => t.cell? key with
      | some id => cell id
      | none => return .undefined
    | .items _ _ | .entries _ _ | .pick _ _ =>
      do return (← values start fuel e).getLast?.getD .undefined
    | .lastIndex l => do return .whole ((← list (← listOf start fuel l)).size - 1 : Int)
    | .listMaker es => do
      let vs ← values start fuel (.list es)
      let cells ← newCells vs
      return .listRef (← newList cells.toArray)
    | .tableMaker es => do
      let vs ← keyed start fuel (← values start fuel (.list es))
      let id ← newTable
      putPairs id vs
      return .tableRef id
    | .function package body => do
      let name := package ++ "::__ANON__".toList
      return .codeRef (← define name body (some (capturedBy body (← get).env)))
    | .refer inner => refer start fuel inner
    | .list es => do
      match es with
      | [] => return .undefined
      | [e] => value start fuel e
      | e :: es => do
        let _ ← value start fuel e
        value start fuel (.list es)
    | .negate e => do
      let v ← value start fuel e
      match ← overload? v "neg", ← overload? v "-" with
      | some f, _ => callValue start fuel f [v, .undefined, .text []]
      | none, some f => callValue start fuel f [v, .whole 0, .whole 1]
      | none, none => return negated v
    | .not e => do return .ofBool !(← holds start fuel e)
    | .flip e => do return turnedBits (← value start fuel e).toQuantity.toWord
    | .binary op left right => do
      let a ← value start fuel left
      let b ← value start fuel right
      operation start fuel op a b
    | .logic op left right => do
      let v ← value start fuel left
      if decided op (← truthValue start fuel v) then return v else value start fuel right
    | .choose condition accepted refused => do
      if ← holds start fuel condition then value start fuel accepted
      else value start fuel refused
    | .range place first last => do
      let holds (e : Expr) : Work Bool := do
        match e with
        | .value v => do return (← valueOf ['.']).toInt = v.toInt
        | e => holds start fuel e
      if (← get).inRange.contains place then
        if ← holds last then setRange place false
        return .whole 1
      else if ← holds first then
        setRange place true
        if ← holds last then setRange place false
        return .whole 1
      else return .text []
    | .assign target source => do
      if target.isPlural then
        let vs ← values start fuel source
        assignAll start fuel target vs
        return .ofNat vs.length
      else
        let v ← value start fuel source
        assign start fuel target v
        return v
    | .update op target source => do
      match op, target with
      | .replicate, .list _ | .replicate, .named .list _ => do
        let vs ← values start fuel (.binary .replicate (.list [target]) source)
        assignAll start fuel target vs
        return .ofNat vs.length
      | op, target => do
        let v ← value start fuel source
        if isComputed target then
          let new ← operation start fuel op (← value start fuel target) v
          assign start fuel target new
          return new
        else
          let id ← cellOf start fuel target
          let old ← cell id
          let new ← match ← overload? old (op.spelling ++ "=") with
            | some f => callValue start fuel f [old, v, .undefined]
            | none => operation start fuel op old v
          changeCell id new
          return new
    | .logicUpdate op target source => do
      if isComputed target then
        let old ← value start fuel target
        if decided op old then return old
        assignAll start fuel target (← values start fuel source)
        value start fuel target
      else
        let id ← cellOf start fuel target
        let old ← cell id
        if decided op old then return old
        let v ← value start fuel source
        changeCell id v
        return v
    | .step up before target => do
      let changed (old : Scalar) : Work Scalar :=
        if old.target?.isSome then
          operation start fuel (if up then .add else .subtract) old (.whole 1)
        else if up then pure (successor old) else operate .subtract old (.whole 1)
      let shown (old new : Scalar) : Scalar :=
        if before then (if up && !old.isDefined then .whole 0 else old) else new
      if isComputed target then
        let old ← value start fuel target
        let new ← changed old
        assign start fuel target new
        return shown old new
      else
        let id ← cellOf start fuel target
        let old ← cell id
        let new ← changed old
        changeCell id new
        return shown old new
    | .find subject isNegated pattern flags => do
      let found ← find start fuel false subject pattern flags
      return .ofBool ((found.head?.getD .undefined).isTrue != isNegated)
    | .substitute subject pattern replacement flags =>
      substitute start fuel (subject.getD .topic) pattern replacement flags
    | .transliterate subject source target flags => do
      let subject := subject.getD .topic
      let text ← textOf start fuel (← value start fuel subject)
      let (changed, count) := exchange source target flags text
      if flags.contains 'r' then return .text changed
      if changed != text then assign start fuel subject (.text changed)
      return .ofNat count
    | .regex pattern flags => do
      let source ← textOf start fuel (← value start fuel pattern)
      let id ← newCell (regexText flags source)
      modify fun s => { s with classes := s.classes.insert (0, id) regexClass }
      return .cellRef id
    | .call _ _ | .invoke _ _ | .method _ _ _ _ =>
      do return (← called start fuel (some false) e).getLast?.getD .undefined
    | .builtin name es => do
      return (← builtin start fuel false name es).getLast?.getD .undefined
    | .apply name body es => do
      return (← applied start fuel false name body es).getLast?.getD .undefined
    | .print kind handle es => do
      let name ← match handle with
        | some e => handleName start fuel e
        | none => pure (← get).selected
      let vs ← if es.isEmpty then do pure [← valueOf ['_']] else values start fuel (.list es)
      let vs ← vs.mapM fun v => shown start fuel v
      return .ofBool (← emitTo name (← printedText kind vs))
    | .readLine handle => do
      match ← readRecord (← handleName start fuel handle) with
      | some text => return .text text
      | none => return .undefined
    | .fileTest letter e => do
      return fileTest (← act get) letter (← value start fuel e).toText
    | .command text => do
      let words := [(← value start fuel text).toText]
      let (output, fate) ← outputOf start words
      let _ ← noteFate fate
      return if fate.isNone then .undefined else .text output.rest
    | .block body => do
      return (← inBlock (lastValues start fuel (some false) body)).getLast?.getD .undefined
    | .attempt body => do
      let vs ← attempt (some false) (lastValues start fuel (some false) body)
      return vs.getLast?.getD .undefined
termination_by structural fuel => fuel

def values (start : Starter) : (fuel : Nat) → Expr → Work (List Scalar)
  | 0, _ => return []
  | fuel + 1, e => do
    match e with
    | .named .list _ | .deref .list _ => do listValues (← listOf start fuel e)
    | .named .table _ | .deref .table _ => do tableValues (← tableOf start fuel e)
    | .list es => do
      let parts ← es.mapM fun e => values start fuel e
      return parts.flatten
    | .own names _ => do
      let parts ← names.mapM fun (sigil, name) => do
        let _ ← declareOwn sigil name
        return if sigil = .scalar then [Scalar.undefined] else []
      return parts.flatten
    | .localized inner =>
      if inner.isPlural then
        localize start fuel inner
        values start fuel inner
      else return [← value start fuel e]
    | .items l indexes => do
      let id ← listOf start fuel l
      (← values start fuel indexes).mapM fun index => do
        match ← itemAt? id index.toInt with
        | some id => cell id
        | none => return .undefined
    | .entries t keys => do
      let id ← tableOf start fuel t
      (← values start fuel keys).mapM fun key => do
        match ← readTable id fun t => t.cell? key.toText with
        | some id => cell id
        | none => return .undefined
    | .pick from' indexes => do
      let vs ← values start fuel from'
      let indexes ← values start fuel indexes
      if vs.isEmpty then return []
      return indexes.map fun index =>
        let n : Int := index.toInt
        let n : Int := if n < 0 then n + (vs.length : Int) else n
        if n < 0 then .undefined else vs[n.toNat]?.getD .undefined
    | .refer (.list es) => es.mapM fun e => refer start fuel e
    | .binary .replicate (.list es) count => do
      let vs ← values start fuel (.list es)
      let count := (← value start fuel count).toInt.toNat
      return (List.replicate count vs).flatten
    | .logic op left right => do
      let v ← match left with
        | .assign _ _ => value start fuel left
        | left => value start fuel left
      if decided op (← truthValue start fuel v) then return [v] else values start fuel right
    | .choose condition accepted refused => do
      if ← holds start fuel condition then values start fuel accepted
      else values start fuel refused
    | .range _ first last => do
      return rangeOf (← value start fuel first) (← value start fuel last)
    | .assign target source =>
      if target.isPlural then
        assignAll start fuel target (← values start fuel source)
        match target with
        | .own names _ => do
          let parts ← names.mapM fun (sigil, name) => values start fuel (.named sigil name)
          return parts.flatten
        | .localized target => values start fuel target
        | target => values start fuel target
      else return [← value start fuel e]
    | .find subject isNegated pattern flags =>
      if isNegated then return [← value start fuel e]
      else find start fuel true subject pattern flags
    | .call _ _ | .invoke _ _ | .method _ _ _ _ => called start fuel (some true) e
    | .builtin name es => builtin start fuel true name es
    | .apply name body es => applied start fuel true name body es
    | .readLine handle => do
      let texts ← readRecords (← handleName start fuel handle) fuel
      return texts.map .text
    | .command text => do
      let v ← value start fuel (.command text)
      return (lines v.toText).map .text
    | .block body => inBlock (lastValues start fuel (some true) body)
    | .attempt body => attempt (some true) (lastValues start fuel (some true) body)
    | e => return [← value start fuel e]
termination_by structural fuel => fuel

def perform (start : Starter) : (fuel : Nat) → Expr → Work Unit
  | 0, _ => return ()
  | fuel + 1, e => do
    match e with
    | .call _ _ | .invoke _ _ | .method _ _ _ _ => do
      let _ ← called start fuel none e
    | .list es => es.forM fun e => perform start fuel e
    | .logic op left right => do
      let v ← value start fuel left
      if !(decided op (← truthValue start fuel v)) then perform start fuel right
    | .choose condition accepted refused => do
      if ← holds start fuel condition then perform start fuel accepted
      else perform start fuel refused
    | .apply _ _ _ => do
      let _ ← values start fuel e
    | .own _ _ => do
      let _ ← values start fuel e
    | .block body => do
      let _ ← inBlock (lastValues start fuel none body)
    | .attempt body => do
      let _ ← attempt none (lastValues start fuel none body)
    | e => do
      let _ ← value start fuel e
termination_by structural fuel => fuel

def keyOf (start : Starter) : (fuel : Nat) → Expr → Work Octets
  | 0, _ => return []
  | fuel + 1, e => do
    match e with
    | .list es => do joinedKey (← values start fuel (.list es))
    | e => do textOf start fuel (← value start fuel e)
termination_by structural fuel => fuel

def refer (start : Starter) : (fuel : Nat) → Expr → Work Scalar
  | 0, _ => return .undefined
  | fuel + 1, e => do
    match e with
    | .named .list _ | .deref .list _ | .own [(.list, _)] _ =>
      do return .listRef (← listOf start fuel e)
    | .named .table _ | .deref .table _ | .own [(.table, _)] _ =>
      do return .tableRef (← tableOf start fuel e)
    | .call name [.named .list ['_']] => do return .codeRef (← functionOf name)
    | .invoke code [.named .list ['_']] => value start fuel code
    | .builtin "symbol" _ => value start fuel e
    | .list [e] => refer start fuel e
    | e => do return .cellRef (← cellOf start fuel e)
termination_by structural fuel => fuel

/-- The cell that an expression stands for, which is a new one if nothing else can hold its
value. -/
def cellOf (start : Starter) : (fuel : Nat) → Expr → Work Nat
  | 0, _ => newCell .undefined
  | fuel + 1, e => do
    match e with
    | .named .scalar name =>
      match ← computed? name with
      | some v => newCell v
      | none => idOf .scalar name
    | .own [(.scalar, name)] _ => declareOwn .scalar name
    | .localized inner => do
      localize start fuel inner
      cellOf start fuel inner
    | .deref .scalar inner => do
      match ← value start fuel inner with
      | .cellRef id => return id
      | .undefined => do
        let id ← newCell .undefined
        if canHold inner then setCell (← cellOf start fuel inner) (.cellRef id)
        return id
      | .text name => do
        checkName (.text name) "a SCALAR"
        shared .scalar name
      | _ => failAt "Not a SCALAR reference"
    | .item l index => do
      let id ← listOf start fuel l
      let index := (← value start fuel index).toInt
      let size := (← list id).size
      let place := if index < 0 then index + size else index
      if place < 0 then
        failAt ("Modification of non-creatable array value attempted, subscript " ++
          toString index)
      extend id (place.toNat + 1)
      return (← itemAt? id place).getD 0
    | .entry t key => do
      let id ← tableOf start fuel t
      entryOf id (← keyOf start fuel key)
    | .list [e] => cellOf start fuel e
    | .choose condition accepted refused => do
      if ← holds start fuel condition then cellOf start fuel accepted
      else cellOf start fuel refused
    | .assign target source =>
      if target.isPlural then newCell (← value start fuel e)
      else
        let v ← value start fuel source
        assign start fuel target v
        cellOf start fuel (settled target)
    | .update _ target _ | .logicUpdate _ target _ | .step _ false target => do
      let _ ← value start fuel e
      cellOf start fuel (settled target)
    | .value v => fixedCell v
    | e => do newCell (← value start fuel e)
termination_by structural fuel => fuel

/-- The cells that an expression stands for where a list is wanted. -/
def cellsOf (start : Starter) : (fuel : Nat) → Expr → Work (List Nat)
  | 0, _ => return []
  | fuel + 1, e => do
    match e with
    | .named .list _ | .deref .list _ | .own [(.list, _)] _ => do
      return (← list (← listOf start fuel e)).toList
    | .list es => do
      let parts ← es.mapM fun e => cellsOf start fuel e
      return parts.flatten
    | .items l indexes => do
      let indexes ← values start fuel indexes
      indexes.mapM fun index => cellOf start fuel (.item l (.value index))
    | .entries t keys => do
      let keys ← values start fuel keys
      keys.mapM fun key => cellOf start fuel (.entry t (.value key))
    | .item l index => do
      match ← itemAt? (← listOf start fuel l) (← value start fuel index).toInt with
      | some id => return [id]
      | none => return [← newCell .undefined]
    | .entry (.named .table ['+']) _ => newCells [← value start fuel e]
    | .entry t key => do
      let id ← tableOf start fuel t
      let key ← keyOf start fuel key
      match ← readTable id fun t => t.cell? key with
      | some id => return [id]
      | none => return [← newCell .undefined]
    | .named .scalar _ | .deref .scalar _ | .own [(.scalar, _)] false =>
      do return [← cellOf start fuel e]
    | .builtin "values" [.list [t]] | .builtin "values" [t] => do
      let id ← tableOf start fuel t
      (← readTable id Table.keys).mapM fun key => entryOf id key
    | .choose condition accepted refused => do
      if ← holds start fuel condition then cellsOf start fuel accepted
      else cellsOf start fuel refused
    | .assign target source =>
      if target.isPlural then
        assignAll start fuel target (← values start fuel source)
        cellsOf start fuel (settled target)
      else return [← cellOf start fuel e]
    | .value v => return [← fixedCell v]
    | e => do newCells (← values start fuel e)
termination_by structural fuel => fuel

def listOf (start : Starter) : (fuel : Nat) → Expr → Work Nat
  | 0, _ => newList #[]
  | fuel + 1, e => do
    match e with
    | .named .list ['-'] => edgeList true
    | .named .list ['+'] => edgeList false
    | .named .list name => idOf .list name
    | .own [(.list, name)] _ => declareOwn .list name
    | .localized inner => do
      localize start fuel inner
      listOf start fuel inner
    | .deref .list inner => do
      match ← value start fuel inner with
      | .undefined => do
        let id ← newList #[]
        if canHold inner then setCell (← cellOf start fuel inner) (.listRef id)
        return id
      | v => listBehind v
    | .list [e] => listOf start fuel e
    | .assign target source =>
      if target.isPlural then
        assignAll start fuel target (← values start fuel source)
        listOf start fuel (settled target)
      else listOf start fuel (.deref .list e)
    | e => do
      let cells ← cellsOf start fuel e
      newList cells.toArray
termination_by structural fuel => fuel

def tableOf (start : Starter) : (fuel : Nat) → Expr → Work Nat
  | 0, _ => newTable
  | fuel + 1, e => do
    match e with
    | .named .table ['+'] => groupTable
    | .named .table name => idOf .table name
    | .own [(.table, name)] _ => declareOwn .table name
    | .localized inner => do
      localize start fuel inner
      tableOf start fuel inner
    | .deref .table inner => do
      match ← value start fuel inner with
      | .undefined => do
        let id ← newTable
        if canHold inner then setCell (← cellOf start fuel inner) (.tableRef id)
        return id
      | v => tableBehind v
    | .list [e] => tableOf start fuel e
    | e => do
      match ← value start fuel e with
      | .undefined => newTable
      | v => tableBehind v
termination_by structural fuel => fuel

def localize (start : Starter) : (fuel : Nat) → Expr → Work Unit
  | 0, _ => return ()
  | fuel + 1, e => do
    match e with
    | .named sigil name => do bindFor (sharedName sigil name) (← newOf sigil)
    | .entry t key => do
      let id ← tableOf start fuel t
      let key ← keyOf start fuel key
      save (.entry id key (← readTable id fun t => t.cell? key))
      let new ← newCell .undefined
      changeTable id fun t => t.put key new
    | .item _ _ => do
      let id ← cellOf start fuel e
      save (.cell id (← cell id))
      setCell id .undefined
    | .list es => es.forM fun e => localize start fuel e
    | .builtin "symbol" es => do
      let name := inMain (← value start fuel (.list es)).toText
      save (.function name ((← get).functions[name]?))
    | _ => return ()
termination_by structural fuel => fuel

def assign (start : Starter) : (fuel : Nat) → Expr → Scalar → Work Unit
  | 0, _, _ => return ()
  | fuel + 1, e, v => do
    match e with
    | .named .scalar ['!'] => setFault v.toInt.toNat
    | .lastIndex l => do
      let id ← listOf start fuel l
      let size := (v.toInt + 1).toNat
      extend id size
      setList id ((← list id).extract 0 size)
    | .builtin "substr" es =>
      match argumentsOf es with
      | subject :: first :: count => do
        let id ← cellOf start fuel subject
        let first := (← value start fuel first).toInt
        let counts ← count.mapM fun e => value start fuel e
        let _ ← replacePart id first (counts.head?.map Scalar.toInt) v.toText
      | _ => return ()
    | .builtin "symbol" es => do
      let name := (← value start fuel (.list es)).toText
      setSymbol (inMain (if name.head? = some '*' then name.drop 1 else name)) v
    | .builtin "pos" es => do
      let id ← cellOf start fuel ((argumentsOf es).head?.getD .topic)
      let place := if v.isDefined then some (v.toInt.toNat, false) else none
      modify fun s => { s with
        places := match place with
          | some place => s.places.insert id place
          | none => s.places.erase id }
    | e =>
      if e.isPlural then assignAll start fuel e [v]
      else changeCell (← cellOf start fuel e) v
termination_by structural fuel => fuel

def assignAll (start : Starter) : (fuel : Nat) → Expr → List Scalar → Work Unit
  | 0, _, _ => return ()
  | fuel + 1, e, vs => do
    match e with
    | .named .list _ | .deref .list _ | .own [(.list, _)] _ =>
      do fillList (← listOf start fuel e) vs
    | .named .table _ | .deref .table _ | .own [(.table, _)] _ =>
      do
        let vs ← keyed start fuel vs
        fillTable (← tableOf start fuel e) vs
    | .own names _ =>
      let one (entry : Sigil × Octets) : Expr :=
        if entry.2 = "undef ".toList then .builtin "undef" [] else .own [entry] false
      assignEach start fuel (names.map one) vs
    | .localized inner => do
      localize start fuel inner
      assignAll start fuel inner vs
    | .items _ _ | .entries _ _ => do
      let cells ← cellsOf start fuel e
      (cells.zip (List.range cells.length)).forM fun (id, i) =>
        changeCell id (vs[i]?.getD .undefined)
    | .list es => assignEach start fuel es vs
    | .choose condition accepted refused => do
      if ← holds start fuel condition then assignAll start fuel accepted vs
      else assignAll start fuel refused vs
    | e => assign start fuel e (vs.head?.getD .undefined)
termination_by structural fuel => fuel

def assignEach (start : Starter) : (fuel : Nat) → List Expr → List Scalar → Work Unit
  | 0, _, _ => return ()
  | fuel + 1, es, vs => do
    match es with
    | [] => return ()
    | .builtin "undef" [] :: es => assignEach start fuel es (vs.drop 1)
    | e :: es =>
      if e.isPlural then
        assignAll start fuel e vs
        assignEach start fuel es []
      else
        assign start fuel e (vs.head?.getD .undefined)
        assignEach start fuel es (vs.drop 1)
termination_by structural fuel => fuel

def handleName (start : Starter) : (fuel : Nat) → Expr → Work Octets
  | 0, _ => return []
  | fuel + 1, e => do
    match e with
    | .value (.text name) | .value (.handle name) => return name
    | e => do
      match ← value start fuel e with
      | .handle name => return name
      | v =>
        let name := v.toText
        return if "*main::".toList.isPrefixOf name then name.drop 7 else name
termination_by structural fuel => fuel

def newHandle (start : Starter) : (fuel : Nat) → Expr → Work Octets
  | 0, _ => return []
  | fuel + 1, e => do
    match e with
    | .value (.text name) | .value (.handle name) => return name
    | e => do
      let id ← cellOf start fuel e
      match ← cell id with
      | .undefined | .handle _ => do
        let opened := (← get).opened + 1
        modify fun s => { s with opened }
        let name := shownName e ++ ' ' :: natText opened
        setCell id (.handle name)
        return name
      | v => return v.toText
termination_by structural fuel => fuel

/-- Searches a text: for one match, for the next one, or for all of them. -/
def find (start : Starter) : (fuel : Nat) → (wantsList : Bool) → Option Expr → Expr → Octets →
    Work (List Scalar)
  | 0, _, _, _, _ => return []
  | fuel + 1, wantsList, subject, source, flags => do
    let subject := subject.getD .topic
    let source ← textOf start fuel (← value start fuel source)
    let (p, groups) ← patternOrLast source flags
    if !flags.contains 'g' then
      let text := (← textOf start fuel (← value start fuel subject)).toArray
      match search text p 0 none with
      | none => return if wantsList then [] else [.text []]
      | some m => do
        note text p groups m
        if wantsList && groups.count != 0 then return captured text groups.count m
        else return [.whole 1]
    else
      let id ← cellOf start fuel subject
      let text := (← cell id).toText.toArray
      let (place, isBarred) := ((← get).places[id]?).getD (0, false)
      let barred := if isBarred then some place else none
      if wantsList then
        modify fun s => { s with places := s.places.erase id }
        let all := searchAll text p (text.size + 2) place barred
        match all.getLast? with
        | none => return []
        | some m => do
          note text p groups m
          return all.flatMap fun m =>
            if groups.count = 0 then [.text (text.extract m.start m.stop).toList]
            else captured text groups.count m
      else
        let found := if text.size < place then none else search text p place barred
        match found with
        | none => do
          if !flags.contains 'c' then modify fun s => { s with places := s.places.erase id }
          return [.text []]
        | some m => do
          note text p groups m
          modify fun s => { s with places := s.places.insert id (m.stop, m.start = m.stop) }
          return [.whole 1]
termination_by structural fuel => fuel

def substitute (start : Starter) : (fuel : Nat) → (subject source replacement : Expr) → Octets →
    Work Scalar
  | 0, _, _, _, _ => return .undefined
  | fuel + 1, subject, source, replacement, flags => do
    let (p, groups) ← patternOrLast (← textOf start fuel (← value start fuel source)) flags
    let id ← cellOf start fuel subject
    let text := (← textOf start fuel (← cell id)).toArray
    let all := if flags.contains 'g' then searchAll text p (text.size + 2) 0 none
      else (search text p 0 none).toList
    if all.isEmpty then
      return if flags.contains 'r' then .text text.toList else .text []
    let evaluates := 2 ≤ flags.count 'e'
    let (pieces, place) ← all.foldlM
      (fun (pieces, place) m => do
        note text p groups m
        let new ← value start fuel replacement
        let new ← if evaluates then do
            let vs ← evaluateText start fuel (some false) none false new.toText
            pure (vs.getLast?.getD .undefined)
          else pure new
        let new ← textOf start fuel new
        return (new :: (text.extract place m.start).toList :: pieces, m.stop))
      (([] : List Octets), 0)
    let new := pieces.reverse.flatten ++ (text.extract place text.size).toList
    if flags.contains 'r' then return .text new
    changeCell id (.text new)
    return .ofNat all.length
termination_by structural fuel => fuel

def textOf (start : Starter) : (fuel : Nat) → Scalar → Work Octets
  | 0, _ => return []
  | fuel + 1, v => do
    if v.target?.isNone || (← get).classes.isEmpty then return v.toText
    match ← overload? v "\x22\x22", ← overload? v "0+", ← overload? v "bool" with
    | some f, _, _ | none, some f, _ | none, none, some f => do
      let text ← callValue start fuel f [v, .undefined, .text []]
      if text.target? == v.target? then plainText v else textOf start fuel text
    | none, none, none => plainText v
termination_by structural fuel => fuel

def shown (start : Starter) : (fuel : Nat) → Scalar → Work Scalar
  | 0, v => return v
  | fuel + 1, v => do
    if v.target?.isNone || (← get).classes.isEmpty then return v
    return .text (← textOf start fuel v)
termination_by structural fuel => fuel

def keyed (start : Starter) : (fuel : Nat) → List Scalar → Work (List Scalar)
  | 0, vs => return vs
  | fuel + 1, vs => do
    if (← get).classes.isEmpty then return vs
    match vs with
    | key :: v :: vs => return (← shown start fuel key) :: v :: (← keyed start fuel vs)
    | vs => return vs
termination_by structural fuel => fuel

def truthValue (start : Starter) : (fuel : Nat) → Scalar → Work Scalar
  | 0, v => return v
  | fuel + 1, v => do
    if v.target?.isNone || (← get).overloads.isEmpty then return v
    match ← overload? v "bool", ← overload? v "\x22\x22", ← overload? v "0+" with
    | some f, _, _ | none, some f, _ | none, none, some f =>
      callValue start fuel f [v, .undefined, .text []]
    | none, none, none => return v
termination_by structural fuel => fuel

def holds (start : Starter) : (fuel : Nat) → Expr → Work Bool
  | 0, _ => return false
  | fuel + 1, e => do return (← truthValue start fuel (← value start fuel e)).isTrue
termination_by structural fuel => fuel

def callValue (start : Starter) : (fuel : Nat) → Scalar → List Scalar → Work Scalar
  | 0, _, _ => return .undefined
  | fuel + 1, f, vs => do
    let id ← match f with
      | .codeRef id => pure id
      | f => functionOf f.toText
    let cells ← newCells vs
    return (← invoke start fuel (some false) id cells).getLast?.getD .undefined
termination_by structural fuel => fuel

def operation (start : Starter) : (fuel : Nat) → Operator → Scalar → Scalar → Work Scalar
  | 0, _, _, _ => return .undefined
  | fuel + 1, op, a, b => do
    if (← get).classes.isEmpty || (a.target?.isNone && b.target?.isNone) then
      return ← operate op a b
    match ← overload? a op.spelling, ← overload? b op.spelling with
    | some f, _ => callValue start fuel f [a, b, .text []]
    | none, some f => callValue start fuel f [b, a, .whole 1]
    | none, none =>
      let byOrder? ← match op.test? with
        | some (comparison, accepts) => do
          let isThere := (← overload? a comparison.spelling).isSome ||
            (← overload? b comparison.spelling).isSome
          pure (if isThere then some (comparison, accepts) else none)
        | none => pure none
      match byOrder? with
      | some (comparison, accepts) => do
        let v ← operation start fuel comparison a b
        return .ofBool (accepts (compare v.toInt 0))
      | none =>
        let plain (v : Scalar) : Work Scalar := do
          let isNumber := (← overload? v "0+").isSome
          let isText := (← overload? v "\x22\x22").isSome
          if op.isTextual || (isText && !isNumber) then shown start fuel v
          else if isNumber then truthOrNumber start fuel v
          else return v
        operate op (← plain a) (← plain b)
termination_by structural fuel => fuel

def truthOrNumber (start : Starter) : (fuel : Nat) → Scalar → Work Scalar
  | 0, v => return v
  | fuel + 1, v => do
    match ← overload? v "0+" with
    | some f => callValue start fuel f [v, .undefined, .text []]
    | none => return v
termination_by structural fuel => fuel

/-- Calls a function by its name or by a reference, or that of an object. -/
def called (start : Starter) : (fuel : Nat) → (wants : Option Bool) → Expr → Work (List Scalar)
  | 0, _, _ => return []
  | fuel + 1, wants, e => do
    match e with
    | .call name es => do
      let bare := ((Text.splitOn ':' name).getLast?).getD name
      let isKnown := (← get).functions.contains name
      if !isKnown && name.contains ':' && importedFunctions.contains (String.ofList bare) then
        builtin start fuel (wants = some true) (String.ofList bare) es
      else if !isKnown && (name = "UNIVERSAL::isa".toList || name = "UNIVERSAL::can".toList) then
        match ← values start fuel (.list es) with
        | v :: vs => do
          if name = "UNIVERSAL::isa".toList && (← kindOf v) == (firstOf vs).toText then
            return told true
          universal v ((← classOf? v).getD v.toText) (String.ofList bare) vs
        | [] => return []
      else
        let cells ← cellsOf start fuel (.list es)
        let loader := packageOf name ++ "::AUTOLOAD".toList
        if !isKnown && (← get).functions.contains (inMain loader) then
          setCell (← shared .scalar loader) (.text (fullName name))
          invoke start fuel wants (← functionOf loader) cells
        else invoke start fuel wants (← functionOf name) cells
    | .invoke code es => do
      match ← value start fuel code with
      | .codeRef id => do
        let cells ← cellsOf start fuel (.list es)
        invoke start fuel wants id cells
      | .undefined => failAt "Can't use an undefined value as a subroutine reference"
      | .text name => do
        checkName (.text name) "a subroutine"
        let cells ← cellsOf start fuel (.list es)
        invoke start fuel wants (← functionOf name) cells
      | v => do
        match ← overload? v "&\x7b\x7d" with
        | some f => do
          let cells ← cellsOf start fuel (.list es)
          match ← callValue start fuel f [v, .undefined, .text []] with
          | .codeRef id => invoke start fuel wants id cells
          | _ => failAt "Not a CODE reference"
        | none => failAt "Not a CODE reference"
    | .method object name package es => do
      let v ← value start fuel object
      match ← value start fuel name with
      | .codeRef id => do
        let cells ← cellsOf start fuel (.list es)
        invoke start fuel wants id ((← newCell v) :: cells)
      | name => callMethod start fuel wants v name.toText package es
    | _ => return []
termination_by structural fuel => fuel

/-- Calls the function that an object or a class has under a name. -/
def callMethod (start : Starter) : (fuel : Nat) → (wants : Option Bool) → Scalar →
    (name package : Octets) → List Expr → Work (List Scalar)
  | 0, _, _, _, _, _ => return []
  | fuel + 1, wants, v, name, package, es => do
    let method := String.ofList name
    let className? ← classOf? v
    let handle? ← match v with
      | .handle name => pure (some name)
      | .text name => do
        let isHandle := (← handle? name).isSome || ["STDIN", "STDOUT", "STDERR"].contains
          (String.ofList name)
        pure (if isHandle then some name else none)
      | _ => pure none
    match className?, handle? with
    | none, some handle => handleMethod start fuel wants handle method es
    | className?, _ => do
      let className ← match className? with
        | some className => pure className
        | none => do
          if !v.isDefined then
            failAt ("Can't call method \"" ++ method ++ "\" on an undefined value")
          if v.target?.isSome then
            failAt ("Can't call method \"" ++ method ++ "\" on unblessed reference")
          if v.toText.isEmpty then
            failAt ("Can't call method \"" ++ method ++
              "\" without a package or object reference")
          pure v.toText
      let way := wayOf name package className
      let lineage ← lineageOf way.className
      let classes := if way.skipsFirst then lineage.drop 1 else lineage
      let own := if className?.isSome then v else .text className
      let caller : Caller := fun id vs => do
        let cells ← newCells vs
        return (← invoke start fuel (some false) id cells).getLast?.getD .undefined
      match ← methodIn? classes way.name with
      | some id => do
        let cells ← cellsOf start fuel (.list es)
        invoke start fuel wants id ((← newCell own) :: cells)
      | none =>
        match moduleMethod? caller classes (String.ofList way.name) with
        | some f => f own (← values start fuel (.list es))
        | none =>
          if universalMethods.contains method then
            universal own way.className method (← values start fuel (.list es))
          else
            match ← methodIn? (classes ++ ["UNIVERSAL".toList]) "AUTOLOAD".toList with
            | some id => do
              let home := packageOf (((← get).codes[id]?.map Code.name).getD [])
              setCell (← shared .scalar (home ++ "::AUTOLOAD".toList))
                (.text (className ++ "::".toList ++ way.name))
              let cells ← cellsOf start fuel (.list es)
              invoke start fuel wants id ((← newCell own) :: cells)
            | none => do
              let hint := if ← isPackage way.className then ""
                else " (perhaps you forgot to load \"" ++ String.ofList way.className ++ "\"?)"
              failAt ("Can't locate object method \"" ++ String.ofList way.name ++
                "\" via package \"" ++ String.ofList way.className ++ "\"" ++ hint)
termination_by structural fuel => fuel

def handleMethod (start : Starter) : (fuel : Nat) → (wants : Option Bool) → (handle : Octets) →
    (name : String) → List Expr → Work (List Scalar)
  | 0, _, _, _, _ => return []
  | fuel + 1, wants, handle, name, es => do
    let e : Expr := .value (.handle handle)
    match name with
    | "print" | "printf" | "say" => do
      let vs ← (← values start fuel (.list es)).mapM fun v => shown start fuel v
      return [.ofBool (← emitTo handle (← printedText name vs))]
    | "getline" => return [← value start fuel (.readLine e)]
    | "getlines" => values start fuel (.readLine e)
    | "close" | "eof" | "fileno" | "read" | "syswrite" =>
      handling start fuel (wants = some true) name (e :: es)
    | "opened" => return told (handle.isEmpty || (← handle? handle).isSome ||
      ["STDIN", "STDOUT", "STDERR"].contains (String.ofList handle))
    | "autoflush" => do
      if handle = "STDOUT".toList then setSpecial "|" (.whole 1)
      return told true
    | "flush" | "sync" => do
      flushAll
      return told true
    | "binmode" | "blocking" => return told true
    | "isa" | "can" => do
      let asked := (← value start fuel (.list es)).toText
      let table ← shared .table "INC".toList
      let isLoaded ← readTable table fun t =>
        ["IO/Handle.pm", "IO/File.pm"].any fun path => (t.cell? path.toList).isSome
      let known := if name = "can" then handleMethods else ["IO::File", "IO::Handle", "Exporter"]
      return told (isLoaded && known.contains (String.ofList asked))
    | name =>
      failAt ("Can't locate object method \"" ++ name ++ "\" via package \"IO::File\"")
termination_by structural fuel => fuel

def invoke (start : Starter) : (fuel : Nat) → (wants : Option Bool) → (id : Nat) → List Nat →
    Work (List Scalar)
  | 0, _, _, _ => return []
  | fuel + 1, wants, id, cells => do
    match (← get).codes[id]? with
    | none => return []
    | some code => do
      let env := (← get).env
      let outer := (← get).wants
      let found := (← get).found
      let depth := (← get).depth
      let line := (← get).line
      let frames := (← get).frames
      let gap := ((← get).began, (← get).births)
      let old ← shared .list ['_']
      let arguments ← newList cells.toArray
      let frame : Frame := ⟨code.name, ← currentPackage, line, arguments⟩
      bindShared ['@', '_'] arguments
      modify fun s => { s with
        env := match code.env with
          | some env => env
          | none => s.topEnv
        wants, depth := depth + 1, frames := frame :: frames, envs := env :: s.envs }
      let result ← caught (inBlock (lastValues start fuel wants code.body))
      modify fun s => { s with
        env, wants := outer, found, depth, line, frames, envs := s.envs.drop 1 }
      bindShared ['@', '_'] old
      match result with
      | .ok vs | .error (.giveBack vs) => do
        modify fun s => { s with gaps := gap :: s.gaps }
        bury start fuel vs
        modify fun s => { s with gaps := s.gaps.drop 1 }
        return vs
      | .error leave => throw leave
termination_by structural fuel => fuel

def bury (start : Starter) : (fuel : Nat) → (kept : List Scalar) → Work Unit
  | 0, _ => return ()
  | fuel + 1, kept => do
    let ending ← takeEnding false kept
    if !ending.isEmpty then endAll start fuel ending
termination_by structural fuel => fuel

def endAll (start : Starter) : (fuel : Nat) → List Mortal → Work Unit
  | 0, _ => return ()
  | fuel + 1, ending => do
    match ending with
    | [] => return ()
    | m :: ending => do
      let object : Scalar := match m.node with
        | (0, id) => .cellRef id
        | (1, id) => .listRef id
        | (2, id) => .tableRef id
        | (_, id) => .codeRef id
      match ← classOf? object with
      | none => pure ()
      | some className =>
        match ← methodIn? (← lineageOf className) "DESTROY".toList with
        | none => pure ()
        | some id => do
          let problem ← special "@"
          let cell ← newCell object
          let result ← caught (invoke start fuel none id [cell])
          setSpecial "@" problem
          match result with
          | .ok _ | .error (.died _) => pure ()
          | .error leave => throw leave
      endAll start fuel ending
termination_by structural fuel => fuel

def defineAll (start : Starter) : (fuel : Nat) → List Statement → Work Unit
  | 0, _ => return ()
  | fuel + 1, statements => do
    let firsts ← (definitions definitionBound statements).mapM fun (name, body) => do
      let id ← define name body none
      match String.ofList name with
      | "BEGIN" => return [(id, body)]
      | "END" => do
        modify fun s => { s with lasts := id :: s.lasts }
        return []
      | _ => do
        setFunction (inMain name) id
        return []
    firsts.flatten.forM fun (id, body) => do
      match ← caught (invoke start fuel none id []) with
      | .ok _ => pure ()
      | .error (.died cause) => do
        let s ← get
        let line := match body.getLast? with
          | some (.expression line _) | some (.choose line _ _ _) => line
          | _ => s.line
        let here := if line = 0 then []
          else " at ".toList ++ s.file ++ " line ".toList ++ natText line
        let text := cause.toText ++ "BEGIN failed--compilation aborted".toList ++ here ++
          ".\n".toList
        throw (.died (.text text))
      | .error leave => throw leave
termination_by structural fuel => fuel

def evaluateText (start : Starter) : (fuel : Nat) → (wants : Option Bool) →
    (file? : Option Octets) → (isRequired : Bool) → (text : Octets) → Work (List Scalar)
  | 0, _, _, _, _ => return []
  | fuel + 1, wants, file?, isRequired, text => do
    let functions := (← get).functions.toList.map (·.1)
    let file ← match file? with
      | some file => pure file
      | none => newTextName
    let (read, cautions) := readScript { file, text, functions }
    warn cautions
    match read with
    | .error problem => do
      let note ← if isRequired then do pure ("Compilation failed in require".toList ++ (← place))
        else pure []
      throw (.died (.text (problem.text ++ note)))
    | .ok statements => do
      let outer := (← get).file
      let line := (← get).line
      modify fun s => { s with file }
      let result ← caught do
        defineAll start fuel statements
        lastValues start fuel wants statements
      modify fun s => { s with file := outer, line }
      ExceptT.mk (pure result)
termination_by structural fuel => fuel

def lastValues (start : Starter) : (fuel : Nat) → (wants : Option Bool) → List Statement →
    Work (List Scalar)
  | 0, _, _ => return []
  | fuel + 1, wants, statements => do
    match statements with
    | [] => return []
    | [s] => asStatement s (valuesBy start fuel wants s)
    | s :: statements => do
      asStatement s (run start fuel s)
      bury start fuel []
      lastValues start fuel wants statements
termination_by structural fuel => fuel

def valuesBy (start : Starter) : (fuel : Nat) → (wants : Option Bool) → Statement →
    Work (List Scalar)
  | 0, _, _ => return []
  | fuel + 1, wants, s => do
    match s with
    | .expression line e => do
      markLine line
      match wants with
      | some true => values start fuel e
      | some false => return [← value start fuel e]
      | none => do
        perform start fuel e
        return []
    | .choose line condition accepted refused => do
      markLine line
      let v ← value start fuel condition
      let isTrue := (← truthValue start fuel v).isTrue
      if isTrue then inBlock (lastValues start fuel wants accepted)
      else if refused.isEmpty then return [v]
      else inBlock (lastValues start fuel wants refused)
    | .block label body => do
      match ← caught (inBlock (lastValues start fuel wants body)) with
      | .ok vs => return vs
      | .error (.next meant) => if isMeant label meant then return [] else throw (.next meant)
      | .error (.last meant) => if isMeant label meant then return [] else throw (.last meant)
      | .error leave => throw leave
    | s => do
      run start fuel s
      return []
termination_by structural fuel => fuel

def builtin (start : Starter) : (fuel : Nat) → (wantsList : Bool) → (name : String) → List Expr →
    Work (List Scalar)
  | 0, _, _, _ => return []
  | fuel + 1, wantsList, name, es => do
    match name, argumentsOf es with
    | "return", _ => do
      if (← get).frames.isEmpty then failAt "Can't return outside a subroutine"
      match (← get).wants with
      | some true => throw (.giveBack (← values start fuel (.list es)))
      | some false => throw (.giveBack [← value start fuel (.list es)])
      | none => do
        es.forM fun e => perform start fuel e
        throw (.giveBack [])
    | "substr", [subject, first, count, new] => do
      let id ← cellOf start fuel subject
      let first := (← value start fuel first).toInt
      let count := (← value start fuel count).toInt
      return [← replacePart id first (some count) (← value start fuel new).toText]
    | "glob", [e, .value place] => do
      takeNames wantsList place.toInt.toNat (← textOf start fuel (← value start fuel e))
    | name, es =>
      match valueFunction? name with
      | some f => do
        let vs ← es.mapM fun e => value start fuel e
        let vs ← if keepsObjects name then pure vs else vs.mapM fun v => shown start fuel v
        return [← f vs]
      | none =>
        let caller : Caller := fun id vs => do
          let cells ← newCells vs
          return (← invoke start fuel (some false) id cells).getLast?.getD .undefined
        match listFunction? name <|> fileFunction? name <|> moduleFunction? caller name with
        | some f => do
          let vs ← values start fuel (.list es)
          let vs ← if keepsObjects name then pure vs else vs.mapM fun v => shown start fuel v
          let vs ← f vs
          return if wantsList || name != "uniq" then vs else [.ofNat vs.length]
        | none => control start fuel wantsList name es
termination_by structural fuel => fuel

def require (start : Starter) : (fuel : Nat) → (path : Octets) → Work (List Scalar)
  | 0, _ => return []
  | fuel + 1, path => do
    let table ← shared .table "INC".toList
    if (← readTable table fun t => t.cell? path).isSome then return [.whole 1]
    let (found, text) ← requiredText path
    setCell (← entryOf table path) (.text found)
    let vs ← evaluateText start fuel (some false) (some found) true text
    if !(firstOf vs).isTrue then
      failAt (String.ofList path ++ " did not return a true value")
    return vs
termination_by structural fuel => fuel

/-- The functions that decide what runs. -/
def control (start : Starter) : (fuel : Nat) → (wantsList : Bool) → (name : String) → List Expr →
    Work (List Scalar)
  | 0, _, _, _ => return []
  | fuel + 1, wantsList, name, es => do
    let first : Expr := es.head?.getD .topic
    let label : Octets := match es with
      | [.value (.text label)] => label
      | _ => []
    match name with
    | "last" => throw (.last label)
    | "next" => throw (.next label)
    | "redo" => throw (.redo label)
    | "goto" => failAt ("Can't find label " ++ String.ofList label)
    | "exit" => do
      let status ← if es.isEmpty then pure 0 else do pure (← value start fuel first).toInt
      modify fun s => { s with status := (status % 256).toNat }
      throw .exit
    | "weaken" | "unweaken" => do
      let id ← cellOf start fuel first
      modify fun s => { s with
        weak := if name = "weaken" then s.weak.insert id else s.weak.erase id }
      return []
    | "isweak" => return told ((← get).weak.contains (← cellOf start fuel first))
    | "eval" => do
      let text := (← value start fuel first).toText
      let wants := some wantsList
      attempt wants (evaluateText start fuel wants none false text)
    | "symbol" => do
      match ← value start fuel first with
      | .handle name => return [.handle name]
      | v => return [.handle (if v.toText.head? = some '*' then v.toText.drop 1 else v.toText)]
    | "package" => do
      let name := (← value start fuel first).toText
      modify fun s => { s with package := name }
      return []
    | "strict" => do
      let isStrict := (← value start fuel first).isTrue
      modify fun s => { s with isStrict }
      return []
    | "pairsAt" => do
      match ← value start fuel first with
      | .tableRef id => do
        let keys ← values start fuel (es[1]?.getD .topic)
        let pairs ← keys.mapM fun key => do
          match ← readTable id fun t => t.cell? key.toText with
          | some id => return [key, ← cell id]
          | none => return [key, .undefined]
        return pairs.flatten
      | v => do
        let indexes ← values start fuel (es[1]?.getD .topic)
        let pairs ← indexes.mapM fun index => do
          match v with
          | .listRef id =>
            match ← itemAt? id index.toInt with
            | some id => return [index, ← cell id]
            | none => return [index, .undefined]
          | _ => return []
        return pairs.flatten
    | "caller" => do
      let level ← es.head?.mapM fun e => value start fuel e
      let parts ← callerParts (level.map fun v => v.toInt.toNat)
      return if wantsList then parts else [firstOf parts]
    | "withoutOptions" => do
      let vs ← values start fuel (.list es)
      return vs.filter fun v => v.toText.head? != some '-'
    | "overload" => do
      let vs ← values start fuel (.list es)
      let package := (firstOf vs).toText
      (pairList (vs.drop 1)).forM fun pair => modify fun s => { s with
        overloads := ((package, (firstOf pair).toText), firstOf (pair.drop 1)) :: s.overloads }
      return []
    | "use" => do
      match ← values start fuel (.list es) with
      | module :: package :: vs => do
        let name := module.toText
        if name = "lib".toList then
          let id ← shared .list "INC".toList
          let cells ← newCells vs
          setList id (cells.toArray ++ (← list id))
        else if !modules.contains (String.ofList name) then
          let _ ← require start fuel (modulePath name)
          match ← methodIn? (← lineageOf name) "import".toList with
          | some id => do
            let cells ← newCells (module :: vs)
            let _ ← invoke start fuel none id cells
          | none => importNames name package.toText (vs.map Scalar.toText)
        else noteModule name
        return []
      | _ => return []
    | "require" => do
      let isWord := match first with
        | .value (.text _) => true
        | _ => false
      let text := (← value start fuel first).toText
      let isPath := text.any fun c => c = '/' || c = '.'
      if text.head?.any Char.isDigit then return [.whole 1]
      else if modules.contains (String.ofList text) then
        noteModule text
        return [.whole 1]
      else require start fuel (if isWord && !isPath then modulePath text else text)
    | "do" => do
      let path := (← value start fuel first).toText
      match ← act (Tool.openInput path) with
      | .error fault => do
        setFileFault fault
        return [.undefined]
      | .ok input =>
        let wants := some wantsList
        attempt wants (evaluateText start fuel wants (some path) false input.rest)
    | "system" => do
      let words := (← values start fuel (.list es)).map Scalar.toText
      return [.whole (← noteFate (← running (startCommand start words)))]
    | "exec" => do
      let words := (← values start fuel (.list es)).map Scalar.toText
      match ← running (startCommand start words) with
      | none => do
        setFault 2
        return [.whole 0]
      | some (.status n) => do
        modify fun s => { s with status := n, lasts := [] }
        throw .exit
      | some (.signal n) => act (throw (.killed n))
    | "localtime" | "gmtime" => do
      let seconds ← if es.isEmpty then pure (Tool.presentSeconds (← act get))
        else do pure (← value start fuel first).toInt
      return if wantsList then momentParts seconds else [.text (momentText seconds)]
    | "wantarray" =>
      return [match (← get).wants with
        | some b => if b then .whole 1 else .whole 0
        | none => .undefined]
    | "scalar" => return [← value start fuel first]
    | "defined" =>
      match first with
      | .call name [.named .list ['_']] =>
        return [.ofBool ((← get).functions.contains name)]
      | .named .list _ | .deref .list _ | .named .table _ =>
        return [.ofBool (← value start fuel first).isTrue]
      | e => return [.ofBool (← value start fuel e).isDefined]
    | "exists" =>
      match first with
      | .entry t key => do
        let id ← tableOf start fuel t
        let key ← keyOf start fuel key
        return [.ofBool (← readTable id fun t => t.cell? key).isSome]
      | .item l index => do
        let id ← listOf start fuel l
        return [.ofBool (← itemAt? id (← value start fuel index).toInt).isSome]
      | .call name _ => return [.ofBool ((← get).functions.contains name)]
      | e => return [.ofBool (← value start fuel e).isDefined]
    | "delete" =>
      match settled first with
      | .entry t key => do
        let id ← tableOf start fuel t
        let key ← keyOf start fuel key
        let old ← value start fuel (.entry (.deref .table (.value (.tableRef id))) (.text key))
        changeTable id fun t => t.erase key
        return [old]
      | .entries t keys => do
        let id ← tableOf start fuel t
        let keys ← values start fuel keys
        let old ← values start fuel (.entries (.deref .table (.value (.tableRef id)))
          (.list (keys.map .value)))
        keys.forM fun key => changeTable id fun t => t.erase key.toText
        return old
      | e => do
        let old ← value start fuel e
        assign start fuel e .undefined
        return [old]
    | "undef" => do
      match es with
      | [] => return [.undefined]
      | e :: _ => do
        if e.isPlural then assignAll start fuel e [] else assign start fuel e .undefined
        return [.undefined]
    | name => container start fuel wantsList name es
termination_by structural fuel => fuel

def container (start : Starter) : (fuel : Nat) → (wantsList : Bool) → (name : String) →
    List Expr → Work (List Scalar)
  | 0, _, _, _ => return []
  | fuel + 1, wantsList, name, es => do
    let first : Expr := es.head?.getD .topic
    let isList := match first with
      | .named .list _ | .deref .list _ => true
      | _ => false
    match name with
    | "push" | "unshift" => do
      let id ← listOf start fuel first
      let cells ← newCells (← values start fuel (.list (es.drop 1)))
      let isPush := name = "push"
      modify fun s => { s with
        lists := s.lists.modify id fun old =>
          if isPush then old ++ cells.toArray else cells.toArray ++ old }
      return [.ofNat (← list id).size]
    | "shift" | "pop" => do
      let id ← if es.isEmpty then defaultList else listOf start fuel first
      return [← takeItem (name = "shift") id]
    | "splice" => do
      let id ← listOf start fuel first
      let bounds ← ((es.drop 1).take 2).mapM fun e => value start fuel e
      let cells ← newCells (← values start fuel (.list (es.drop 3)))
      spliceList id (bounds.head?.map Scalar.toInt) ((bounds[1]?).map Scalar.toInt) cells
    | "keys" | "values" =>
      if isList then
        let id ← listOf start fuel first
        let size := (← list id).size
        if !wantsList then return [.ofNat size]
        else if name = "values" then listValues id
        else return (List.range size).map Scalar.ofNat
      else
        let id ← tableOf start fuel first
        changeTable id fun t => { t with pending := none }
        if !wantsList then return [← tableSize id]
        let keys ← readTable id Table.keys
        if name = "keys" then return keys.map .text
        else keys.mapM fun key => do cell (← entryOf id key)
    | "each" => do
      let pair ← nextPair (← tableOf start fuel first)
      return if wantsList then pair else pair.take 1
    | "reverse" => do
      if wantsList then return (← values start fuel (.list es)).reverse
      let vs ← values start fuel (.list (if es.isEmpty then [.topic] else es))
      return [.text ((vs.map Scalar.toText).flatten).reverse]
    | "split" => do
      let text ← textOf start fuel (← value start fuel (es[1]?.getD .topic))
      let limit ← match es[2]? with
        | some e => do pure (← value start fuel e).toInt
        | none => pure 0
      let (source, flags) ← match es.head? with
        | none => pure (([' '] : Octets), none)
        | some (.find none _ source flags) | some (.regex source flags) =>
          do pure (← textOf start fuel (← value start fuel source), some flags)
        | some e => do pure (← textOf start fuel (← value start fuel e), none)
      let parts ← if source = [' '] && flags.isNone then pure (splitBlanks text limit)
        else do
          let flags := flags.getD [] ++ (if source = ['^'] then ['m'] else [])
          let (p, groups) ← pattern source flags
          pure (splitParts p groups.count text limit)
      return if wantsList then parts else [.ofNat parts.length]
    | "unpack" => do
      let template := (← value start fuel first).toText
      let text := (← value start fuel (es[1]?.getD .topic)).toText
      return unpack template text
    | "chomp" => do
      let cells ← cellsOf start fuel (.list (if es.isEmpty then [.topic] else es))
      let counts ← cells.mapM chompCell
      return [.ofNat (counts.foldl (fun m n => m + n) 0)]
    | "chop" => do
      let cells ← cellsOf start fuel (.list (if es.isEmpty then [.topic] else es))
      let texts ← cells.mapM chopCell
      return [.text (texts.getLast?.getD [])]
    | "pos" => do
      let id ← cellOf start fuel first
      match (← get).places[id]? with
      | some (place, _) => return [.ofNat place]
      | none => return [.undefined]
    | name => handling start fuel wantsList name es
termination_by structural fuel => fuel

def handling (start : Starter) : (fuel : Nat) → (wantsList : Bool) → (name : String) →
    List Expr → Work (List Scalar)
  | 0, _, _, _ => return []
  | fuel + 1, wantsList, name, es => do
    let first : Expr := es.head?.getD .topic
    let told (b : Bool) : List Scalar := [if b then .whole 1 else .whole 0]
    match name with
    | "open" => do
      let vs ← (es.drop 1).mapM fun e => value start fuel e
      let opened := match vs with
        | [v] => readDescription v.toText
        | v :: vs => readWay v.toText vs
        | [] => .reads []
      let name ← newHandle start fuel first
      return told (← openHandle start name opened)
    | "opendir" => do
      let path := (← value start fuel (es[1]?.getD .topic)).toText
      let name ← newHandle start fuel first
      return told (← openDirectory name path)
    | "close" | "closedir" => do
      let name ← if es.isEmpty then pure (← get).selected else handleName start fuel first
      return told (← closeHandle start name)
    | "eof" => do
      let name ← if es.isEmpty then pure ((← get).lastRead.getD "ARGV".toList)
        else handleName start fuel first
      return [.ofBool (← isAtEnd name)]
    | "readdir" => do
      let name ← handleName start fuel first
      match ← handle? name with
      | some handle =>
        let names := handle.names.getD []
        if wantsList then
          setHandle name { handle with names := some [] }
          return names.map .text
        else
          setHandle name { handle with names := some (names.drop 1) }
          return [(names.head?.map Scalar.text).getD .undefined]
      | none => return [.undefined]
    | "readline" =>
      if wantsList then values start fuel (.readLine first)
      else return [← value start fuel (.readLine first)]
    | "select" => do
      match es with
      | [e] => do
        let before := (← get).selected
        let name ← handleName start fuel e
        modify fun s => { s with selected := name }
        return [.handle before]
      | [] => return [.handle (← get).selected]
      | _ => return [.whole 0]
    | "fileno" => do
      match String.ofList (← handleName start fuel first) with
      | "STDIN" => return [.whole 0]
      | "STDOUT" => return [.whole 1]
      | "STDERR" => return [.whole 2]
      | _ => return [.whole 3]
    | "read" => do
      let name ← handleName start fuel first
      openStandard name
      let count := (← value start fuel (es[2]?.getD .topic)).toInt.toNat
      match ← handle? name, es[1]? with
      | some handle, some target => do
        let input := handle.input.getD { rest := [] }
        let text := input.rest.take count
        setHandle name { handle with
          input := some { input with rest := input.rest.drop text.length } }
        assign start fuel target (.text text)
        return [.ofNat text.length]
      | _, _ => return [.undefined]
    | "syswrite" => do
      let name ← handleName start fuel first
      let text := (← value start fuel (es[1]?.getD .topic)).toText
      let _ ← emitTo name text
      return [.ofNat text.length]
    | _ => return [.undefined]
termination_by structural fuel => fuel

/-- Calls a function that gets a block. -/
def applied (start : Starter) : (fuel : Nat) → (wantsList : Bool) → (name : String) →
    Option (List Statement) → List Expr → Work (List Scalar)
  | 0, _, _, _, _ => return []
  | fuel + 1, wantsList, name, body, es => do
    let cells ← cellsOf start fuel (.list es)
    let body? := body
    let body := body.getD []
    let holds : Work Bool := do
      let vs ← inBlock (lastValues start fuel (some false) body)
      return (vs.getLast?.getD .undefined).isTrue
    match name with
    | "map" => do
      let parts ← forTopics cells fun _ => inBlock (lastValues start fuel (some true) body)
      let vs := parts.flatten
      return if wantsList then vs else [.ofNat vs.length]
    | "grep" => do
      let kept ← forTopics cells fun id => do return if ← holds then [id] else []
      let cells := kept.flatten
      if wantsList then cells.mapM cell else return [.ofNat cells.length]
    | "first" => do
      let kept ← forTopics cells fun id => do return if ← holds then [id] else []
      match kept.flatten with
      | id :: _ => return [← cell id]
      | [] => return [.undefined]
    | "any" | "all" | "none" | "notall" => do
      let told ← forTopics cells fun _ => holds
      return [.ofBool (match name with
        | "any" => told.any id
        | "all" => told.all id
        | "notall" => !told.all id
        | _ => !told.any id)]
    | "reductions" => do
      match cells with
      | [] => return []
      | id :: ids => do
        let (_, done) ← comparing (ids.foldlM
          (fun ((before, done) : Nat × List Nat) next => do
            bindShared ['$', 'a'] before
            bindShared ['$', 'b'] next
            let vs ← inBlock (lastValues start fuel (some false) body)
            let id ← newCell (vs.getLast?.getD .undefined)
            return (id, id :: done))
          (id, [id]))
        let vs ← done.reverse.mapM cell
        return if wantsList then vs else [.ofNat vs.length]
    | "pairmap" | "pairgrep" => do
      let pairs := pairList (← cells.mapM cell)
      let _ ← shared .scalar ['a']
      let _ ← shared .scalar ['b']
      let parts ← comparing (pairs.mapM fun pair => do
        bindShared ['$', 'a'] (← newCell (firstOf pair))
        bindShared ['$', 'b'] (← newCell (firstOf (pair.drop 1)))
        if name = "pairmap" then inBlock (lastValues start fuel (some true) body)
        else return if ← holds then pair else [])
      return if wantsList then parts.flatten else [.ofNat parts.flatten.length]
    | "reduce" => do
      match cells with
      | [] => return [.undefined]
      | id :: ids => do
        let last ← comparing (ids.foldlM
          (fun before next => do
            bindShared ['$', 'a'] before
            bindShared ['$', 'b'] next
            let vs ← inBlock (lastValues start fuel (some false) body)
            newCell (vs.getLast?.getD .undefined))
          id)
        return [← cell last]
    | _ => do
      let isBehind (a b : Nat) : Work Bool := do
        match body? with
        | none => return compareTexts (← cell a).toText (← cell b).toText == .gt
        | some body => do
          bindShared ['$', 'a'] a
          bindShared ['$', 'b'] b
          let vs ← inBlock (lastValues start fuel (some false) body)
          return 0 < (vs.getLast?.getD .undefined).toInt
      let _ ← shared .scalar ['a']
      let _ ← shared .scalar ['b']
      let sorted ← comparing (sortBy isBehind (cells.length + 1) cells)
      sorted.mapM cell
termination_by structural fuel => fuel

def run (start : Starter) : (fuel : Nat) → Statement → Work Unit
  | 0, _ => return ()
  | fuel + 1, s => do
    match s with
    | .expression line e => do
      markLine line
      perform start fuel e
    | .choose line condition accepted refused => do
      markLine line
      let chosen ← do pure (if ← holds start fuel condition then accepted else refused)
      match chosen with
      | [.expression line e] => do
        markLine line
        perform start fuel e
      | chosen => inBlock (runAll start fuel chosen)
    | .loop label testsFirst condition between body =>
      inBlock (runLoop start fuel label testsFirst condition between body)
    | .each label isNew name vs body => do
      let cells ← cellsOf start fuel vs
      let full := '$' :: name
      let isOwn := isNew || ((← get).env.lookup full).isSome
      if isOwn then inGap (runEach start fuel label isOwn full cells body)
      else
        let old ← shared .scalar name
        let result ← caught (inGap (runEach start fuel label isOwn full cells body))
        bindShared full old
        ExceptT.mk (pure result)
    | .block label body => do
      let _ ← turn label (runAll start fuel body)
    | .define name _ => do
      let env := (← get).env
      if env.length != (← get).topEnv.length then
        match (← get).functions[name]? with
        | some id =>
          modify fun s =>
            { s with codes := s.codes.modify id fun code => { code with env := some env } }
        | none => pure ()
termination_by structural fuel => fuel

def runAll (start : Starter) : (fuel : Nat) → List Statement → Work Unit
  | 0, _ => return ()
  | fuel + 1, statements => do
    match statements with
    | [] => return ()
    | s :: statements => do
      asStatement s (run start fuel s)
      bury start fuel []
      runAll start fuel statements
termination_by structural fuel => fuel

def runLoop (start : Starter) : (fuel : Nat) → (label : Octets) → (testsFirst : Bool) →
    (condition between : Option Expr) → List Statement → Work Unit
  | 0, _, _, _, _, _ => return ()
  | fuel + 1, label, testsFirst, condition, between, body => do
    let env := (← get).env
    let goesOn ← match testsFirst, condition with
      | true, some condition => holds start fuel condition
      | _, _ => pure true
    if goesOn then
      let goesOn ← turn label (runAll start fuel body)
      bury start fuel []
      if goesOn then
        match between with
        | some e => perform start fuel e
        | none => pure ()
        modify fun s => { s with env }
        runLoop start fuel label true condition between body
termination_by structural fuel => fuel

def runEach (start : Starter) : (fuel : Nat) → (label : Octets) → (isOwn : Bool) →
    (full : Octets) → List Nat → List Statement → Work Unit
  | 0, _, _, _, _, _ => return ()
  | fuel + 1, label, isOwn, full, cells, body => do
    match cells with
    | [] => return ()
    | id :: cells => do
      let goesOn ← turn label do
        if isOwn then modify fun s => { s with env := (full, id) :: s.env } else bindShared full id
        runAll start fuel body
      bury start fuel []
      if goesOn then runEach start fuel label isOwn full cells body
termination_by structural fuel => fuel

end

end NextRelease.Shell.Perl.Work
