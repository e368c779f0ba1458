import NextRelease.Shell.Expand
import NextRelease.Shell.Perl.Packing
import NextRelease.Shell.Perl.Lifetime
import NextRelease.Shell.Permission
import NextRelease.Shell.Test
import NextRelease.Shell.Tool.Date
import NextRelease.Shell.Tool.Filing
import NextRelease.Shell.Tool.Status

/-!
What operators and functions make of values that are known, and what they do to files.
-/

namespace NextRelease.Shell.Perl.Work

/-! ## Operators -/

def joinBits (f : Nat → Nat → Nat) (size : Nat) (a b : Octets) : Octets :=
  (List.range size).map fun i =>
    Char.ofNat (f ((a[i]?.getD '\x00').toNat) ((b[i]?.getD '\x00').toNat))

def bitwise (f : Nat → Nat → Nat) (keepsShorter : Bool) (a b : Scalar) : Scalar :=
  match a, b with
  | .text s, .text t =>
    let size := if keepsShorter then min s.length t.length else max s.length t.length
    .text (joinBits f size s t)
  | a, b => .whole (f a.toQuantity.toWord b.toQuantity.toWord)

def shifted (left : Bool) (a b : Scalar) : Scalar :=
  let n := b.toInt
  let left := left != decide (n < 0)
  let size := n.natAbs
  let word := a.toQuantity.toWord
  if 64 ≤ size then .whole 0
  else if left then .whole (word * Nat.pow 2 size % 18446744073709551616)
  else .whole (word / Nat.pow 2 size)

def operate (op : Operator) (a b : Scalar) : Work Scalar := do
  let compared (p : Ordering → Bool) : Scalar :=
    .ofBool ((a.toQuantity.compare? b.toQuantity).any p)
  let spelled (p : Ordering → Bool) : Scalar := .ofBool (p (compareTexts a.toText b.toText))
  match op with
  | .add => return (a.toQuantity.add b.toQuantity).toScalar
  | .subtract => return (a.toQuantity.subtract b.toQuantity).toScalar
  | .multiply => return (a.toQuantity.multiply b.toQuantity).toScalar
  | .divide =>
    if b.toQuantity.isZero then failAt "Illegal division by zero"
    return (a.toQuantity.divide b.toQuantity).toScalar
  | .remainder =>
    if b.toInt = 0 then failAt "Illegal modulus zero"
    return (a.toQuantity.remainder b.toQuantity).toScalar
  | .power => return (a.toQuantity.power b.toQuantity).toScalar
  | .join => return .text (a.toText ++ b.toText)
  | .replicate => return .text (List.replicate b.toInt.toNat a.toText).flatten
  | .shiftLeft => return shifted true a b
  | .shiftRight => return shifted false a b
  | .bitAnd => return bitwise (fun m n => m &&& n) true a b
  | .bitOr => return bitwise (fun m n => m ||| n) false a b
  | .bitXor => return bitwise Nat.xor false a b
  | .less => return compared (· == .lt)
  | .atMost => return compared (· != .gt)
  | .greater => return compared (· == .gt)
  | .atLeast => return compared (· != .lt)
  | .equal => return compared (· == .eq)
  | .different => return .ofBool (a.toQuantity.compare? b.toQuantity != some .eq)
  | .order =>
    return ((a.toQuantity.compare? b.toQuantity).map orderScalar).getD .undefined
  | .textLess => return spelled (· == .lt)
  | .textAtMost => return spelled (· != .gt)
  | .textGreater => return spelled (· == .gt)
  | .textAtLeast => return spelled (· != .lt)
  | .textEqual => return .ofBool (a.toText == b.toText)
  | .textDifferent => return .ofBool (a.toText != b.toText)
  | .textOrder => return orderScalar (compareTexts a.toText b.toText)

def negated (v : Scalar) : Scalar :=
  match v with
  | .text s =>
    let (_, rest) := cutQuantity s
    let isNumber := rest.length < s.length || s.isEmpty
    match s with
    | '-' :: more => if isNumber then v.toQuantity.negate.toScalar else .text ('+' :: more)
    | '+' :: more => if isNumber then v.toQuantity.negate.toScalar else .text ('-' :: more)
    | c :: _ =>
      if !isNumber && isNameStart c then .text ('-' :: s) else v.toQuantity.negate.toScalar
    | [] => .whole 0
  | v => v.toQuantity.negate.toScalar

/-! ## Functions of single values -/

def kindOf (v : Scalar) : Work Octets := do
  match v with
  | .cellRef id =>
    match ← cell id with
    | .cellRef _ | .listRef _ | .tableRef _ | .codeRef _ => return "REF".toList
    | _ => return "SCALAR".toList
  | .listRef _ => return "ARRAY".toList
  | .tableRef _ => return "HASH".toList
  | .codeRef _ => return "CODE".toList
  | .handle _ => return "GLOB".toList
  | _ => return []

def nextRandom : Work Float := do
  let next := ((← get).seed * 1103515245 + 12345) % 2147483648
  modify fun s => { s with seed := next }
  return Float.ofNat next / 2147483648

def textFunction? (name : String) : Option (Octets → Scalar) :=
  match name with
  | "length" => some fun s => .ofNat s.length
  | "lc" | "fc" => some fun s => .text (s.map Char.toLower)
  | "uc" => some fun s => .text (s.map Char.toUpper)
  | "lcfirst" => some fun s => .text (mapFirst Char.toLower s)
  | "ucfirst" => some fun s => .text (mapFirst Char.toUpper s)
  | "ord" => some fun s => .ofNat ((s.head?.map Char.toNat).getD 0)
  | "hex" => some hexValue
  | "oct" => some octValue
  | "quotemeta" => some fun s => .text (quotedPattern s)
  | _ => none

def numberFunction? (name : String) : Option (Float → Float) :=
  match name with
  | "sin" => some Float.sin
  | "cos" => some Float.cos
  | "exp" => some Float.exp
  | "floor" => some Float.floor
  | "ceil" => some Float.ceil
  | _ => none

def indexIn (last : Bool) (text part : Octets) (start : Option Int) : Int :=
  let size : Int := text.length
  if last then
    let most := (start.getD size).toNat
    let places := (placesOf part 0 text).filter (· ≤ most)
    if start.any (· < 0) && !part.isEmpty then -1 else (places.getLast?.map Int.ofNat).getD (-1)
  else
    let low := min (max (start.getD 0) 0) size
    ((placeOf? part low.toNat (text.drop low.toNat)).map Int.ofNat).getD (-1)

def partOf (text : Octets) (start : Int) (count : Option Int) : Scalar :=
  match partBounds? text.length start count with
  | some (first, last) => .text ((text.drop first).take (last - first))
  | none => .undefined

/-- Functions whose arguments are single values. -/
def valueFunction? (name : String) : Option (List Scalar → Work Scalar) :=
  let first (vs : List Scalar) : Scalar := vs.head?.getD .undefined
  let real (vs : List Scalar) : Float := (first vs).toQuantity.toFloat
  let spelled (vs : List Scalar) : String := String.ofList (first vs).toQuantity.toScalar.toText
  match textFunction? name, numberFunction? name with
  | some f, _ => some fun vs =>
    if name = "length" && !(first vs).isDefined then return .undefined
    else return f (first vs).toText
  | none, some f => some fun vs => return (Quantity.real (f (real vs))).settled.toScalar
  | none, none =>
    match name with
    | "chr" => some fun vs => return .text (characterOctets (first vs).toInt.toNat)
    | "abs" => some fun vs =>
      match (first vs).toQuantity with
      | .whole n => return .whole n.natAbs
      | .real x => return .real x.abs
    | "int" => some fun vs => return wholePart (first vs).toQuantity
    | "sqrt" => some fun vs => do
      if real vs < 0 then failAt ("Can't take sqrt of " ++ spelled vs)
      return (Quantity.real (real vs).sqrt).settled.toScalar
    | "log" => some fun vs => do
      if real vs ≤ 0 then failAt ("Can't take log of " ++ spelled vs)
      return .real (real vs).log
    | "atan2" | "pow" | "fmod" => some fun vs => do
      let x := real vs
      let y := real (vs.drop 1)
      let result := match name with
        | "atan2" => x.atan2 y
        | "pow" => x.pow y
        | _ => (Binary64.remainder (Binary64.ofFloat x) (Binary64.ofFloat y)).toFloat
      return (Quantity.real result).settled.toScalar
    | "ref" => some fun vs => do
      match ← classOf? (first vs) with
      | some className => return .text className
      | none => return .text (← kindOf (first vs))
    | "index" | "rindex" => some fun vs =>
      let part := (first (vs.drop 1)).toText
      let start := (vs[2]?).map Scalar.toInt
      return .whole (indexIn (name = "rindex") (first vs).toText part start)
    | "substr" => some fun vs =>
      return partOf (first vs).toText (first (vs.drop 1)).toInt ((vs[2]?).map Scalar.toInt)
    | "rand" => some fun vs => do
      let most := if real vs == 0 then 1 else real vs
      return .real ((← nextRandom) * most)
    | "srand" => some fun vs => do
      modify fun s => { s with seed := (first vs).toInt.natAbs }
      return .whole (first vs).toInt.natAbs
    | "sleep" | "alarm" => some fun vs => return .whole (first vs).toInt
    | "time" => some fun _ => return .whole (Tool.presentSeconds (← act get))
    | "bless" => some fun vs => do
      match (first vs).target? with
      | none => failAt "Can't bless non-reference value"
      | some target => do
        if (first (vs.drop 1)).target?.isSome then failAt "Attempt to bless into a reference"
        let className := (first (vs.drop 1)).toText
        let className := if className.isEmpty then "main".toList else className
        modify fun s => { s with classes := s.classes.insert target className }
        noteObject target className
        return first vs
    | "binmode" | "utime" | "seek" | "lock" => some fun _ => return .whole 1
    | "wait" | "waitpid" | "times" | "fork" => some fun _ => return .undefined
    | "getppid" => some fun _ => return .whole 1
    | _ => none

/-! ## Functions of lists -/

def firstOnes : List Octets → List Scalar → List Scalar
  | _, [] => []
  | seen, v :: vs =>
    if seen.contains v.toText then firstOnes seen vs else v :: firstOnes (v.toText :: seen) vs

def folded (op : Operator) (start : Scalar) (vs : List Scalar) : Work Scalar :=
  vs.foldlM (operate op) start

def foremost (compare : Scalar → Scalar → Ordering) (wanted : Ordering) (vs : List Scalar) :
    Scalar :=
  match vs with
  | [] => .undefined
  | v :: vs => vs.foldl (fun best v => if compare v best = wanted then v else best) v

def placed (text : Octets) : Work Octets := do
  let here ← place
  return if text.getLast? = some '\n' then text else text ++ here

def listFunction? (name : String) : Option (List Scalar → Work (List Scalar)) :=
  let number (a b : Scalar) : Ordering := (a.toQuantity.compare? b.toQuantity).getD .eq
  let text (a b : Scalar) : Ordering := compareTexts a.toText b.toText
  match name with
  | "sprintf" => some fun vs =>
    return [.text (sprintf (vs.head?.getD .undefined).toText (vs.drop 1))]
  | "join" => some fun vs =>
    let between := (vs.head?.getD .undefined).toText
    return [.text (List.intercalate between ((vs.drop 1).map Scalar.toText))]
  | "sum" => some fun vs => do
    let total ← folded .add (.whole 0) vs
    return [if vs.isEmpty then .undefined else total]
  | "sum0" => some fun vs => do return [← folded .add (.whole 0) vs]
  | "product" => some fun vs => do return [← folded .multiply (.whole 1) vs]
  | "max" => some fun vs => return [foremost number .gt vs]
  | "min" => some fun vs => return [foremost number .lt vs]
  | "maxstr" => some fun vs => return [foremost text .gt vs]
  | "minstr" => some fun vs => return [foremost text .lt vs]
  | "uniq" | "uniqnum" => some fun vs => return firstOnes [] vs
  | "shuffle" => some fun vs => do
    let keyed ← vs.mapM fun v => do return (← nextRandom, v)
    return (keyed.mergeSort fun a b => a.1 ≤ b.1).map (·.2)
  | "pack" => some fun vs =>
    let template := (vs.head?.getD .undefined).toText
    return [.text (pack template (vs.drop 1))]
  | "strftime" => some fun vs =>
    return [.text (momentFormatted (vs.head?.getD .undefined).toText
      ((vs.drop 1).map Scalar.toInt))]
  | _ => none

/-! ## Files -/

def changing (change : Machine → Except FileFault FileTree) : Work Bool := do
  match ← act (Tool.changeFiles change) with
  | .ok () => return true
  | .error fault => do
    setFileFault fault
    return false

def countChanged (paths : List Octets) (change : Octets → Work Bool) : Work Scalar := do
  let results ← paths.mapM change
  return .ofNat (results.filter id).length

def moved (m : Machine) (source goal : Octets) : Except FileFault FileTree := do
  let place ← m.entry source
  if (m.files.get? place).isNone then throw .notFound
  let goal ← m.entry goal
  if goal = place then return m.files
  match m.files.get? goal, m.files.get? place with
  | some .directory, some .directory =>
    if (m.files.below goal).isEmpty then return m.files.relocate place goal else throw .occupied
  | some .directory, _ => throw .isADirectory
  | some _, some .directory => throw .notADirectory
  | _, _ => return m.files.relocate place goal

def linked (m : Machine) (text path : Octets) : Except FileFault FileTree := do
  let place ← m.entry path
  if (m.files.get? place).isSome then throw .alreadyExists
  let _ ← m.files.locate (m.route path)
  return m.files.insert place (.link (textOf text))

def fileTest (m : Machine) (letter : Char) (path : Octets) : Scalar :=
  let size : Except FileFault Nat := (Tool.statusOf m true path).map Tool.Status.size
  match letter, size with
  | 'l', _ => .ofBool (Test.isLink m path)
  | 's', .ok n => if n = 0 then .text [] else .ofNat n
  | 'z', .ok n => .ofBool (n = 0)
  | 's', .error _ | 'z', .error _ => .undefined
  | letter, .ok _ => .ofBool (Test.checkUnary m ['-', letter] path)
  | _, .error _ => .undefined

/-- Functions that change files or tell of them. -/
def fileFunction? (name : String) : Option (List Scalar → Work (List Scalar)) :=
  let first (vs : List Scalar) : Octets := (vs.head?.getD .undefined).toText
  let told (b : Bool) : List Scalar := [if b then .whole 1 else .whole 0]
  match name with
  | "unlink" => some fun vs => do
    return [← countChanged (vs.map Scalar.toText) fun path =>
      changing fun m => m.files.removeFile (m.route path)]
  | "mkdir" => some fun vs => do
    match ← act (Tool.makeOne [] false (first vs)) with
    | .ok () => return told true
    | .error fault => do
      setFileFault fault
      return told false
  | "rmdir" => some fun vs => do
    match ← act (Tool.removeDirectory (first vs)) with
    | .ok () => return told true
    | .error text => do
      let codes := [2, 20, 13, 39, 36, 40]
      setFault ((codes.find? fun code => (faultMessage code).toList == text).getD 22)
      return told false
  | "rename" => some fun vs => do
    return told (← changing fun m => moved m (first vs) (first (vs.drop 1)))
  | "symlink" => some fun vs => do
    return told (← changing fun m => linked m (first vs) (first (vs.drop 1)))
  | "link" => some fun vs => do
    return told (← changing fun m => do
      let bytes ← m.files.read (m.route (first vs))
      m.files.write (m.route (first (vs.drop 1))) bytes)
  | "readlink" => some fun vs => do
    let m ← act get
    match m.entry (first vs) with
    | .error fault => do
      setFileFault fault
      return [.undefined]
    | .ok place =>
      match m.files.get? place with
      | some (.link text) => return [.text (octets text)]
      | some _ => do
        setFault 22
        return [.undefined]
      | none => do
        setFault 2
        return [.undefined]
  | "chmod" => some fun vs => do
    let mode := (vs.head?.getD .undefined).toInt.toNat
    return [← countChanged ((vs.drop 1).map Scalar.toText) fun path =>
      changing fun m => do
        let place ← m.files.locate (m.route path)
        if (m.files.get? place).isNone then throw .notFound
        return m.files.setMode place mode]
  | "chdir" => some fun vs => do
    let m ← act get
    match m.status? (first vs), m.files.locate (m.route (first vs)) with
    | .ok .directory, .ok place => do
      act (set { m with cwd := place, logical := place })
      return told true
    | .ok _, _ => do
      setFault 20
      return told false
    | .error fault, _ => do
      setFileFault fault
      return told false
  | "umask" => some fun vs => do
    let old := (← act get).mask
    match vs with
    | v :: _ => act (modify fun m => { m with mask := v.toInt.toNat % 512 })
    | [] => pure ()
    return [.ofNat old]
  | "stat" | "lstat" => some fun vs => do
    let m ← act get
    match Tool.statusOf m (name = "stat") (first vs) with
    | .ok s =>
      let seconds (time : Int) : Scalar := .whole (time / 1000000000)
      let now := seconds m.files.now
      return [.whole 64, .whole 1, .ofNat (s.kindBits + s.mode), .ofNat s.links, .whole 0, .whole 0,
        .whole 0, .ofNat s.size, seconds s.times.read, seconds s.times.changed, now, .whole 4096,
          .ofNat s.blocks]
    | .error fault => do
      setFileFault fault
      return []
  | _ => none

/-! ## Names of files by patterns -/

def bracedTexts : (fuel : Nat) → Octets → List Octets
  | 0, text => [text]
  | fuel + 1, text =>
    let front := text.takeWhile (· != '\x7b')
    match text.drop front.length with
    | '\x7b' :: '\x7d' :: rest =>
      (bracedTexts fuel rest).map fun back => front ++ '\x7b' :: '\x7d' :: back
    | _ :: rest =>
      match delimited '\x7b' (rest.length + 1) 0 rest with
      | some (inner, rest) =>
        let middles := (parts 0 [] inner).flatMap (bracedTexts fuel)
        let backs := bracedTexts fuel rest
        middles.flatMap fun middle => backs.map fun back => front ++ middle ++ back
      | none => [text]
    | [] => [text]
where
  parts : (depth : Nat) → (done : Octets) → Octets → List Octets
    | _, done, [] => [done.reverse]
    | depth, done, c :: cs =>
      if c = ',' && depth = 0 then done.reverse :: parts 0 [] cs
      else
        let depth := if c = '\x7b' then depth + 1 else if c = '\x7d' then depth - 1 else depth
        parts depth (c :: done) cs

def matchingNames (m : Machine) (text : Octets) : List Octets :=
  let words := (wordsOfText (text.length + 1) text).flatMap fun word =>
    bracedTexts (word.length + 1) word
  let lower (s : Octets) : Octets := s.map Char.toLower
  words.flatMap fun word =>
    let field := marked false word
    if isPattern field then
      (SortedSet.ofList (matchPaths m [] (splitPath field))).mergeSort fun s t =>
        compareTexts (lower s) (lower t) != .gt
    else [word]

def takeNames (wantsList : Bool) (place : Nat) (text : Octets) : Work (List Scalar) := do
  let m ← act get
  if wantsList then return (matchingNames m text).map .text
  let names := ((← get).namesLeft.lookup place).getD (matchingNames m text)
  let others := (← get).namesLeft.filter fun entry => entry.1 != place
  match names with
  | [] => do
    modify fun s => { s with namesLeft := others }
    return [.undefined]
  | name :: names => do
    modify fun s => { s with namesLeft := (place, names) :: others }
    return [.text name]

/-! ## Handles -/

inductive Opened where
  | reads (path : Octets)
  | writes (appends : Bool) (path : Octets)
  | readsCommand (words : List Octets)
  | writesCommand (words : List Octets)
  | shares (name : Octets)
  | cell (id : Nat) (reads : Bool) (keeps : Bool)

def trimmed (text : Octets) : Octets :=
  (((text.dropWhile isSpaceChar).reverse).dropWhile isSpaceChar).reverse

def readDescription (text : Octets) : Opened :=
  match trimmed text with
  | '+' :: '<' :: path | '<' :: path => .reads (trimmed path)
  | '>' :: '&' :: name => .shares (trimmed (name.dropWhile (· == '=')))
  | '>' :: '>' :: path => .writes true (trimmed path)
  | '+' :: '>' :: path | '>' :: path => .writes false (trimmed path)
  | '|' :: command => .writesCommand [trimmed command]
  | text =>
    if text.getLast? = some '|' then .readsCommand [trimmed text.dropLast] else .reads text

def readWay (way : Octets) (vs : List Scalar) : Opened :=
  let sign := trimmed (way.takeWhile (· != ':'))
  let words := vs.map Scalar.toText
  let path := words.head?.getD []
  match String.ofList sign, vs with
  | "<", [.cellRef id] => .cell id true true
  | ">", [.cellRef id] => .cell id false false
  | ">>", [.cellRef id] => .cell id false true
  | "<", _ | "+<", _ => .reads path
  | ">>", _ => .writes true path
  | ">&", _ | ">>&", _ => .shares path
  | "-|", _ => .readsCommand words
  | "|-", _ => .writesCommand words
  | _, _ => .writes false path

def connectHandle (name : Octets) (channel : Channel) : Work Unit := do
  match String.ofList name with
  | "STDOUT" => do
    flush
    act (modify fun m => m.connect 1 (some channel))
  | "STDERR" => act (modify fun m => m.connect 2 (some channel))
  | _ => setHandle name { channel := some channel }

def channelOf? (name : Octets) : Work (Option Channel) := do
  let m ← act get
  match String.ofList name, ← handle? name with
  | "STDOUT", none | "1", none => return m.channel? 1
  | "STDERR", none | "2", none => return m.channel? 2
  | _, some handle => return handle.channel
  | _, none => return none

def isFound (m : Machine) (isThere : Octets → Bool) (words : List Octets) : Bool :=
  match words with
  | [text] => needsShell text || isThere (text.takeWhile fun c => !isSpaceChar c)
  | word :: _ => m.hasKind .file word || isThere word
  | [] => false

def openHandle (start : Starter) (name : Octets) (opened : Opened) : Work Bool := do
  if (← handle? name).isSome then
    let _ ← closeHandle start name
  match opened with
  | .reads path => do
    match ← act (Tool.openInput path) with
    | .ok input => do
      setHandle name { input := some input }
      return true
    | .error .isADirectory => do
      setHandle name { input := some { rest := [] } }
      return true
    | .error fault => do
      setFileFault fault
      return false
  | .writes appends path => do
    if path = ['-'] then
      match ← channelOf? "STDOUT".toList with
      | some channel => do
        flush
        connectHandle name channel
        return true
      | none => return false
    match ← act (Tool.openOutput appends path) with
    | .ok channel => do
      connectHandle name channel
      return true
    | .error fault => do
      setFileFault fault
      return false
  | .readsCommand words => do
    let (input, fate) ← outputOf start words
    match fate with
    | none => do
      setFault 2
      return false
    | some fate => do
      setHandle name { input := some input, fate := some fate }
      return true
  | .writesCommand words => do
    setHandle name { command := some words }
    return true
  | .shares other => do
    flushAll
    match ← channelOf? other with
    | some channel => do
      connectHandle name channel
      return true
    | none => do
      setFault 9
      return false
  | .cell id reads keeps => do
    if reads then setHandle name { input := some { rest := (← cell id).toText } }
    else
      if !keeps then setCell id (.text [])
      setHandle name { cell := some id }
    return true

end NextRelease.Shell.Perl.Work
