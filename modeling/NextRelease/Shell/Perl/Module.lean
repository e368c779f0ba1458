import NextRelease.Shell.Digest
import NextRelease.Shell.Perl.Builtin
import NextRelease.Shell.Perl.Document
import NextRelease.Shell.Tool.Encoding
import NextRelease.Shell.Tool.Values

/-!
The modules that scripts find ready: documents, dumps of values, names of files, sums of texts and
complaints that name the place of a call. What needs functions of the script gets a way to call
them.
-/

namespace NextRelease.Shell.Perl.Work

abbrev Caller := (id : Nat) → List Scalar → Work Scalar

def told (b : Bool) : List Scalar := [.ofBool b]

def firstOf (vs : List Scalar) : Scalar := vs.head?.getD .undefined

/-! ## Documents -/

structure Coder where
  style : Document.Style := {}
  manner : Document.Manner := {}
  takesObjects : Bool := false
  convertsObjects : Bool := false
  takesAnything : Bool := false

def coderSettings : List String :=
  ["ascii", "latin1", "utf8", "indent", "canonical", "space_before", "space_after", "relaxed",
    "allow_nonref", "allow_blessed", "convert_blessed", "allow_unknown", "allow_bignum", "loose",
    "escape_slash", "allow_barekey", "allow_singlequote", "allow_tags", "shrink", "unblessed_bool",
    "boolean_values", "core_bools"]

def setting (table : Nat) (name : String) : Work Scalar := do
  match ← readTable table fun t => t.cell? name.toList with
  | some id => cell id
  | none => return .undefined

def setSetting (table : Nat) (name : String) (v : Scalar) : Work Unit := do
  setCell (← entryOf table name.toList) v

def coderOf (table : Nat) : Work Coder := do
  let has (name : String) : Work Bool := do return (← setting table name).isTrue
  let number (name : String) (usual : Nat) : Work Nat := do
    match ← setting table name with
    | .undefined => return usual
    | v => return v.toInt.toNat
  let isEncoded ← has "utf8"
  return {
    style := {
      isEncoded, isAscii := ← has "ascii", isIndented := ← has "indent"
      spacesBefore := ← has "space_before", spacesAfter := ← has "space_after"
      isSorted := ← has "canonical", escapesSlash := ← has "escape_slash"
      indent := ← number "indent_length" 3 }
    manner := {
      isEncoded, isRelaxed := ← has "relaxed"
      takesScalars := (← setting table "allow_nonref").isTrue
      deepest := ← number "max_depth" 512 }
    takesObjects := ← has "allow_blessed"
    convertsObjects := ← has "convert_blessed"
    takesAnything := ← has "allow_unknown" }

def refuseObject (v : Scalar) : Work Octets := do
  let text ← plainText v
  failAt ("encountered object '" ++ String.ofList text ++
    "', but neither allow_blessed, convert_blessed nor allow_tags settings are enabled" ++
    " (or TO_JSON/FREEZE method missing)")

/-- Writes a value as part of a document; `fuel` is how deep it may be nested. -/
def documentText (call : Caller) (c : Coder) : (fuel : Nat) → (depth : Nat) → Scalar → Work Octets
  | 0, _, _ => failAt Document.tooDeep
  | fuel + 1, depth, v => do
    let written (v : Scalar) : Work Octets := documentText call c fuel (depth + 1) v
    let unknown (reason : String) : Work Octets :=
      if c.takesAnything then pure "null".toList else failAt reason
    match v, ← classOf? v with
    | .truth b, _ => return (if b then "true" else "false").toList
    | v, some className =>
      match ← methodIn? (← lineageOf className) "TO_JSON".toList, c.convertsObjects with
      | some id, true => do documentText call c fuel depth (← call id [v])
      | _, _ => if c.takesObjects then pure "null".toList else refuseObject v
    | .listRef id, none => do
      let parts ← (← listValues id).mapM written
      return Document.bracketed c.style depth '[' ']' parts
    | .tableRef id, none => do
      let keys ← readTable id Table.keys
      let keys :=
        if c.style.isSorted then keys.mergeSort fun s t => compareTexts s t != .gt else keys
      let parts ← keys.mapM fun key => do
        return Document.entryText c.style key (← written (← cell (← entryOf id key)))
      return Document.bracketed c.style depth '\x7b' '\x7d' parts
    | .cellRef id, none => do
      match (← cell id).toText with
      | ['1'] => return "true".toList
      | ['0'] => return "false".toList
      | _ => unknown "cannot encode reference to scalar"
    | .codeRef _, none | .handle _, none =>
      unknown ("encountered " ++ String.ofList v.toText ++
        ", but JSON can only represent references to arrays or hashes")
    | .undefined, none => return "null".toList
    | .whole _, none | .real _, none => return v.toText
    | v, none => return Document.quotedText c.style v.toText

def valueOfDocument : (fuel : Nat) → Document → Work Scalar
  | 0, _ => return .undefined
  | fuel + 1, d => do
    match d with
    | .undefined => return .undefined
    | .truth b => return .truth b
    | .scalar v => return v
    | .list items => do
      let cells ← newCells (← items.mapM fun d => valueOfDocument fuel d)
      return .listRef (← newList cells.toArray)
    | .table entries => do
      let id ← newTable
      entries.forM fun (key, d) => do
        setCell (← entryOf id key) (← valueOfDocument fuel d)
      return .tableRef id

def encodeDocument (call : Caller) (c : Coder) (v : Scalar) : Work Octets := do
  let text ← documentText call c (c.manner.deepest + 2) 0 v
  return if c.style.isIndented then text ++ ['\n'] else text

def decodeDocument (c : Coder) (v : Scalar) : Work Scalar := do
  match v with
  | .undefined =>
    failAt ("malformed JSON string, neither array, object, number, string or atom, at character " ++
      "offset 0 (before \"(end of string)\")")
  | v =>
    match Document.ofText c.manner v.toText with
    | .ok d => valueOfDocument (v.toText.length + 2) d
    | .error reason => failAt (String.ofList reason)

def plainCoder : Coder :=
  { style := { isEncoded := true }, manner := { isEncoded := true } }

/-- What an object that writes and reads documents does. -/
def coderMethod? (call : Caller) (name : String) :
    Option (Scalar → List Scalar → Work (List Scalar)) :=
  let changing (names : List String) (self : Scalar) (vs : List Scalar) : Work (List Scalar) := do
    match self with
    | .tableRef id =>
      let on : Scalar := .ofBool (vs.isEmpty || (firstOf vs).isTrue)
      names.forM fun name => setSetting id name on
      return [self]
    | self => return [self]
  let coder (self : Scalar) : Work Coder :=
    match self with
    | .tableRef id => coderOf id
    | _ => return {}
  match name with
  | "new" => some fun self _ => do
    let id ← newTable
    setSetting id "allow_nonref" (.whole 1)
    modify fun s => { s with classes := s.classes.insert (2, id) self.toText }
    return [.tableRef id]
  | "encode" => some fun self vs => do
    return [.text (← encodeDocument call (← coder self) (firstOf vs))]
  | "decode" => some fun self vs => do
    return [← decodeDocument (← coder self) (firstOf vs)]
  | "pretty" => some (changing ["indent", "space_before", "space_after"])
  | "indent_length" | "max_depth" | "max_size" | "sort_by" => some fun self vs => do
    match self with
    | .tableRef id =>
      if name = "sort_by" then setSetting id "canonical" (.whole 1)
      else setSetting id name (firstOf vs)
      return [self]
    | self => return [self]
  | "true" => some fun _ _ => return [.truth true]
  | "false" => some fun _ _ => return [.truth false]
  | "null" => some fun _ _ => return [.undefined]
  | "is_bool" => some fun _ vs => return told (match firstOf vs with
    | .truth _ => true
    | _ => false)
  | name =>
    if coderSettings.contains name then some (changing [name])
    else
      let base := name.drop 4
      if name.startsWith "get_" && coderSettings.contains base.toString then
        some fun self _ => do
          match self with
          | .tableRef id => return told (← setting id base.toString).isTrue
          | _ => return told false
      else none

/-! ## Dumps -/

structure Dump where
  indent : Nat := 2
  isTerse : Bool := false
  isSorted : Bool := false
  escapes : Bool := false
  quotesKeys : Bool := true
  repeats : Bool := false
  deepest : Nat := 0
  pair : Octets := " => ".toList

abbrev Dumped := List ((Nat × Nat) × Octets)

def escapedText (text : Octets) : Octets :=
  ['\x22'] ++ escaped text ++ ['\x22']
where
  escaped : Octets → Octets
    | [] => []
    | c :: cs =>
      let shown : Octets := match c with
        | '\n' => "\\n".toList
        | '\t' => "\\t".toList
        | '\r' => "\\r".toList
        | '\x0c' => "\\f".toList
        | '\x08' => "\\b".toList
        | '\x07' => "\\a".toList
        | '\x1b' => "\\e".toList
        | c =>
          if "\\\x22$@".toList.contains c then ['\\', c]
          else if 32 ≤ c.toNat && c.toNat < 127 then [c]
          else
            let digits := Nat.toDigits 8 c.toNat
            let isAlone := !(cs.head?.any Char.isDigit)
            '\\' :: (if isAlone then digits else List.replicate (3 - digits.length) '0' ++ digits)
      shown ++ escaped cs

def dumpedText (text : Octets) : Octets :=
  ['\x27'] ++ text.flatMap (fun c => if c = '\x27' || c = '\\' then ['\\', c] else [c]) ++ ['\x27']

def isShortWhole (text : Octets) : Bool :=
  let digits := if text.head? = some '-' then text.drop 1 else text
  text = ['0'] || (isNumber digits && digits.head? != some '0' && digits.length ≤ 9)

def dumpedScalar (d : Dump) (v : Scalar) : Octets :=
  match v with
  | .undefined => "undef".toList
  | .whole n => if (intText n).length ≤ 10 then intText n else dumpedText (intText n)
  | v =>
    let text := v.toText
    if d.escapes then if isShortWhole text then text else escapedText text else dumpedText text

def dumpedKey (d : Dump) (key : Octets) : Octets :=
  let isPlain := (key.head?.any isNameStart && key.all isNameChar) || isShortWhole key
  if !d.quotesKeys && isPlain then key
  else if d.escapes then escapedText key
  else dumpedText key

def dumpedRegex (source : Octets) : Octets :=
  let flags := (source.drop 3).takeWhile (· != ':')
  let inner := ((source.drop (flags.length + 4)).dropLast).flatMap fun c =>
    if c = '/' then ['\\', '/'] else [c]
  "qr/".toList ++ inner ++ '/' :: flags

def dumpedParts (d : Dump) (column : Nat) (first last : Char) (parts : List Octets) : Octets :=
  if parts.isEmpty then [first, last]
  else if d.indent = 0 then [first] ++ List.intercalate [','] parts ++ [last]
  else
    let line (column : Nat) : Octets := '\n' :: List.replicate column ' '
    [first] ++ line (column + 2) ++ List.intercalate (',' :: line (column + 2)) parts ++
      line column ++ [last]

def dumpValue (d : Dump) : (fuel : Nat) → (depth column : Nat) → (name : Octets) → Scalar →
    Dumped → Work (Octets × Dumped)
  | 0, _, _, _, _, seen => return ([], seen)
  | fuel + 1, depth, column, name, v, seen => do
    match v.target? with
    | none => return (dumpedScalar d v, seen)
    | some target =>
      match if d.repeats && depth != 0 then none else seen.lookup target with
      | some known => return (known, seen)
      | none =>
        let class? ← classOf? v
        let source ← plainText v
        if d.deepest != 0 && d.deepest ≤ depth then return (dumpedText (← plainText v), seen)
        let seen := if d.repeats then seen else (target, name) :: seen
        let inner := if class?.isSome && 2 ≤ d.indent then column + 7 else column
        let step (part : Octets) : Octets :=
          name ++ (if depth = 0 then "->".toList else []) ++ part
        let (text, seen) ← match v with
          | .listRef id => do
            let vs ← listValues id
            let (parts, seen) ← (vs.zip (List.range vs.length)).foldlM
              (fun ((parts, seen) : List Octets × Dumped) (v, i) => do
                let (part, seen) ← dumpValue d fuel (depth + 1) (inner + 2)
                  (step ('[' :: natText i ++ [']'])) v seen
                return (part :: parts, seen))
              ([], seen)
            pure (dumpedParts d inner '[' ']' parts.reverse, seen)
          | .tableRef id => do
            let keys ← readTable id Table.keys
            let keys := if d.isSorted then keys.mergeSort fun s t => compareTexts s t != .gt
              else keys
            let (parts, seen) ← keys.foldlM
              (fun ((parts, seen) : List Octets × Dumped) key => do
                let shown := dumpedKey d key
                let column := if 2 ≤ d.indent then inner + 2 + shown.length + 4 else inner + 2
                let (part, seen) ← dumpValue d fuel (depth + 1) column
                  (step ('\x7b' :: shown ++ ['\x7d'])) (← cell (← entryOf id key)) seen
                return ((shown ++ d.pair ++ part) :: parts, seen))
              ([], seen)
            pure (dumpedParts d inner '\x7b' '\x7d' parts.reverse, seen)
          | .cellRef id => do
            let (text, seen) ← dumpValue d fuel (depth + 1) (inner + 2)
              ("$\x7b".toList ++ name ++ ['\x7d']) (← cell id) seen
            pure (if class? = some regexClass then []
              else if class?.isSome then "do\x7b\\(my $o = ".toList ++ text ++ ")\x7d".toList
              else '\\' :: text, seen)
          | _ => pure ("sub \x7b \"DUMMY\" \x7d".toList, seen)
        return (match class? with
          | some className =>
            if className = regexClass then dumpedRegex source else
            "bless( ".toList ++ text ++ ", ".toList ++ dumpedText className ++ " )".toList
          | none => text, seen)

def dumpAll (d : Dump) : (number : Nat) → (names : List Octets) → List Scalar → Dumped →
    Work Octets
  | _, _, [], _ => return []
  | number, names, v :: vs, seen => do
    let own := (names.head?.getD []).dropWhile fun c => c == '$'
    let isList := own.head? = some '*' && v.target?.any fun t => t.1 = 1 || t.1 = 2
    let bare := own.dropWhile (· == '*')
    let name := '$' :: (if bare.isEmpty then "VAR".toList ++ natText number else bare)
    let sign : Octets := match v with
      | .listRef _ => ['@']
      | _ => ['%']
    let shown := if isList then sign ++ bare else name
    let column := if d.isTerse || d.indent < 2 then 0 else shown.length + 3
    let (text, seen) ← dumpValue d 1000 0 column name v seen
    let text := if isList then '(' :: (text.drop 1).dropLast ++ [')'] else text
    let ending : Octets := if d.indent = 0 then [] else ['\n']
    let one := if d.isTerse then text ++ ending
      else shown ++ " = ".toList ++ text ++ [';'] ++ ending
    return one ++ (← dumpAll d (number + 1) (names.drop 1) vs seen)

def dumpSettings : Work Dump := do
  let known (name : String) : Work (Option Scalar) := do
    match (← get).globals[('$' :: "Data::Dumper::".toList ++ name.toList)]? with
    | some id => do
      let v ← cell id
      return if v.isDefined then some v else none
    | none => return none
  let has (name : String) : Work Bool := do return (← known name).any Scalar.isTrue
  return {
    indent := ((← known "Indent").map fun v => v.toInt.toNat).getD 2
    isTerse := ← has "Terse", isSorted := ← has "Sortkeys", escapes := ← has "Useqq"
    quotesKeys := ((← known "Quotekeys").map Scalar.isTrue).getD true
    repeats := ← has "Deepcopy"
    deepest := ((← known "Maxdepth").map fun v => v.toInt.toNat).getD 0
    pair := ((← known "Pair").map Scalar.toText).getD " => ".toList }

def withDumpSettings (d : Dump) (table : Nat) : Work Dump := do
  let known (name : String) (change : Dump → Scalar → Dump) (d : Dump) : Work Dump := do
    match ← setting table name with
    | .undefined => return d
    | v => return change d v
  let d ← known "Indent" (fun d v => { d with indent := v.toInt.toNat }) d
  let d ← known "Terse" (fun d v => { d with isTerse := v.isTrue }) d
  let d ← known "Sortkeys" (fun d v => { d with isSorted := v.isTrue }) d
  let d ← known "Useqq" (fun d v => { d with escapes := v.isTrue }) d
  let d ← known "Quotekeys" (fun d v => { d with quotesKeys := v.isTrue }) d
  let d ← known "Deepcopy" (fun d v => { d with repeats := v.isTrue }) d
  let d ← known "Maxdepth" (fun d v => { d with deepest := v.toInt.toNat }) d
  known "Pair" (fun d v => { d with pair := v.toText }) d

def valuesBehind (v : Scalar) : Work (List Scalar) := do
  match v with
  | .listRef id => listValues id
  | _ => return []

def dumpMethod? (name : String) : Option (Scalar → List Scalar → Work (List Scalar)) :=
  match name with
  | "new" => some fun self vs => do
    let id ← newTable
    setSetting id "values" (firstOf vs)
    setSetting id "names" (firstOf (vs.drop 1))
    modify fun s => { s with classes := s.classes.insert (2, id) self.toText }
    return [.tableRef id]
  | "Dump" | "Dumpxs" => some fun self vs => do
    let d ← dumpSettings
    match self with
    | .tableRef id => do
      let d ← withDumpSettings d id
      let names ← valuesBehind (← setting id "names")
      let vs ← valuesBehind (← setting id "values")
      return [.text (← dumpAll d 1 (names.map Scalar.toText) vs [])]
    | _ => do
      let names ← valuesBehind (firstOf (vs.drop 1))
      return [.text (← dumpAll d 1 (names.map Scalar.toText) (← valuesBehind (firstOf vs)) [])]
  | name =>
    if ["Indent", "Terse", "Sortkeys", "Useqq", "Quotekeys", "Deepcopy", "Maxdepth", "Pair",
        "Purity", "Deparse", "Sparseseen", "Trailingcomma"].contains name then
      some fun self vs => do
        match self with
        | .tableRef id => do
          if vs.isEmpty then return [← setting id name]
          setSetting id name (firstOf vs)
          return [self]
        | self => return [self]
    else none

/-! ## Copies and kinds -/

def copyValue : (fuel : Nat) → Scalar → Work Scalar
  | 0, v => return v
  | fuel + 1, v => do
    let class? ← classOf? v
    let new ← match v with
      | .listRef id => do
        let cells ← newCells (← (← listValues id).mapM fun v => copyValue fuel v)
        pure (.listRef (← newList cells.toArray))
      | .tableRef id => do
        let new ← newTable
        (← readTable id Table.keys).forM fun key => do
          let v ← copyValue fuel (← cell (← entryOf id key))
          setCell (← entryOf new key) v
        pure (.tableRef new)
      | .cellRef id => do pure (.cellRef (← newCell (← copyValue fuel (← cell id))))
      | v => pure v
    match class?, new.target? with
    | some className, some target =>
      modify fun s => { s with classes := s.classes.insert target className }
    | _, _ => pure ()
    return new

def looksLikeNumber (v : Scalar) : Bool :=
  match v with
  | .undefined => false
  | .text s =>
    let (_, rest) := cutQuantity s
    rest.length < s.length && rest.all isSpaceChar
  | .cellRef _ | .listRef _ | .tableRef _ | .codeRef _ | .handle _ => false
  | _ => true

/-! ## Names of files -/

def splitPathName (path : Octets) : Octets × Octets :=
  let name := (path.reverse.takeWhile (· != '/')).reverse
  let directory := path.take (path.length - name.length)
  (if directory.isEmpty then "./".toList else directory, name)

def cutSuffix (name : Octets) (source : Octets) : Work (Octets × Octets) := do
  let (p, _) ← pattern ("(?:".toList ++ source ++ ")$".toList) ['s']
  match search name.toArray p 0 none with
  | some m => return (name.take m.start, name.drop m.start)
  | none => return (name, [])

def nameParts (path : Octets) (sources : List Octets) : Work (Octets × Octets × Octets) := do
  let (directory, name) := splitPathName path
  let (name, ending) ← sources.foldlM
    (fun ((name, ending) : Octets × Octets) source => do
      let (name, cut) ← cutSuffix name source
      return (name, cut ++ ending))
    (name, [])
  return (name, directory, ending)

def withoutSlashes (path : Octets) : Octets :=
  let bare := (path.reverse.dropWhile (· == '/')).reverse
  if bare.isEmpty then path.take 1 else bare

def cleanPath (path : Octets) : Octets :=
  let isRooted := path.head? = some '/'
  let parts := (Text.splitOn '/' path).filter fun part => !part.isEmpty && part != ['.']
  let joined := List.intercalate ['/'] parts
  if isRooted then '/' :: joined else if joined.isEmpty && !path.isEmpty then ['.'] else joined

def pathFunction? (name : String) : Option (List Scalar → Work (List Scalar)) :=
  let path (vs : List Scalar) : Octets := (firstOf vs).toText
  let patterns (vs : List Scalar) : List Octets := (vs.drop 1).map Scalar.toText
  match name with
  | "basename" => some fun vs => do
    let (name, _, ending) ← nameParts (withoutSlashes (path vs)) ((patterns vs).map quotedPattern)
    return [.text (if (path vs).all (· == '/') then (path vs).take 1
      else if name.isEmpty then ending else name)]
  | "dirname" => some fun vs => return [.text (Tool.directoryOf (path vs))]
  | "fileparse" => some fun vs => do
    let (name, directory, ending) ← nameParts (path vs) (patterns vs)
    return [.text name, .text directory, .text ending]
  | "cwd" | "getcwd" => some fun _ => do
    return [.text (Machine.directoryText (← act get).cwd)]
  | "realpath" | "abs_path" => some fun vs => do
    let m ← act get
    match m.files.locate (m.route (if vs.isEmpty then ['.'] else path vs)) with
    | .ok place => return [.text (Machine.directoryText place)]
    | .error fault => do
      setFileFault fault
      return [.undefined]
  | _ => none

/-- What the class for names of files does. -/
def pathMethod? (name : String) : Option (Scalar → List Scalar → Work (List Scalar)) :=
  match name with
  | "catfile" | "catdir" | "join" => some fun _ vs =>
    return [.text (if vs.isEmpty then []
      else cleanPath (List.intercalate ['/'] (vs.map Scalar.toText)))]
  | "canonpath" => some fun _ vs => return [.text (cleanPath (firstOf vs).toText)]
  | "curdir" => some fun _ _ => return [.text ['.']]
  | "updir" => some fun _ _ => return [.text ['.', '.']]
  | "rootdir" => some fun _ _ => return [.text ['/']]
  | "tmpdir" => some fun _ _ => return [.text "/tmp".toList]
  | "devnull" => some fun _ _ => return [.text "/dev/null".toList]
  | "file_name_is_absolute" => some fun _ vs =>
    return told ((firstOf vs).toText.head? = some '/')
  | "rel2abs" => some fun _ vs => do
    let path := (firstOf vs).toText
    let base ← match vs.drop 1 with
      | v :: _ => pure v.toText
      | [] => do pure (Machine.directoryText (← act get).cwd)
    return [.text (cleanPath (if path.head? = some '/' then path else base ++ '/' :: path))]
  | "splitdir" => some fun _ vs => return (Text.splitOn '/' (firstOf vs).toText).map .text
  | "splitpath" => some fun _ vs =>
    let path := (firstOf vs).toText
    let name := (path.reverse.takeWhile (· != '/')).reverse
    return [.text [], .text (path.take (path.length - name.length)), .text name]
  | _ => none

/-! ## Texts in other letters -/

/-- The functions that write texts in other letters or sum them up. -/
def digestFunction? (name : String) : Option (Octets → Octets) :=
  let base64 (text : Octets) : Octets :=
    (Tool.octetGroups 3 (text.length + 1) text).flatMap Tool.Alphabet.base64.encodeGroup
  let bare (text : Octets) : Octets := (base64 text).filter (· != '=')
  match name with
  | "md5" => some Digest.md5
  | "md5_hex" => some fun text => Digest.hexDigits (Digest.md5 text)
  | "md5_base64" => some fun text => bare (Digest.md5 text)
  | "sha1" => some Digest.sha1
  | "sha1_hex" => some fun text => Digest.hexDigits (Digest.sha1 text)
  | "sha1_base64" => some fun text => bare (Digest.sha1 text)
  | "sha224_hex" => some fun text => Digest.hexDigits (Digest.sha224 text)
  | "sha256" => some Digest.sha256
  | "sha256_hex" => some fun text => Digest.hexDigits (Digest.sha256 text)
  | "sha256_base64" => some fun text => bare (Digest.sha256 text)
  | "sha384_hex" => some fun text => Digest.hexDigits (Digest.sha384 text)
  | "sha512_hex" => some fun text => Digest.hexDigits (Digest.sha512 text)
  | "sha512_base64" => some fun text => bare (Digest.sha512 text)
  | "encode_utf8" | "decode_utf8" => some id
  | "decode_base64" => some fun text =>
    let letters := (text.filter Tool.Alphabet.base64.letters.contains)
    let filled := letters ++ List.replicate ((4 - letters.length % 4) % 4) '='
    (Tool.decodeGroups .base64 (Tool.octetGroups 4 (filled.length + 1) filled)).1.flatten
  | _ => none

/-! ## Complaints -/

def packageOf (name : Octets) : Octets :=
  let last := (name.reverse.takeWhile (· != ':')).length
  if last = name.length then "main".toList else name.take (name.length - last - 2)

def fullName (name : Octets) : Octets :=
  if name.contains ':' then name else "main::".toList ++ name

def currentPackage : Work Octets := do
  match (← get).frames.find? fun frame => frame.name != "(eval)".toList with
  | some frame => return packageOf frame.name
  | none => return (← get).package

def tracedArgument (v : Scalar) : Work Octets := do
  match v with
  | .undefined => return "undef".toList
  | .whole _ | .real _ => return v.toText
  | v =>
    match v.target? with
    | some _ => plainText v
    | none =>
      let text := v.toText
      if looksLikeNumber v && text.all (fun c => !isSpaceChar c) then return text
      else return escapedText text

def trace : Work Octets := do
  let s ← get
  let texts ← s.frames.mapM fun frame => do
    let called := " called at ".toList ++ s.file ++ " line ".toList ++ natText frame.line ++ ['\n']
    if frame.name = "(eval)".toList then
      return "\teval \x7b...\x7d".toList ++ called
    else
      let arguments ← (← listValues frame.arguments).mapM tracedArgument
      return '\t' :: fullName frame.name ++
        '(' :: List.intercalate ", ".toList arguments ++ [')'] ++ called
  return texts.flatten

def complaint (isLong : Bool) (text : Octets) : Work Octets := do
  let package ← currentPackage
  let outer := (← get).frames.find? fun frame => frame.package != package
  match isLong, outer with
  | false, some frame => do
    let line := (← get).line
    modify fun s => { s with line := frame.line }
    let here ← place
    modify fun s => { s with line }
    return text ++ here
  | _, _ => return text ++ (← place) ++ (← trace)

def messageFunction? (kind : String) : Work (Option Nat) := do
  let table ← shared .table "SIG".toList
  match ← readTable table fun t => t.cell? kind.toList with
  | none => return none
  | some id =>
    match ← cell id with
    | .codeRef code => return some code
    | _ => return none

def die {α : Type} (call : Caller) (cause : Scalar) : Work α := do
  match ← messageFunction? "__DIE__" with
  | some id => do
    let _ ← call id [cause]
    throw (.died cause)
  | none => throw (.died cause)

def complaintFunction? (call : Caller) (name : String) :
    Option (List Scalar → Work (List Scalar)) :=
  let warned (text : Octets) : Work (List Scalar) := do
    match ← messageFunction? "__WARN__" with
    | some id => do
      let _ ← call id [.text text]
      return [.whole 1]
    | none => do
      warn text
      return [.whole 1]
  match name with
  | "warn" => some fun vs => do
    let text := vs.flatMap Scalar.toText
    warned (← placed (if text.isEmpty then "Warning: something's wrong".toList else text))
  | "die" => some fun vs => do
    match vs with
    | [v] => if v.target?.isSome then die call v else die call (.text (← message v.toText))
    | vs => die call (.text (← message (vs.flatMap Scalar.toText)))
  | "croak" | "confess" => some fun vs => do
    let isLong := name = "confess"
    match vs with
    | [v] =>
      if v.target?.isSome then die call v
      else die call (.text (← complaint isLong v.toText))
    | vs => die call (.text (← complaint isLong (vs.flatMap Scalar.toText)))
  | "carp" | "cluck" => some fun vs => do
    warned (← complaint (name = "cluck") (vs.flatMap Scalar.toText))
  | _ => none
where
  message (text : Octets) : Work Octets :=
    placed (if text.isEmpty then "Died".toList else text)

/-! ## Functions -/

def numberConstant? (name : String) : Option Scalar :=
  match name with
  | "INT_MAX" => some (.whole 2147483647)
  | "INT_MIN" => some (.whole (-2147483648))
  | "UINT_MAX" => some (.whole 4294967295)
  | "LONG_MAX" => some (.whole 9223372036854775807)
  | "LONG_MIN" => some (.whole (-9223372036854775808))
  | "DBL_MAX" => some (.real (Binary64.ofDecimal false 17976931348623157 292).toFloat)
  | "DBL_MIN" => some (.real (Binary64.ofDecimal false 22250738585072014 (-324)).toFloat)
  | "DBL_EPSILON" => some (.real (Binary64.ofDecimal false 2220446049250313 (-31)).toFloat)
  | "EXIT_SUCCESS" => some (.whole 0)
  | "EXIT_FAILURE" => some (.whole 1)
  | _ => none

def roundedTo (name : String) (x : Float) : Scalar :=
  let down := x.abs.floor
  let whole := if name = "trunc" then down
    else if 0.5 ≤ x.abs - down then down + 1 else down
  (Quantity.real (if x < 0 then -whole else whole)).settled.toScalar

def pairList (vs : List Scalar) : List (List Scalar) :=
  match vs with
  | a :: b :: vs => [a, b] :: pairList vs
  | [a] => [[a, .undefined]]
  | [] => []

def moduleFunction? (call : Caller) (name : String) : Option (List Scalar → Work (List Scalar)) :=
  match digestFunction? name, numberConstant? name with
  | some f, _ => some fun vs => return [.text (f (vs.flatMap Scalar.toText))]
  | none, some v => some fun _ => return [v]
  | none, none =>
    match name with
    | "encode_json" => some fun vs => do
      return [.text (← encodeDocument call plainCoder (firstOf vs))]
    | "decode_json" => some fun vs => do return [← decodeDocument plainCoder (firstOf vs)]
    | "Dumper" => some fun vs => do return [.text (← dumpAll (← dumpSettings) 1 [] vs [])]
    | "dclone" => some fun vs => do return [← copyValue 1000 (firstOf vs)]
    | "blessed" => some fun vs => do
      return [((← classOf? (firstOf vs)).map Scalar.text).getD .undefined]
    | "reftype" => some fun vs => do
      let kind ← kindOf (firstOf vs)
      return [if kind.isEmpty then .undefined else .text kind]
    | "refaddr" => some fun vs => do
      let v := firstOf vs
      return [if v.target?.isSome then v.toQuantity.toScalar else .undefined]
    | "looks_like_number" => some fun vs => return told (looksLikeNumber (firstOf vs))
    | "readonly" | "tainted" => some fun _ => return told false
    | "round" | "trunc" | "lround" => some fun vs =>
      return [roundedTo name (firstOf vs).toQuantity.toFloat]
    | "encode_base64" => some fun vs =>
      let ending := match vs.drop 1 with
        | v :: _ => v.toText
        | [] => ['\n']
      let letters :=
        (Tool.octetGroups 3 ((firstOf vs).toText.length + 1) (firstOf vs).toText).flatMap
        Tool.Alphabet.base64.encodeGroup
      return [.text ((Tool.octetGroups 76 (letters.length + 1) letters).flatMap (· ++ ending))]
    | "encode" | "decode" => some fun vs => return [firstOf (vs.drop 1)]
    | "pairkeys" => some fun vs => return (pairList vs).map firstOf
    | "pairvalues" => some fun vs => return (pairList vs).map fun pair => firstOf (pair.drop 1)
    | "head" | "tail" => some fun vs =>
      let vs' := vs.drop 1
      let n := (firstOf vs).toInt
      let size : Int := vs'.length
      let count := (if n < 0 then size + n else min n size).toNat
      return if name = "head" then vs'.take count else vs'.drop (vs'.length - count)
    | "uniqstr" | "uniqint" => some fun vs =>
      return firstOnes [] (if name = "uniqint" then vs.map fun v => .whole v.toInt else vs)
    | "hostname" => some fun _ => return [.text "localhost".toList]
    | "isatty" => some fun _ => do
      setFault 25
      return told false
    | "strtol" => some fun vs =>
      let text := (firstOf vs).toText
      let base := match vs.drop 1 with
        | v :: _ => v.toInt.toNat
        | [] => 10
      let (negative, digits) := cutSign (text.dropWhile isSpaceChar)
      let digits := if base = 16 && ("0x".toList.isPrefixOf digits || "0X".toList.isPrefixOf digits)
        then digits.drop 2 else digits
      let mine := digits.takeWhile fun c => (Sum.digitOf? base c).isSome
      let n : Int := Sum.valueOf base mine
      return [.whole (if negative then -n else n), .ofNat (digits.length - mine.length)]
    | "strtod" => some fun vs =>
      let (q, rest) := cutQuantity (firstOf vs).toText
      return [q.toScalar, .ofNat rest.length]
    | "pairs" => some fun vs =>
      (pairList vs).mapM fun pair => do
        let cells ← newCells pair
        return .listRef (← newList cells.toArray)
    | name => complaintFunction? call name <|> pathFunction? name

def moduleMethod? (call : Caller) (classes : List Octets) (name : String) :
    Option (Scalar → List Scalar → Work (List Scalar)) :=
  classes.findSome? fun className =>
    match String.ofList className with
    | "JSON::PP" => coderMethod? call name
    | "Data::Dumper" => dumpMethod? name
    | "File::Spec" | "File::Spec::Functions" => pathMethod? name
    | "JSON::PP::Boolean" => if name = "TO_JSON" then some fun self _ => return [self] else none
    | _ => none

end NextRelease.Shell.Perl.Work
