import NextRelease.Shell.Digest
import NextRelease.Shell.Tool.Basic

/-!
Checksums: a line for each file tells its digest, and such lines are read again to check the files.
-/

namespace NextRelease.Shell.Tool

inductive Checksum where
  | bsd
  | sysv
  | crc
  | md5
  | sha1
  | sha224
  | sha256
  | sha384
  | sha512
  | blake2b
  deriving DecidableEq

namespace Checksum

def named : List (String × Checksum) :=
  [("bsd", bsd), ("sysv", sysv), ("crc", crc), ("md5", md5), ("sha1", sha1), ("sha224", sha224),
    ("sha256", sha256), ("sha384", sha384), ("sha512", sha512), ("blake2b", blake2b)]

def tag : Checksum → String
  | bsd => "BSD"
  | sysv => "SYSV"
  | crc => "CRC"
  | md5 => "MD5"
  | sha1 => "SHA1"
  | sha224 => "SHA224"
  | sha256 => "SHA256"
  | sha384 => "SHA384"
  | sha512 => "SHA512"
  | blake2b => "BLAKE2b"

def isDigest : Checksum → Bool
  | bsd | sysv | crc => false
  | _ => true

def size : Checksum → Nat
  | md5 => 16
  | sha1 => 20
  | sha224 => 28
  | sha256 => 32
  | sha384 => 48
  | sha512 | blake2b => 64
  | bsd | sysv | crc => 0

def digest (sum : Checksum) (size : Nat) (text : Octets) : Octets :=
  Digest.hexDigits (match sum with
    | md5 => Digest.md5 text
    | sha1 => Digest.sha1 text
    | sha224 => Digest.sha224 text
    | sha256 => Digest.sha256 text
    | sha384 => Digest.sha384 text
    | sha512 => Digest.sha512 text
    | blake2b => Digest.Blake2.digest size text
    | bsd | sysv | crc => [])

def fullTag (sum : Checksum) (size : Nat) : Octets :=
  sum.tag.toList ++ if size = sum.size then [] else '-' :: natText (8 * size)

end Checksum

/-! ## Lines -/

def hidesInLines (c : Char) : Bool := c == '\\' || c == '\n' || c == '\r'

def nameInLine (name : Octets) : Octets × Octets :=
  if name.any hidesInLines then
    (['\\'], name.flatMap fun c =>
      if c = '\\' then "\\\\".toList else if c = '\n' then "\\n".toList
      else if c = '\r' then "\\r".toList else [c])
  else ([], name)

def nameOfLine : Octets → Option Octets
  | [] => some []
  | ['\\'] => none
  | '\\' :: c :: cs =>
    match c with
    | '\\' => (nameOfLine cs).map ('\\' :: ·)
    | 'n' => (nameOfLine cs).map ('\n' :: ·)
    | 'r' => (nameOfLine cs).map ('\r' :: ·)
    | _ => none
  | c :: cs => (nameOfLine cs).map (c :: ·)

def isHexDigit (c : Char) : Bool :=
  c.isDigit || ('a' ≤ c && c ≤ 'f') || ('A' ≤ c && c ≤ 'F')

structure Statement where
  sum : Checksum
  size : Nat
  path : Octets
  digest : Octets

def isDigestText (size : Nat) (text : Octets) : Bool :=
  text.length == 2 * size && text.all isHexDigit

/-- Reads a line with the name of the digest in front. -/
def taggedStatement? (sums : List Checksum) (isEscaped : Bool) (line : Octets) :
    Option Statement :=
  sums.findSome? fun sum =>
    let tag := sum.tag.toList
    if !tag.isPrefixOf line then none
    else
      let rest := line.drop tag.length
      let (size, rest) := match sum, rest with
        | .blake2b, '-' :: cs => (readNat cs / 8, cs.dropWhile Char.isDigit)
        | _, rest => (sum.size, rest)
      match rest.dropWhile (· == ' ') with
      | '(' :: rest =>
        let back := rest.reverse.takeWhile (· != ')')
        let path := (rest.take (rest.length - back.length - 1))
        let path := if isEscaped then nameOfLine path else some path
        match path, back.reverse.dropWhile isGap with
        | some path, '=' :: digest =>
          let digest := digest.dropWhile isGap
          if rest.contains ')' && isDigestText size digest && size != 0 then
            some ⟨sum, size, path, digest⟩
          else none
        | _, _ => none
      | _ => none

def plainStatement? (sum : Checksum) (hasOne : Option Bool) (isEscaped : Bool) (line : Octets) :
    Option (Statement × Bool) :=
  let digest := line.takeWhile isHexDigit
  let size := if sum = .blake2b then digest.length / 2 else sum.size
  match line.drop digest.length with
  | c :: d :: rest =>
    if !isGap c || !isDigestText size digest || size = 0 || 64 < size then none
    else
      let lacksMark := rest.isEmpty || !(d == ' ' || d == '*')
      if lacksMark && hasOne == some false then none
      else
        let one := lacksMark || hasOne == some true
        let path := if one then d :: rest else rest
        (if isEscaped then nameOfLine path else some path).map fun path =>
          (⟨sum, size, path, digest⟩, one)
  | _ => none

/-! ## Checks -/

structure Tally where
  hasOne : Option Bool := none
  number : Nat := 0
  isProper : Bool := false
  hasMatch : Bool := false
  malformed : Nat := 0
  unread : Nat := 0
  mismatched : Nat := 0

def warnOf (name : Octets) (n : Nat) (one many : String) : Act Unit :=
  if n = 0 then pure ()
  else
    report name ("WARNING: ".toList ++ natText n ++ ' ' :: (if n = 1 then one else many).toList)

def checkLine (name : Octets) (options : Options) (chosen : Option Checksum) (source shown : Octets)
    (tally : Tally) (line : Octets) : Act Tally := do
  let tally := { tally with number := tally.number + 1 }
  let bare := withoutBreak line
  let bare := if bare.getLast? == some '\r' then bare.dropLast else bare
  if bare.isEmpty || bare.head? == some '#' then return tally
  let text := bare.dropWhile isGap
  let (isEscaped, text) := match text with
    | '\\' :: text => (true, text)
    | text => (false, text)
  let sums := match chosen with
    | some sum => [sum]
    | none => (Checksum.named.map (·.2)).filter Checksum.isDigest
  let plain := (chosen.bind fun sum => plainStatement? sum tally.hasOne isEscaped text)
  let statement := (taggedStatement? sums isEscaped text).or (plain.map (·.1))
  match statement.filter fun s => !(isStandard source && isStandard s.path) with
  | none => do
    if options.has 'w' then
      let tag := match chosen with
        | some sum => sum.tag
        | none => "CRC"
      report name (quotedIfPeculiar shown ++ ": ".toList ++ natText tally.number ++
        ": improperly formatted ".toList ++ tag.toList ++ " checksum line".toList)
    return { tally with malformed := tally.malformed + 1 }
  | some s => do
    let tally := { tally with isProper := true, hasOne := (plain.map (·.2)).or tally.hasOne }
    let (mark, path) := nameInLine s.path
    let say (verdict : String) : Act Unit :=
      if options.has 's' then pure ()
      else print (mark ++ path ++ ": ".toList ++ verdict.toList ++ ['\n'])
    match ← content s.path with
    | .error fault =>
      match fault, options.has 'i' with
      | .file .notFound, true => return tally
      | _, _ => do
        fail 1 name (quotedIfPeculiar s.path ++ ": ".toList ++ fault.text)
        say "FAILED open or read"
        return { tally with unread := tally.unread + 1 }
    | .ok text =>
      if s.sum.digest s.size text == s.digest.map Char.toLower then do
        if !options.has 'q' then say "OK"
        return { tally with hasMatch := true }
      else do
        say "FAILED"
        return { tally with mismatched := tally.mismatched + 1 }

/-- Checks what the lines of a file say. -/
def checkSums (name : Octets) (options : Options) (chosen : Option Checksum) (path : Octets) :
    Act Unit := do
  let shown := if isStandard path then "standard input".toList else path
  match ← content path with
  | .error (.file .isADirectory) => fail 1 name (quotedIfPeculiar path ++ ": read error".toList)
  | .error fault => fail 1 name (quotedIfPeculiar path ++ ": ".toList ++ fault.text)
  | .ok text => do
    let tally ← (lines text).foldlM (checkLine name options chosen path shown) {}
    if !tally.isProper then
      fail 1 name (quotedIfPeculiar shown ++ ": no properly formatted checksum lines found".toList)
    else
      if !options.has 's' then
        warnOf name tally.malformed "line is improperly formatted" "lines are improperly formatted"
        warnOf name tally.unread "listed file could not be read" "listed files could not be read"
        warnOf name tally.mismatched "computed checksum did NOT match"
          "computed checksums did NOT match"
        if options.has 'i' && !tally.hasMatch then
          report name (quotedIfPeculiar shown ++ ": no file was verified".toList)
      if !tally.hasMatch || tally.unread != 0 || tally.mismatched != 0 ||
          (options.has 'S' && tally.malformed != 0) then
        finish 1

/-! ## The tools -/

def checkFlags : List Flag :=
  [⟨'c', "check", false⟩, ⟨'T', "tag", false⟩, ⟨'z', "zero", false⟩, ⟨'w', "warn", false⟩,
    ⟨'i', "ignore-missing", false⟩, ⟨'q', "quiet", false⟩, ⟨'s', "status", false⟩,
    ⟨'S', "strict", false⟩]

def checksumClash? (options : Options) : Option String :=
  let whenChecking : List (Char × String) :=
    [('i', "ignore-missing"), ('s', "status"), ('w', "warn"), ('q', "quiet"), ('S', "strict")]
  if options.has 'c' then
    if options.has 'T' then some "the --tag option is meaningless when verifying checksums"
    else if options.has 'z' then some "the --zero option is not supported when verifying checksums"
    else if options.has 'b' || options.has 't' then
      some "the --binary and --text options are meaningless when verifying checksums"
    else none
  else if options.has 'T' && options.last? "bt" == some 't' then
    some "--tag does not support --text mode"
  else
    (whenChecking.find? fun option => options.has option.1).map fun option =>
      "the --" ++ option.2 ++ " option is meaningful only when verifying checksums"

def digestSize (sum : Checksum) (options : Options) : Except (List Octets) Nat :=
  match options.value? 'l' with
  | none => .ok sum.size
  | some text =>
    let refuse (reasons : List Octets) : Except (List Octets) Nat :=
      .error (("invalid length: ".toList ++ inQuotes text) :: reasons)
    let bits := readNat text
    if !isNumber text then refuse []
    else if 512 < bits then
      refuse ["maximum digest length for ".toList ++ inQuotes "BLAKE2b".toList ++
        " is 512 bits".toList]
    else if bits % 8 != 0 then refuse ["length is not a multiple of 8".toList]
    else .ok (if bits = 0 then sum.size else bits / 8)

def checksumLine (sum : Checksum) (size : Nat) (options : Options) (isNamed : Bool)
    (path text : Octets) : Octets :=
  let ending := if options.has 'z' then ['\x00'] else ['\n']
  let tail := (if isNamed then ' ' :: path else []) ++ ending
  let blocks (length : Nat) : Octets := natText ((text.length + length - 1) / length)
  match sum with
  | .bsd =>
    let digits := natText (Digest.rotatedSum text)
    List.replicate (5 - digits.length) '0' ++ digits ++ ' ' :: padLeft 5 (blocks 1024) ++ tail
  | .sysv => natText (Digest.foldedSum text) ++ ' ' :: blocks 512 ++ tail
  | .crc => natText (Digest.redundancy text) ++ ' ' :: natText text.length ++ tail
  | sum =>
    let (mark, shown) := if options.has 'z' then ([], path) else nameInLine path
    let digest := sum.digest size text
    if options.has 'T' then
      mark ++ sum.fullTag size ++ " (".toList ++ shown ++ ") = ".toList ++ digest ++ ending
    else
      let kind := if options.last? "bt" == some 'b' then '*' else ' '
      mark ++ digest ++ ' ' :: kind :: shown ++ ending

def showSums (name : Octets) (sum : Checksum) (size : Nat) (options : Options)
    (operands : List Octets) : Act Unit :=
  (inputs operands).forM fun path => do
    match ← content path, sum with
    | .error (.file .isADirectory), .crc =>
      print (checksumLine sum size options (!operands.isEmpty) path [])
    | .error fault, _ => fail 1 name (quotedIfPeculiar path ++ ": ".toList ++ fault.text)
    | .ok text, _ => print (checksumLine sum size options (!operands.isEmpty) path text)

def digestTool (sum : Checksum) : Tool :=
  let flags := checkFlags ++ [⟨'b', "binary", false⟩, ⟨'t', "text", false⟩]
  let flags := if sum = .blake2b then flags ++ [⟨'l', "length", true⟩] else flags
  withOptions false flags 1 fun name options operands => do
    match digestSize sum options, checksumClash? options with
    | .error reasons, _ => reasons.forM (fail 1 name)
    | .ok _, some reason => misuse 1 name reason.toList
    | .ok size, none =>
      if options.has 'c' then (inputs operands).forM (checkSums name options (some sum))
      else showSums name sum size options operands

def sum : Tool :=
  withOptions false [⟨'r', "", false⟩, ⟨'s', "sysv", false⟩] 1 fun name options operands =>
    showSums name (if options.last? "rs" == some 's' then .sysv else .bsd) 0 [] operands

def checksumNamed? (text : Octets) : Option Checksum :=
  let near := Checksum.named.filter fun entry => text.isPrefixOf entry.1.toList
  (near.find? fun entry => entry.1.toList == text).or (if near.length = 1 then near.head? else none)
    |>.map (·.2)

def cksum : Tool :=
  withOptions false
    ([⟨'a', "algorithm", true⟩, ⟨'l', "length", true⟩, ⟨'U', "untagged", false⟩,
      ⟨'d', "debug", false⟩] ++ checkFlags) 1 fun name options operands => do
    let chosen := (options.value? 'a').map checksumNamed?
    match chosen with
    | some none => do
      let value := (options.value? 'a').getD []
      let reason := if value.isEmpty || Checksum.named.any fun e => value.isPrefixOf e.1.toList then
        "ambiguous" else "invalid"
      fail 1 name (reason.toList ++ " argument ".toList ++ inQuotes value ++ " for ".toList ++
        inQuotes "--algorithm".toList)
      let valid := (Checksum.named.map (·.1)) ++ ["sm3"]
      printError ("Valid arguments are:\n".toList ++ valid.flatMap fun word =>
        "  - ".toList ++ inQuotes word.toList ++ ['\n'])
      printError (helpHint name)
    | chosen =>
      let chosen := chosen.join
      let sum := chosen.getD .crc
      let isTagged := options.last? "TU" != some 'U'
      let shown := (options.filter fun option => !"TU".toList.contains option.1) ++
        if isTagged then [('T', [])] else []
      match digestSize sum options,
          checksumClash? (options.filter fun option => option.1 != 'T') with
      | .error reasons, _ => reasons.forM (fail 1 name)
      | .ok size, clash =>
        if options.has 'l' && sum != .blake2b then
          fail 1 name "--length is only supported with --algorithm=blake2b".toList
        else if options.has 'c' && !(chosen.all Checksum.isDigest) then
          fail 1 name "--check is not supported with --algorithm=\x7bbsd,sysv,crc\x7d".toList
        else
          match clash with
          | some reason => misuse 1 name reason.toList
          | none =>
            if options.has 'c' then (inputs operands).forM (checkSums name options chosen)
            else showSums name sum size shown operands

end NextRelease.Shell.Tool
