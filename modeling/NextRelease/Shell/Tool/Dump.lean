import NextRelease.Shell.Format
import NextRelease.Shell.Tool.Lines

/-!
Showing the octets of a text as numbers or characters. Octets are shown block by block, each block
in one line for every type that was asked for.
-/

namespace NextRelease.Shell.Tool

/-! ## Types -/

structure DumpType where
  size : Nat
  width : Nat
  text : Octets → Octets
  isTrailed : Bool := false

def littleEndian (cs : Octets) : Nat := cs.foldr (fun c n => c.toNat + 256 * n) 0

def dumpNumber (base digits : Nat) (cs : Octets) : Octets :=
  let text := Nat.toDigits base (littleEndian cs)
  List.replicate (digits - text.length) '0' ++ text

def dumpSigned (size : Nat) (cs : Octets) : Octets :=
  intText (Int.bmod (littleEndian cs) (Nat.pow 256 size))

def dumpChar (cs : Octets) : Octets :=
  match cs.head?.getD ' ' with
  | '\n' => "\\n".toList
  | '\t' => "\\t".toList
  | '\r' => "\\r".toList
  | c =>
    match c.toNat with
    | 0 => "\\0".toList
    | 7 => "\\a".toList
    | 8 => "\\b".toList
    | 11 => "\\v".toList
    | 12 => "\\f".toList
    | n => if 32 ≤ n && n < 127 then [c] else dumpNumber 8 3 cs

def controlNames : List String :=
  ["nul", "soh", "stx", "etx", "eot", "enq", "ack", "bel", "bs", "ht", "nl", "vt", "ff", "cr", "so",
    "si", "dle", "dc1", "dc2", "dc3", "dc4", "nak", "syn", "etb", "can", "em", "sub", "esc", "fs",
    "gs", "rs", "us", "sp"]

def dumpName (cs : Octets) : Octets :=
  let n := littleEndian cs % 128
  if n = 127 then "del".toList
  else
    match controlNames[n]? with
    | some name => name.toList
    | none => [Char.ofNat n]

def standsFor (mantissa : Nat) (power : Int) (digits : Nat) (exponent : Int) : Bool :=
  let (num, den) := Binary64.scaleDown 10 (-exponent) digits 1
  let (num, den) := Binary64.scaleDown 2 power num den
  let twice := 2 * mantissa * den
  let distance := max (2 * num) twice - min (2 * num) twice
  distance < den || (distance = den && mantissa % 2 = 0)

def enoughDigits (mantissa : Nat) (power : Int) : (fuel : Nat) → (count : Nat) → Nat
  | 0, count => count
  | fuel + 1, count =>
    let (num, den) := Binary64.scaleDown 2 (-power) mantissa 1
    let (digits, e) := Directive.significant (count - 1) num den
    if standsFor mantissa power digits (e - Int.ofNat (count - 1)) then count
    else enoughDigits mantissa power fuel (count + 1)

def dumpFloat (exponentBits fractionBits digits : Nat) (cs : Octets) : Octets :=
  let bits := littleEndian cs
  let unit := Nat.pow 2 fractionBits
  let fraction := bits % unit
  let most := Nat.pow 2 exponentBits - 1
  let exponent := bits / unit % (most + 1)
  let sign : Octets := if bits / unit / (most + 1) % 2 = 1 then ['-'] else []
  if exponent = most then sign ++ (if fraction = 0 then "inf" else "nan").toList
  else
    let mantissa := if exponent = 0 then fraction else fraction + unit
    let power : Int := Int.ofNat (max exponent 1) - Int.ofNat (most / 2 + fractionBits)
    let count := if mantissa = 0 then 1
      else enoughDigits mantissa power 20 (if exponent = 0 then 1 else digits)
    let (num, den) := Binary64.scaleDown 2 (-power) mantissa 1
    sign ++ Directive.general count false num den

def digitsFor (base size : Nat) : Nat := (Nat.toDigits base (Nat.pow 256 size - 1)).length

def numberType (letter : Char) (size : Nat) : DumpType :=
  match letter with
  | 'x' => { size, width := digitsFor 16 size, text := dumpNumber 16 (digitsFor 16 size) }
  | 'o' => { size, width := digitsFor 8 size, text := dumpNumber 8 (digitsFor 8 size) }
  | 'd' =>
    let digits := (Nat.toDigits 10 (Nat.pow 256 size / 2)).length
    { size, width := digits + 1, text := dumpSigned size }
  | 'f' =>
    if size = 4 then { size, width := 15, text := dumpFloat 8 23 6 }
    else { size, width := 24, text := dumpFloat 11 52 15 }
  | _ => { size, width := digitsFor 10 size, text := dumpNumber 10 0 }

def cutSize (letter : Char) (cs : Octets) : Nat × Octets :=
  let digits := cs.takeWhile Char.isDigit
  let usual := if letter = 'f' then 8 else 4
  if !digits.isEmpty then (readNat digits, cs.drop digits.length)
  else
    match letter, cs with
    | 'f', 'F' :: rest => (4, rest)
    | 'f', 'D' :: rest => (8, rest)
    | 'f', _ => (usual, cs)
    | _, 'C' :: rest => (1, rest)
    | _, 'S' :: rest => (2, rest)
    | _, 'I' :: rest => (4, rest)
    | _, 'L' :: rest => (8, rest)
    | _, _ => (usual, cs)

/-- Reads types that are written one behind the other. -/
def readTypes (whole : Octets) : (fuel : Nat) → Octets → Except Octets (List DumpType)
  | 0, _ => .ok []
  | _, [] => .ok []
  | fuel + 1, letter :: cs => do
    let (type, rest) ← match letter with
      | 'c' => pure ({ size := 1, width := 3, text := dumpChar : DumpType }, cs)
      | 'a' => pure ({ size := 1, width := 3, text := dumpName }, cs)
      | letter =>
        if "doufx".toList.contains letter then do
          let (size, rest) := cutSize letter cs
          let known := if letter = 'f' then [4, 8] else [1, 2, 4, 8]
          if !known.contains size then
            let kind := if letter = 'f' then "floating point" else "integral"
            throw ("invalid type string ".toList ++ inQuotes whole ++
              ";\nthis system doesn't provide a ".toList ++ natText size ++
              ("-byte " ++ kind ++ " type").toList)
          pure (numberType letter size, rest)
        else
          throw ("invalid character '".toList ++ [letter] ++ "' in type string ".toList ++
            inQuotes whole)
    let (isTrailed, rest) := match rest with
      | 'z' :: rest => (true, rest)
      | rest => (false, rest)
    return { type with isTrailed } :: (← readTypes whole fuel rest)

/-! ## Blocks -/

def pieces (size : Nat) : (fuel : Nat) → Octets → List Octets
  | 0, _ => []
  | _, [] => []
  | fuel + 1, cs => cs.take size :: pieces size fuel (cs.drop size)

structure DumpForm where
  types : List DumpType
  address : Option (Nat × Nat)
  blockSize : Nat
  showsAll : Bool
  isBigEndian : Bool

namespace DumpForm

def addressText (form : DumpForm) (offset : Nat) : Octets :=
  match form.address with
  | some (base, width) =>
    let text := Nat.toDigits base offset
    List.replicate (width - text.length) '0' ++ text
  | none => []

def blockWidth (form : DumpForm) : Nat :=
  (form.types.map fun type => (type.width + 1) * (form.blockSize / type.size)).foldl max 0

def typeLine (form : DumpForm) (type : DumpType) (block : Octets) : Octets :=
  let count := form.blockSize / type.size
  let extra := form.blockWidth - type.width * count
  let groups := pieces type.size (block.length + 1) block
  let fields := groups.zipIdx.flatMap fun (group, i) =>
    let left := count - i
    let width := extra * left / count - extra * (left - 1) / count + type.width
    padLeft width (type.text (if form.isBigEndian then group.reverse else group))
  let blank := (form.blockSize - block.length) / type.size
  let trail := if type.isTrailed then
      List.replicate (blank * type.width + extra * blank / count) ' ' ++ "  >".toList ++
        block.map (fun c => if 32 ≤ c.toNat && c.toNat < 127 then c else '.') ++ ['<']
    else []
  fields ++ trail ++ ['\n']

def blockLines (form : DumpForm) (offset : Nat) (block : Octets) : Octets :=
  let front := form.addressText offset
  let unit := form.types.foldl (fun n type => Nat.lcm n type.size) 1
  let padded := block ++ List.replicate ((unit - block.length % unit) % unit) '\x00'
  form.types.zipIdx.flatMap fun (type, i) =>
    (if i = 0 then front else front.map fun _ => ' ') ++ form.typeLine type padded

def lines (form : DumpForm) : (offset : Nat) → (before : Option Octets) → (marked : Bool) →
    List Octets → Octets
  | offset, _, _, [] => if form.address.isNone then [] else form.addressText offset ++ ['\n']
  | offset, before, marked, block :: blocks =>
    let next := offset + block.length
    if !form.showsAll && before == some block && block.length = form.blockSize then
      (if marked then [] else ['*', '\n']) ++ lines form next (some block) true blocks
    else form.blockLines offset block ++ lines form next (some block) false blocks

def strings (form : DumpForm) (least : Nat) : (offset start : Nat) → (text : Octets) →
    Octets → Octets
  | _, _, _, [] => []
  | offset, start, text, c :: cs =>
    let n := c.toNat
    if n = 0 then
      let shown := if least ≤ text.length then
          form.addressText start ++ (if form.address.isSome then [' '] else []) ++ text.reverse ++
            ['\n']
        else []
      shown ++ strings form least (offset + 1) (offset + 1) [] cs
    else if 32 ≤ n && n < 127 then strings form least (offset + 1) start (c :: text) cs
    else strings form least (offset + 1) (offset + 1) [] cs

end DumpForm

/-! ## The tool -/

def octetCount? (text : Octets) : Option Nat :=
  let (base, digits) := match text with
    | '0' :: 'x' :: rest | '0' :: 'X' :: rest => (16, rest)
    | '0' :: rest => (8, '0' :: rest)
    | rest => (10, rest)
  let value (c : Char) : Nat := if c.isDigit then c.toNat - 48 else c.toLower.toNat - 87
  let isDigit (c : Char) : Bool :=
    (c.isDigit && c.toNat - 48 < base) || (base = 16 && 'a' ≤ c.toLower && c.toLower ≤ 'f')
  let number := digits.takeWhile isDigit
  let factor := (count? ('1' :: digits.drop number.length)).filter fun _ => !number.isEmpty
  factor.map (number.foldl (fun n c => n * base + value c) 0 * ·)

def oldOffset? (text : Octets) : Option Nat :=
  let text := if text.head? == some '+' then text.drop 1 else text
  let (base, digits) := match text with
    | '0' :: 'x' :: rest => (16, rest)
    | rest => (8, rest)
  let isDigit (c : Char) : Bool :=
    (c.isDigit && c.toNat - 48 < base) || (base = 16 && 'a' ≤ c && c ≤ 'f')
  let number := digits.takeWhile isDigit
  let factor := match digits.drop number.length with
    | [] => some 1
    | ['b'] => some 512
    | ['B'] => some 1024
    | _ => none
  let value (c : Char) : Nat := if c.isDigit then c.toNat - 48 else c.toNat - 87
  if number.isEmpty then none
  else factor.map (number.foldl (fun n c => n * base + value c) 0 * ·)

def odFlags : List Flag :=
  plainFlags "aBbcDdeFfHhIiLlOosXx" ++
    [⟨'A', "address-radix", true⟩, ⟨'j', "skip-bytes", true⟩, ⟨'N', "read-bytes", true⟩,
      ⟨'S', "", true⟩, ⟨'\x01', "strings", .maybe⟩, ⟨'t', "format", true⟩,
      ⟨'v', "output-duplicates", false⟩, ⟨'w', "width", .maybe⟩, ⟨'\x02', "endian", true⟩,
      ⟨'\x03', "traditional", false⟩]

def typeOfLetter? : Char → Option String
  | 'a' => some "a"
  | 'b' => some "o1"
  | 'B' | 'o' => some "o2"
  | 'c' => some "c"
  | 'd' => some "u2"
  | 'D' => some "u4"
  | 'e' | 'F' => some "fD"
  | 'f' => some "fF"
  | 'h' | 'x' => some "x2"
  | 'H' | 'X' => some "x4"
  | 'i' => some "dI"
  | 'I' | 'l' | 'L' => some "dL"
  | 'O' => some "o4"
  | 's' => some "d2"
  | _ => none

/-- The first thing that is wrong about the options. -/
def odMisuse? (options : Options) : Option Octets :=
  options.findSome? fun (letter, value) =>
    let refused (option : String) : Option Octets :=
      some (("invalid " ++ option ++ " argument '").toList ++ value ++ ['\x27'])
    match letter with
    | 'A' =>
      if value.head?.any "doxn".toList.contains then none
      else
        some ("invalid output address radix '".toList ++ [value.head?.getD '\x00'] ++
          "'; it must be one character from [doxn]".toList)
    | 'j' => if (octetCount? value).isNone then refused "-j" else none
    | 'N' => if (octetCount? value).isNone then refused "-N" else none
    | 'S' => if (octetCount? value).isNone then refused "-S" else none
    | 'w' => if !value.isEmpty && (octetCount? value).isNone then refused "-w" else none
    | 't' =>
      match readTypes value (value.length + 1) value with
      | .error reason => some reason
      | .ok _ => none
    | _ => none

def typesOf (options : Options) : List DumpType :=
  let texts := options.filterMap fun (letter, value) =>
    if letter = 't' then some value else (typeOfLetter? letter).map String.toList
  let types := texts.flatMap fun text =>
    ((readTypes text (text.length + 1) text).toOption).getD []
  if types.isEmpty then [numberType 'o' 2] else types

def withoutOffset (options : Options) (operands : List Octets) : List Octets × Option Nat :=
  let isOld := options.has '\x03'
  let isModern := options.any fun option => "AjNStvw\x01".toList.contains option.1
  if isModern && !isOld then (operands, none)
  else
    match operands with
    | [only] =>
      match oldOffset? only with
      | some offset => if isOld || only.head? == some '+' then ([], some offset)
        else (operands, none)
      | none => (operands, none)
    | [path, last] =>
      match oldOffset? last with
      | some offset =>
        if isOld || last.head? == some '+' || last.head?.any Char.isDigit then
          ([path], some offset)
        else (operands, none)
      | none => (operands, none)
    | _ => (operands, none)

def od : Tool :=
  withOptions false odFlags 1 fun name options operands => do
    match odMisuse? options with
    | some reason => fail 1 name reason
    | none => do
      let some isBig ← choose 1 name (inQuotes "--endian".toList)
        [(["little"], false), (["big"], true)]
        ((options.value? '\x02').getD "little".toList) | return
      let (operands, offset) := withoutOffset options operands
      let skipped := offset.getD (((options.value? 'j').bind octetCount?).getD 0)
      let types := typesOf options
      let unit := types.foldl (fun n type => Nat.lcm n type.size) 1
      let usual := if unit < 16 then unit * (16 / unit) else unit
      let wanted := (options.value? 'w').map fun value =>
        if value.isEmpty then 32 else (octetCount? value).getD 0
      let isFitting := wanted.all fun width => width != 0 && width % unit = 0
      if !isFitting then
        report name ("warning: invalid width ".toList ++ natText (wanted.getD 0) ++
          "; using ".toList ++ natText unit ++ " instead".toList)
      let blockSize := if isFitting then wanted.getD usual else unit
      let address := match (options.value? 'A').bind List.head? with
        | some 'n' => none
        | some 'd' => some (10, 7)
        | some 'x' => some (16, 6)
        | _ => some (8, 7)
      let form : DumpForm :=
        { types, address, blockSize, showsAll := options.has 'v', isBigEndian := isBig }
      let m ← get
      let isOpened := (inputs operands).any fun path => (descriptorAt? path).isSome ||
        (m.status? path).toOption.isSome
      let text ← contents 1 name operands
      if text.length < skipped then
        fail 1 name "cannot skip past end of combined input".toList
      else if isOpened then
        let text := text.drop skipped
        let text := match (options.value? 'N').bind octetCount? with
          | some count => text.take count
          | none => text
        let least := match options.last? "S\x01" with
          | some 'S' => (options.value? 'S').bind octetCount?
          | some _ => some (((options.value? '\x01').bind octetCount?).getD 3)
          | none => none
        match least with
        | some least => print (form.strings least skipped skipped [] text)
        | none =>
          print (form.lines skipped none false (pieces blockSize (text.length + 1) text))

end NextRelease.Shell.Tool
