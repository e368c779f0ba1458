import NextRelease.Shell.Format
import NextRelease.Shell.Tool.Lines

/-!
Orders of texts: by the numbers that they begin with, by the versions that they name, by months, and
by what looks like chance.
-/

namespace NextRelease.Shell.Tool

/-! ## Numbers -/

def leadingNumber (text : Octets) : Bool × Nat × Octets :=
  let text := text.dropWhile isGap
  let (negative, text) := match text with
    | '-' :: text => (true, text)
    | text => (false, text)
  let whole := text.takeWhile Char.isDigit
  let fraction := match text.drop whole.length with
    | '.' :: rest => rest.takeWhile Char.isDigit
    | _ => []
  let fraction := (fraction.reverse.dropWhile (· == '0')).reverse
  (negative && !(readNat whole == 0 && fraction.isEmpty), readNat whole, fraction)

def compareNumbers (a b : Octets) : Ordering :=
  let (aNegative, m, mFraction) := leadingNumber a
  let (bNegative, n, nFraction) := leadingNumber b
  let order := (compare m n).then (compare mFraction nFraction)
  match aNegative, bNegative with
  | true, false => .lt
  | false, true => .gt
  | true, true => order.swap
  | false, false => order

def unitLetters : Octets := "KMGTPEZY".toList

def unitRank (text : Octets) : Int :=
  let (negative, text) := match text with
    | '-' :: text => (true, text)
    | text => (false, text)
  let whole := text.takeWhile Char.isDigit
  let (fraction, rest) := match text.drop whole.length with
    | '.' :: rest => (rest.takeWhile Char.isDigit, rest.dropWhile Char.isDigit)
    | rest => ([], rest)
  let rank : Nat := match rest with
    | 'k' :: _ => 1
    | c :: _ => if unitLetters.contains c then unitLetters.idxOf c + 1 else 0
    | [] => 0
  if (whole ++ fraction).all (· == '0') then 0
  else if negative then -rank else rank

def compareSizes (a b : Octets) : Ordering :=
  let bare (text : Octets) : Octets := text.dropWhile isGap
  (compare (unitRank (bare a)) (unitRank (bare b))).then (compareNumbers a b)

inductive Worth where
  | nothing
  | notANumber
  | number (numerator : Int) (denominator : Nat)

def mostPower : Int := 4932

def leastPower : Int := -4951

namespace Worth

def infinite (negative : Bool) : Worth :=
  let n := Int.ofNat (Nat.pow 10 5000)
  .number (if negative then -n else n) 1

def ofParts (negative : Bool) (digits base : Nat) (power : Int) : Worth :=
  let n : Int := if negative then -Int.ofNat digits else digits
  if 0 ≤ power then .number (n * Int.ofNat (Nat.pow base power.toNat)) 1
  else .number n (Nat.pow base (-power).toNat)

def ofHexadecimal (negative : Bool) (cs : Octets) : Worth :=
  let isHex (c : Char) : Bool := c.isDigit || ('a' ≤ c.toLower && c.toLower ≤ 'f')
  let whole := cs.takeWhile isHex
  let (fraction, rest) := match cs.drop whole.length with
    | '.' :: rest => (rest.takeWhile isHex, rest.dropWhile isHex)
    | rest => ([], rest)
  let digits := (whole ++ fraction).foldl (fun n c =>
    n * 16 + if c.isDigit then c.toNat - 48 else c.toLower.toNat - 87) 0
  let power : Int := match rest with
    | p :: rest =>
      if p = 'p' || p = 'P' then
        let (isDown, rest) := cutSign rest
        if isDown then -Int.ofNat (readNat rest) else readNat rest
      else 0
    | [] => 0
  ofParts negative digits 2 (max (-20000) (min 20000 (power - 4 * fraction.length)))

def ofText (text : Octets) : Worth :=
  let (negative, cs) := cutSign (text.dropWhile Sum.isSpace)
  let word := (cs.take 3).map Char.toLower
  if word = "inf".toList then infinite negative
  else if word = "nan".toList then .notANumber
  else if (cs.take 2).map Char.toLower = "0x".toList then ofHexadecimal negative (cs.drop 2)
  else
    match cutDecimal cs with
    | none => .nothing
    | some (digits, power, _) =>
      let size : Int := power + Int.ofNat (Nat.toDigits 10 digits).length
      if digits = 0 || size < leastPower then .number 0 1
      else if mostPower + 1 < size then infinite negative
      else ofParts negative digits 10 power

def rank : Worth → Nat
  | nothing => 0
  | notANumber => 1
  | number _ _ => 2

def compare (a b : Worth) : Ordering :=
  match a, b with
  | number m k, number n l => Ord.compare (m * l) (n * k)
  | a, b => Ord.compare a.rank b.rank

end Worth

/-! ## Months and chance -/

def monthNames : List String :=
  ["JAN", "FEB", "MAR", "APR", "MAY", "JUN", "JUL", "AUG", "SEP", "OCT", "NOV", "DEC"]

def monthOf (text : Octets) : Nat :=
  let word := ((text.dropWhile isGap).take 3).map Char.toUpper
  (monthNames.idxOf? (String.ofList word)).elim 0 (· + 1)

def scattered (text : Octets) : Nat :=
  text.foldl (fun n c => (Nat.xor n c.toNat * 1099511628211) % 18446744073709551616)
    14695981039346656037

/-! ## Versions -/

def versionRank (c : Char) : Int :=
  if c.isAlpha then c.toNat else if c = '~' then -2 else c.toNat + 256

def compareVersionParts : (fuel : Nat) → Octets → Octets → Ordering
  | 0, _, _ => .eq
  | _, [], [] => .eq
  | fuel + 1, a, b =>
    let aText := a.takeWhile fun c => !c.isDigit
    let bText := b.takeWhile fun c => !c.isDigit
    let (aRest, bRest) := (a.drop aText.length, b.drop bText.length)
    let ranks (text rest : Octets) : List Int :=
      text.map versionRank ++ [if rest.isEmpty then -1 else 0]
    let texts :=
      if aText.length = bText.length then
        compareOfLessAndEq (aText.map versionRank) (bText.map versionRank)
      else compareOfLessAndEq (ranks aText aRest) (ranks bText bRest)
    let aDigits := aRest.takeWhile Char.isDigit
    let bDigits := bRest.takeWhile Char.isDigit
    texts.then ((compare (readNat aDigits) (readNat bDigits)).then
      (compareVersionParts fuel (aRest.drop aDigits.length) (bRest.drop bDigits.length)))

def behindEndings : (fuel : Nat) → Octets → Octets
  | 0, cs => cs
  | fuel + 1, '.' :: c :: cs =>
    if c.isAlpha || c = '~' then
      behindEndings fuel (cs.dropWhile fun c => c.isAlphanum || c == '~')
    else '.' :: c :: cs
  | _, cs => cs

def withoutEndings : (fuel : Nat) → Octets → Octets
  | 0, cs => cs
  | _, [] => []
  | fuel + 1, c :: cs =>
    if (behindEndings (cs.length + 1) cs).isEmpty then [c] else c :: withoutEndings fuel cs

def compareVersions (a b : Octets) : Ordering :=
  let whole := compareVersionParts (a.length + b.length + 1)
  let rank (name : Octets) : Nat :=
    match name with
    | [] => 0
    | ['.'] => 1
    | ['.', '.'] => 2
    | '.' :: _ => 3
    | _ => 4
  let stem (name : Octets) : Octets := withoutEndings (name.length + 1) name
  if rank a != rank b || rank a < 3 then compare (rank a) (rank b)
  else (whole (stem a) (stem b)).then (whole a b)

/-! ## Sorting

Sorting. Lines are compared by keys, each a part of the line with the manner in which such parts are
compared; what no key tells apart is compared as a whole.
-/

/-! ## Keys -/

/-- In what manner parts of lines are compared. -/
structure Manner where
  numeric : Bool := false
  general : Bool := false
  sizes : Bool := false
  months : Bool := false
  versions : Bool := false
  random : Bool := false
  reversed : Bool := false
  ignoresCase : Bool := false
  dictionary : Bool := false
  printable : Bool := false
  skipsAtStart : Bool := false
  skipsAtEnd : Bool := false
  deriving DecidableEq

namespace Manner

def withLetter? (m : Manner) (atStart atEnd : Bool) (letter : Char) : Option Manner :=
  match letter with
  | 'n' => some { m with numeric := true }
  | 'g' => some { m with general := true }
  | 'h' => some { m with sizes := true }
  | 'M' => some { m with months := true }
  | 'R' => some { m with random := true }
  | 'V' => some { m with versions := true }
  | 'r' => some { m with reversed := true }
  | 'f' => some { m with ignoresCase := true }
  | 'd' => some { m with dictionary := true }
  | 'i' => some { m with printable := true }
  | 'b' => some
      { m with skipsAtStart := m.skipsAtStart || atStart, skipsAtEnd := m.skipsAtEnd || atEnd }
  | _ => none

def compare (m : Manner) (a b : Octets) : Ordering :=
  let counts (c : Char) : Bool :=
    if m.dictionary then isGap c || c.isAlphanum
    else !m.printable || (32 ≤ c.toNat && c.toNat < 127)
  let seen (text : Octets) : Octets :=
    let text := text.filter counts
    if m.ignoresCase then text.map Char.toUpper else text
  let order :=
    if m.numeric then compareNumbers a b
    else if m.general then (Worth.ofText a).compare (Worth.ofText b)
    else if m.sizes then compareSizes a b
    else if m.months then Ord.compare (monthOf a) (monthOf b)
    else if m.random then Ord.compare (scattered (seen a)) (scattered (seen b))
    else if m.versions then compareVersions (seen a) (seen b)
    else Ord.compare (seen a) (seen b)
  if m.reversed then order.swap else order

def clash? (m : Manner) : Option String :=
  let texts := m.dictionary || m.printable
  let kinds := [m.numeric, m.general, m.sizes, m.months, m.versions || m.random || texts]
  if 1 < kinds.count true then
    let letters : List (Bool × String) :=
      [(m.dictionary, "d"), (m.ignoresCase, "f"), (m.general, "g"), (m.sizes, "h"),
        (m.printable && !m.dictionary, "i"), (m.months, "M"), (m.numeric, "n"), (m.random, "R"),
        (m.versions, "V")]
    some (String.join ((letters.filter (·.1)).map (·.2)))
  else none

end Manner

structure LinePlace where
  field : Nat
  char : Nat

structure SortKey where
  start : LinePlace
  finish : Option LinePlace
  manner : Manner

def behindFields (separator : Option Char) (keepsLast : Bool) : (count : Nat) → Octets → Octets
  | 0, text => text
  | count + 1, text =>
    let rest := match separator with
      | some c =>
        let rest := text.dropWhile (· != c)
        if keepsLast && count == 0 then rest else rest.drop 1
      | none => (text.dropWhile isGap).dropWhile fun c => !isGap c
    behindFields separator keepsLast count rest

def SortKey.part (key : SortKey) (separator : Option Char) (line : Octets) : Octets :=
  let skip (skips : Bool) (text : Octets) : Octets :=
    if skips then text.dropWhile isGap else text
  let fromStart := (skip key.manner.skipsAtStart
    (behindFields separator false key.start.field line)).drop key.start.char
  let fromEnd := match key.finish with
    | none => []
    | some place =>
      if place.char = 0 then behindFields separator true (place.field + 1) line
      else
        (skip key.manner.skipsAtEnd (behindFields separator false place.field line)).drop place.char
  fromStart.take (fromStart.length - fromEnd.length)

def SortKey.compare (key : SortKey) (separator : Option Char) (a b : Octets) : Ordering :=
  key.manner.compare (key.part separator a) (key.part separator b)

def readKeyCount (reason : String) (text : Octets) : Except Octets (Nat × Octets) :=
  let digits := text.dropWhile fun c => isGap c || c == '\n'
  let digits := if digits.head? == some '+' then digits.drop 1 else digits
  let count := digits.takeWhile Char.isDigit
  if count.isEmpty then
    .error (reason.toList ++ ": invalid count at start of ".toList ++ inQuotes text)
  else .ok (readNat count, digits.drop count.length)

/-- Reads a key such as `2,3.1nr`. Letters of its own override those of the whole call. -/
def readKey (whole : Manner) (text : Octets) : Except Octets SortKey := do
  let refuse {α : Type} (reason : String) : Except Octets α :=
    .error (reason.toList ++ ": invalid field specification ".toList ++ inQuotes text)
  let letters (atEnd : Bool) (m : Manner) (rest : Octets) : Manner × Octets :=
    let known := rest.takeWhile fun c => (m.withLetter? false false c).isSome
    (known.foldl (fun m c => (m.withLetter? (!atEnd) atEnd c).getD m) m, rest.drop known.length)
  let (field, rest) ← readKeyCount "invalid number at field start" text
  if field = 0 then refuse "field number is zero"
  let (char, rest) ← match rest with
    | '.' :: rest => readKeyCount "invalid number after '.'" rest
    | rest => pure (1, rest)
  if char = 0 then refuse "character offset is zero"
  let (manner, rest) := letters false {} rest
  let start : LinePlace := ⟨field - 1, char - 1⟩
  let (finish, manner, rest) ← match rest with
    | ',' :: rest => do
      let (field, rest) ← readKeyCount "invalid number after ','" rest
      if field = 0 then refuse "field number is zero"
      let (char, rest) ← match rest with
        | '.' :: rest => readKeyCount "invalid number after '.'" rest
        | rest => pure (0, rest)
      let (manner, rest) := letters true manner rest
      pure (some (LinePlace.mk (field - 1) char), manner, rest)
    | rest => pure (none, manner, rest)
  if !rest.isEmpty then refuse "stray character in field spec"
  return { start, finish, manner := if manner = {} then whole else manner }

/-! ## The tool -/

def dropEqual (equal : Octets → Octets → Bool) : List Octets → List Octets
  | [] => []
  | line :: lines =>
    match dropEqual equal lines with
    | [] => [line]
    | next :: rest => if equal line next then line :: rest else line :: next :: rest

def firstFall (mayFollow : Octets → Octets → Bool) : (number : Nat) → List Octets →
    Option (Nat × Octets)
  | number, a :: b :: rest =>
    if mayFollow a b then firstFall mayFollow (number + 1) (b :: rest) else some (number, b)
  | _, _ => none

def readSeparator (values : List Octets) : Except Octets (Option Char) := do
  let separators ← values.mapM fun value =>
    match value with
    | [] => .error "empty tab".toList
    | [c] => .ok c
    | ['\\', '0'] => .ok '\x00'
    | _ => .error ("multi-character tab ".toList ++ inQuotes value)
  if separators.any fun c => some c != separators.head? then .error "incompatible tabs".toList
  else return separators.head?

def readKeys (whole : Manner) (values : List Octets) : Except Octets (List SortKey) := do
  let read ← values.mapM (readKey whole)
  let keys := if read.isEmpty then [⟨⟨0, 0⟩, none, whole⟩] else read
  match keys.findSome? fun key => key.manner.clash? with
  | some letters => .error ("options '-".toList ++ letters.toList ++ "' are incompatible".toList)
  | none => return keys

def readLines (name : Octets) (ending : Char) (refused : String) (paths : List Octets) :
    Act (Option (List (List Octets))) := do
  let texts ← paths.mapM fun path => do
    match ← content path with
    | .ok text => return some (partsBefore ending text)
    | .error (.file .isADirectory) => do
      fail 2 name ("read failed: ".toList ++ quotedIfPeculiar path ++ ": Is a directory".toList)
      return none
    | .error fault => do
      fail 2 name ((refused ++ ": ").toList ++ quotedIfPeculiar path ++ ": ".toList ++ fault.text)
      return none
  return if texts.all Option.isSome then some (texts.filterMap id) else none

def takeFirst (order : Octets → Octets → Ordering) : List (List Octets) →
    Option (Octets × List (List Octets))
  | [] => none
  | [] :: texts => takeFirst order texts
  | (line :: rest) :: texts =>
    match takeFirst order texts with
    | none => some (line, rest :: texts)
    | some (other, left) =>
      if order line other == .gt then some (other, (line :: rest) :: left)
      else some (line, rest :: texts)

def mergeTexts (order : Octets → Octets → Ordering) : (fuel : Nat) → List (List Octets) →
    List Octets
  | 0, _ => []
  | fuel + 1, texts =>
    match takeFirst order texts with
    | none => []
    | some (line, texts) => line :: mergeTexts order fuel texts

def cutFieldCounts (text : Octets) : Nat × Nat × Octets :=
  let field := text.takeWhile Char.isDigit
  match text.drop field.length with
  | '.' :: rest =>
    let char := rest.takeWhile Char.isDigit
    (readNat field, readNat char, rest.drop char.length)
  | rest => (readNat field, 0, rest)

def keyOfSkips (start finish : Octets) : Octets :=
  let (field, char, letters) := cutFieldCounts start
  let front := natText (field + 1) ++ '.' :: natText (char + 1) ++ letters
  if finish.isEmpty then front
  else
    let (field, char, letters) := cutFieldCounts finish
    front ++ ',' ::
      (if char = 0 then natText field else natText (field + 1) ++ '.' :: natText char) ++ letters

def withKeys : List Octets → List Octets
  | ('+' :: start) :: ('-' :: c :: finish) :: words =>
    if !start.head?.any Char.isDigit then ('+' :: start) :: withKeys (('-' :: c :: finish) :: words)
    else if c.isDigit then
      ("-k".toList ++ keyOfSkips start (c :: finish)) :: withKeys words
    else ("-k".toList ++ keyOfSkips start []) :: withKeys (('-' :: c :: finish) :: words)
  | word :: words =>
    (match word with
    | '+' :: c :: start => if c.isDigit then "-k".toList ++ keyOfSkips (c :: start) [] else word
    | word => word) :: withKeys words
  | [] => []

def sortFlags : List Flag :=
  [⟨'b', "ignore-leading-blanks", false⟩, ⟨'\x01', "check", .maybe⟩, ⟨'c', "", false⟩,
    ⟨'C', "", false⟩, ⟨'d', "dictionary-order", false⟩, ⟨'f', "ignore-case", false⟩,
    ⟨'g', "general-numeric-sort", false⟩, ⟨'h', "human-numeric-sort", false⟩,
    ⟨'i', "ignore-nonprinting", false⟩, ⟨'k', "key", true⟩, ⟨'m', "merge", false⟩,
    ⟨'M', "month-sort", false⟩, ⟨'n', "numeric-sort", false⟩, ⟨'R', "random-sort", false⟩,
    ⟨'\x02', "random-source", true⟩, ⟨'\x03', "sort", true⟩, ⟨'V', "version-sort", false⟩,
    ⟨'o', "output", true⟩, ⟨'r', "reverse", false⟩, ⟨'s', "stable", false⟩,
    ⟨'S', "buffer-size", true⟩, ⟨'t', "field-separator", true⟩,
    ⟨'T', "temporary-directory", true⟩, ⟨'u', "unique", false⟩, ⟨'z', "zero-terminated", false⟩,
    ⟨'\x04', "batch-size", true⟩, ⟨'\x05', "compress-program", true⟩,
    ⟨'\x06', "files0-from", true⟩, ⟨'\x07', "parallel", true⟩]

def sortKinds : List (List String × Char) :=
  [(["general-numeric"], 'g'), (["human-numeric"], 'h'), (["month"], 'M'), (["numeric"], 'n'),
    (["random"], 'R'), (["version"], 'V')]

def plainOptions (name : Octets) : Options → Act (Option Options)
  | [] => return some []
  | (letter, value) :: options => do
    let kind ← match letter with
      | '\x03' => choose 1 name (inQuotes "--sort".toList) sortKinds value
      | '\x01' =>
        if value.isEmpty then pure (some 'c')
        else
          choose 1 name (inQuotes "--check".toList)
            [(["quiet", "silent"], 'C'), (["diagnose-first"], 'c')] value
      | letter => pure (some letter)
    let some kind := kind | return none
    let some more ← plainOptions name options | return none
    return some ((kind, value) :: more)

def sortMisuse? (options : Options) : Option Octets :=
  options.findSome? fun (letter, value) =>
    let number := value.takeWhile Char.isDigit
    match letter with
    | 'S' =>
      if number.isEmpty then some ("invalid -S argument '".toList ++ value ++ ['\x27']) else none
    | '\x07' =>
      if !isNumber value then
        some ("invalid --parallel argument '".toList ++ value ++ ['\x27'])
      else if readNat value = 0 then some "number in parallel must be nonzero".toList
      else none
    | _ => none

/-- The files to be sorted, unless they cannot be known. -/
def sortInputs (name : Octets) (options : Options) (operands : List Octets) :
    Act (Option (List Octets)) := do
  match options.value? '\x06', operands with
  | none, operands => return some (inputs operands)
  | some _, extra :: _ => do
    fail 2 name ("extra operand ".toList ++ shellQuoted extra)
    printError "file operands cannot be combined with --files0-from\n".toList
    printError (helpHint name)
    return none
  | some list, [] =>
    match ← content list with
    | .error fault => do
      fail 2 name ("open failed: ".toList ++ quotedIfPeculiar list ++ ": ".toList ++ fault.text)
      return none
    | .ok text =>
      let paths := partsBefore '\x00' text
      if paths.isEmpty then
        fail 2 name ("no input from ".toList ++ shellQuoted list)
        return none
      return some paths

structure SortOrder where
  separator : Option Char
  keys : List SortKey
  isUnique : Bool
  isStable : Bool
  isReversed : Bool
  ending : Char

namespace SortOrder

def byKeys (o : SortOrder) (a b : Octets) : Ordering :=
  o.keys.foldl (fun order key => order.then (key.compare o.separator a b)) .eq

def compare (o : SortOrder) (a b : Octets) : Ordering :=
  (o.byKeys a b).then
    (if o.isUnique || o.isStable then .eq
    else if o.isReversed then Ord.compare b a else Ord.compare a b)

def check (o : SortOrder) (name path : Octets) (tells : Bool) (texts : List Octets) : Act Unit := do
  let mayFollow (a b : Octets) : Bool :=
    o.compare a b == .lt || (!o.isUnique && o.compare a b == .eq)
  match firstFall mayFollow 2 texts with
  | none => return ()
  | some (number, line) => do
    if tells then
      report name (path ++ ':' :: natText number ++ ": disorder: ".toList ++ line)
    finish 1

def sorted (o : SortOrder) (merges : Bool) (texts : List (List Octets)) : List Octets :=
  let lines := if merges then mergeTexts o.compare (texts.flatten.length + 1) texts
    else texts.flatten.mergeSort fun a b => (o.compare a b).isLE
  if o.isUnique then dropEqual (fun a b => o.byKeys a b == .eq) lines else lines

end SortOrder

def sortClash? (options : Options) (operands : List Octets) : Option Octets :=
  let outputs := (options.values 'o').eraseDups
  let check := if options.has 'c' then 'c' else 'C'
  let checks := options.has 'c' || options.has 'C'
  if options.has 'c' && options.has 'C' then some "options '-cC' are incompatible".toList
  else if 1 < outputs.length then some "multiple output files specified".toList
  else if checks && !outputs.isEmpty then
    some ("options '-".toList ++ [check] ++ "o' are incompatible".toList)
  else
    match checks, operands.drop 1 with
    | true, extra :: _ =>
      some ("extra operand ".toList ++ shellQuoted extra ++ " not allowed with -".toList ++ [check])
    | _, _ => none

def sort : Tool := fun name arguments =>
  withOptions false sortFlags 2
    (fun name options operands => do
      let some options ← plainOptions name options | return
      let whole := options.foldl
        (fun m option => (Manner.withLetter? m true true option.1).getD m) {}
      let ready : Except Octets (Option Char × List SortKey) := do
        match sortMisuse? options with
        | some reason => throw reason
        | none => pure ()
        let separator ← readSeparator (options.values 't')
        return (separator, ← readKeys whole (options.values 'k'))
      match ready, sortClash? options operands with
      | .error reason, _ | .ok _, some reason => fail 2 name reason
      | .ok (separator, keys), none => do
        let checks := options.has 'c' || options.has 'C'
        let o : SortOrder :=
          { separator, keys
            isUnique := options.has 'u', isStable := options.has 's', isReversed := whole.reversed
            ending := if options.has 'z' then '\x00' else '\n' }
        let some paths ← sortInputs name options operands | return
        let refused := if checks then "open failed" else "cannot read"
        let some given ← readWhole (readLines name o.ending refused paths) | return
        if checks then o.check name (paths.head?.getD ['-']) (options.has 'c') given.flatten
        else
          let text := (o.sorted (options.has 'm') given).flatMap (· ++ [o.ending])
          match options.value? 'o' with
          | some path =>
            match ← writeFile path text with
            | .ok () => return ()
            | .error fault => fail 2 name ("open failed: ".toList ++ about path fault)
          | none => print text)
    name (withKeys arguments)

/-! ## Chance

Lines in an order that chance decides, as far as there is chance: the numbers that are drawn are the
same in each run.
-/

namespace Shuffle

def permuted (seed : Nat) (items : List Octets) : List Octets :=
  let drawn := (randomNumbers items.length seed).zip items
  (drawn.mergeSort fun a b => a.1 ≤ b.1).map (·.2)

def drawn (seed count : Nat) (items : List Octets) : List Octets :=
  (randomNumbers count seed).filterMap fun n => items[n % items.length]?

def range? (text : Octets) : Option (Nat × Nat) :=
  match Text.cut '-' text with
  | (low, some high) =>
    if isNumber low && isNumber high && readNat low ≤ readNat high + 1 then
      some (readNat low, readNat high)
    else none
  | _ => none

def flags : List Flag :=
  [⟨'e', "echo", false⟩, ⟨'i', "input-range", true⟩, ⟨'n', "head-count", true⟩,
    ⟨'o', "output", true⟩, ⟨'r', "repeat", false⟩, ⟨'z', "zero-terminated", false⟩,
    ⟨'R', "random-source", true⟩]

/-- The items of a call, or why there are none. -/
def items (name : Octets) (options : Options) (operands : List Octets) :
    Act (Option (List Octets)) := do
  let ending := if options.has 'z' then '\x00' else '\n'
  match options.value? 'i', options.has 'e' with
  | some text, _ =>
    return (range? text).map fun ends =>
      (List.range (ends.2 + 1 - ends.1)).map fun i => natText (ends.1 + i)
  | none, true => return some operands
  | none, false =>
    let path := operands.head?.getD ['-']
    match ← content path with
    | .ok text => return some (partsBefore ending text)
    | .error (.file .isADirectory) =>
      fail 1 name "read error: Is a directory".toList
      return none
    | .error fault =>
      fail 1 name (quotedIfPeculiar path ++ ": ".toList ++ fault.text)
      return none

end Shuffle

def shuf : Tool :=
  withOptions false Shuffle.flags 1 fun name options operands => do
    let ranges := options.values 'i'
    let operand? := if options.has 'i' then operands[0]? else if options.has 'e' then none
      else operands[1]?
    let badRange := ranges.find? fun text => (Shuffle.range? text).isNone
    let badCount := (options.values 'n').find? fun text => !isNumber text
    let outputs := (options.values 'o').eraseDups
    if let some text := badRange then fail 1 name ("invalid input range: ".toList ++ inQuotes text)
    else if 1 < ranges.length then fail 1 name "multiple -i options specified".toList
    else if let some text :=
      badCount then fail 1 name ("invalid line count: ".toList ++ inQuotes text)
    else if 1 < outputs.length then fail 1 name "multiple output files specified".toList
    else if options.has 'e' && options.has 'i' then
      misuse 1 name "cannot combine -e and -i options".toList
    else if let some word := operand? then misuse 1 name ("extra operand ".toList ++ inQuotes word)
    else
      let count := ((options.values 'n').map readNat).min?
      let some items ← (if count = some 0 then pure (some []) else
        Shuffle.items name options operands)
        | return
      let m ← get
      let seed := m.nextProcess * 65599 + m.nextStream
      if options.has 'r' && items.isEmpty && count != some 0 then
        fail 1 name "no lines to repeat".toList
        return
      let chosen := if options.has 'r' then
          Shuffle.drawn seed (count.getD m.capacity) items
        else
          let all := Shuffle.permuted seed items
          all.take (count.getD all.length)
      let ending := if options.has 'z' then '\x00' else '\n'
      let text := chosen.flatMap (· ++ [ending])
      match outputs with
      | path :: _ =>
        match ← writeFile path text with
        | .ok () => return
        | .error fault => fail 1 name (about path fault)
      | [] => print text

end NextRelease.Shell.Tool
