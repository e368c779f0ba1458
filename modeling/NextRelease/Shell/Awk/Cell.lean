import NextRelease.Number.Binary64
import NextRelease.Shell.Awk.Basic
import NextRelease.Shell.Format
import Std.Data.HashMap

/-!
The values of programs for records: numbers, texts, and texts that were read, which count as numbers
where they look like one. What has no value yet is the empty text and zero.
-/

namespace NextRelease.Shell.Awk

inductive Cell where
  | unset
  | number (x : Float)
  | text (s : Octets)
  | input (s : Octets)
  deriving Inhabited

/-! ## Numbers in texts -/

/-- The number behind `0x`, which may have a fraction and a power of two. -/
def cutHexadecimal? (cs : Octets) : Option (Binary64 × Octets) :=
  match cs with
  | '0' :: x :: rest =>
    if x != 'x' && x != 'X' then none
    else
      let front := Sum.digitsOf 16 rest
      let rest := rest.drop front.length
      let (back, rest) := match rest with
        | '.' :: more => (Sum.digitsOf 16 more, more.drop (Sum.digitsOf 16 more).length)
        | _ => ([], rest)
      if front.isEmpty && back.isEmpty then none
      else
        let (power, rest) := match rest with
          | p :: more =>
            let (negative, digits) := cutSign more
            if (p = 'p' || p = 'P') && (digits.head?.map Char.isDigit).getD false then
              let n : Int := readNat digits
              (if negative then -n else n, digits.dropWhile Char.isDigit)
            else (0, rest)
          | [] => (0, [])
        let power := max (-5000) (min power 5000) - 4 * back.length
        let (num, den) := Binary64.scaleDown 2 (-power) (Sum.valueOf 16 (front ++ back)) 1
        some (if num = 0 then .finite false 0 0 else .ofQuotient false num den, rest)
  | _ => none

/-- The number at the head of a text, and what follows it; no digits at all are zero. -/
def leadingNumber (text : Octets) : Float × Octets :=
  let (negative, digits) := cutSign (text.dropWhile Sum.isSpace)
  let signed (x : Float) : Float := if negative then -x else x
  let lower := (digits.take 8).map Char.toLower
  match cutHexadecimal? digits with
  | some (x, rest) => (signed x.toFloat, rest)
  | none =>
    match cutDecimal digits with
    | some (n, power, rest) =>
      let x := if power = 0 && n < 9007199254740992 then Float.ofNat n
        else (Binary64.ofDecimal false n power).toFloat
      (signed x, rest)
    | none =>
      if "infinity".toList.isPrefixOf lower then
        (signed (Binary64.infinity false).toFloat, digits.drop 8)
      else if "inf".toList.isPrefixOf lower then
        (signed (Binary64.infinity false).toFloat, digits.drop 3)
      else if "nan".toList.isPrefixOf lower then (Binary64.nan.toFloat, digits.drop 3)
      else (0, text)

def looksNumeric? (text : Octets) : Option Float :=
  let text := text.dropWhile Sum.isSpace
  match text.head? with
  | none => none
  | some c =>
    if c.isDigit || c == '.' || c == '+' || c == '-' then
      let (x, rest) := leadingNumber text
      let used := text.take (text.length - rest.length)
      let lastFits := used.getLast?.any fun c => c.isDigit || c == '.'
      if lastFits && rest.all Sum.isSpace then some x else none
    else none

/-! ## Texts of numbers -/

def leastWhole : Float := -9223372036854775808

def pastSigned : Float := 9223372036854775808

def pastWhole : Float := 18446744073709551616

def boundedWhole (x : Float) : Int :=
  if x.isNaN then -9223372036854775808
  else if x < leastWhole then -9223372036854775807
  else if x < pastSigned then x.toInt64.toInt
  else x.toUInt64.toNat

def unsignedWhole (x : Float) : Nat := ((boundedWhole x) % 18446744073709551616).toNat

def wholeText? (x : Float) : Option Octets :=
  if x.floor == x && leastWhole ≤ x && x ≤ pastWhole then some (intText (boundedWhole x)) else none

def numberAs? (d : Directive) (x : Float) : Option Octets :=
  match d.conversion with
  | 'd' | 'i' => some (d.whole (boundedWhole x))
  | 'o' | 'u' | 'x' | 'X' => some (d.unsigned (unsignedWhole x))
  | 'e' | 'E' | 'f' | 'g' | 'G' =>
    if x.isNaN then some (d.padNumber ['-'] (if d.conversion.isUpper then "NAN".toList
      else "nan".toList) false)
    else some (d.float (.ofFloat x))
  | _ => none

def dropSizes (cs : Octets) : Octets := cs.dropWhile fun c => c == 'l' || c == 'h'

def writeNumber (format : Octets) (x : Float) : Octets :=
  let front := format.takeWhile (· != '%')
  match format.drop front.length with
  | '%' :: rest =>
    let (d, rest, _) := readDirective rest []
    match dropSizes rest with
    | c :: back => front ++ (numberAs? { d with conversion := c } x).getD [] ++ back
    | [] => front
  | _ => front

def numberText (format : Octets) (x : Float) : Octets :=
  (wholeText? x).getD (writeNumber format x)

namespace Cell

def toNumber : Cell → Float
  | unset => 0
  | number x => x
  | text s | input s => (leadingNumber s).1

def toText (format : Octets) : Cell → Octets
  | unset => []
  | number x => numberText format x
  | text s | input s => s

def numeric? : Cell → Option Float
  | unset => some 0
  | number x => some x
  | text _ => none
  | input s => looksNumeric? s

def isTrue : Cell → Bool
  | unset => false
  | number x => x != 0
  | text s => !s.isEmpty
  | input s =>
    match looksNumeric? s with
    | some x => x != 0
    | none => !s.isEmpty

def ofBool (b : Bool) : Cell := number (if b then 1 else 0)

def ofNat (n : Nat) : Cell := number (Float.ofNat n)

end Cell

def compareTexts : Octets → Octets → Ordering
  | [], [] => .eq
  | [], _ :: _ => .lt
  | _ :: _, [] => .gt
  | a :: as, b :: bs => if a < b then .lt else if b < a then .gt else compareTexts as bs

def compareCells (format : Octets) (a b : Cell) : Ordering :=
  match a.numeric?, b.numeric? with
  | some x, some y => if x < y then .lt else if y < x then .gt else .eq
  | _, _ => compareTexts (a.toText format) (b.toText format)

def Comparison.holds (op : Comparison) (order : Ordering) : Bool :=
  match op, order with
  | .less, .lt | .atMost, .lt | .different, .lt => true
  | .equal, .eq | .atMost, .eq | .atLeast, .eq => true
  | .greater, .gt | .atLeast, .gt | .different, .gt => true
  | _, _ => false

def Arithmetic.apply (op : Arithmetic) (x y : Float) : Float :=
  match op with
  | .add => x + y
  | .subtract => x - y
  | .multiply => x * y
  | .divide => x / y
  | .remainder => (Binary64.remainder (.ofFloat x) (.ofFloat y)).toFloat
  | .power => x.pow y

/-! ## Formats -/

structure Filled where
  out : Octets := []
  fault : Option Octets := none

def Filled.prepend (out : Octets) (f : Filled) : Filled := { f with out := out ++ f.out }

def fillDirective? (format : Octets) (d : Directive) (cell : Cell) : Option Octets :=
  let shortened (text : Octets) : Octets := match d.precision with
    | some p => text.take p
    | none => text
  match d.conversion with
  | 's' => some (d.pad (shortened (cell.toText format)))
  | 'c' =>
    let isNumber := match cell with
      | .number _ => true
      | .input s => (looksNumeric? s).isSome
      | _ => false
    if isNumber then
      let n := boundedWhole cell.toNumber % 256
      some (d.pad [Char.ofNat n.toNat])
    else some (d.pad [(cell.toText format).head?.getD '\x00'])
  | _ => numberAs? d cell.toNumber

def takeSize (cs : Octets) (cells : List Cell) : Option (Option Int × Octets × List Cell) :=
  match cs, cells with
  | '*' :: _, [] => none
  | '*' :: cs, cell :: cells => some (some (boundedWhole cell.toNumber), cs, cells)
  | cs, cells =>
    let digits := cs.takeWhile Char.isDigit
    some (if digits.isEmpty then none else some (readNat digits : Int), cs.drop digits.length,
      cells)

def takeDirective (cs : Octets) (cells : List Cell) : Option (Directive × Octets × List Cell) :=
  let isFlag (c : Char) : Bool := "#-+ 0".toList.contains c
  let flags := cs.takeWhile isFlag
  match takeSize (cs.drop flags.length) cells with
  | none => none
  | some (width, cs, cells) =>
    let flags := if width.any (· < 0) then '-' :: flags else flags
    let read : Option (Option Int × Octets × List Cell) := match cs with
      | '.' :: cs => (takeSize cs cells).map fun (size, cs, cells) =>
        ((some (size.getD 0)).filter (0 ≤ ·), cs, cells)
      | cs => some (none, cs, cells)
    read.map fun (precision, cs, cells) =>
      ({ flags, width := (width.getD 0).natAbs, precision := precision.map Int.toNat,
         conversion := ' ' }, dropSizes cs, cells)

/-- Fills values in; directives are numbered. The format for numbers is that of texts. -/
def fill (format : Octets) : (fuel : Nat) → (number : Nat) → Octets → List Cell → Filled
  | 0, _, _, _ => {}
  | _, _, [], _ => {}
  | fuel + 1, number, '%' :: '%' :: cs, cells =>
    (fill format fuel (number + 1) cs cells).prepend ['%']
  | fuel + 1, number, '%' :: cs, cells =>
    match takeDirective cs cells with
    | none => { fault := some "not enough arguments passed to ".toList }
    | some (d, rest, cells) =>
      match cells with
      | [] => { fault := some "not enough arguments passed to ".toList }
      | cell :: cells =>
        match rest with
        | c :: rest =>
          match fillDirective? format { d with conversion := c } cell with
          | some text => (fill format fuel (number + 1) rest cells).prepend text
          | none =>
            { fault := some ("improper conversion(number ".toList ++ natText number ++
                ") in ".toList) }
        | [] =>
          { fault := some ("improper conversion(number ".toList ++ natText number ++
              ") in ".toList) }
  | fuel + 1, number, c :: cs, cells => (fill format fuel number cs cells).prepend [c]

/-! ## Tables

Tables, and the order in which a loop meets their keys. Keys stand in buckets by the hashes of their
texts; in a bucket the one that was used last comes first. Whole numbers are used without their
texts until somebody asks for a text: then those that have none yet get one, in the order of buckets
of their own.
-/

structure Key where
  text : Octets
  number : Option Int := none

structure Entry where
  cell : Cell := .unset
  byText : Option Nat := none
  byNumber : Option Nat := none

structure Table where
  entries : Std.HashMap Octets Entry := {}
  buckets : Nat := 64
  clock : Nat := 0
  hasTexts : Bool := false
  isList : Bool := false
  deriving Inhabited

def textHash (text : Octets) : Nat :=
  text.foldl (fun hash c => (Nat.xor hash c.toNat * 16777619) % 4294967296) 2166136261

def Key.ofCell (format : Octets) : Cell → Key
  | .number x =>
    if x.floor == x && x.abs < 9007199254740992 then
      let n := boundedWhole x
      ⟨intText n, some n⟩
    else ⟨numberText format x, none⟩
  | cell => ⟨cell.toText format, none⟩

namespace Table

def size (t : Table) : Nat := t.entries.size

def numberOf (text : Octets) : Int :=
  match text with
  | '-' :: digits => -(readNat digits : Int)
  | digits => readNat digits

def withTexts (t : Table) : Table :=
  if t.hasTexts then t
  else
    let bucket (text : Octets) : Nat := ((numberOf text) % t.buckets).toNat
    let waiting := t.entries.toList.filterMap fun (text, entry) =>
      if entry.byText.isSome then none else some (bucket text, entry.byNumber.getD 0, text)
    let sorted := waiting.mergeSort fun a b => a.1 < b.1 || (a.1 == b.1 && b.2.1 ≤ a.2.1)
    let t := sorted.foldl
      (fun (t : Table) (_, _, text) =>
        let stamp := some t.clock
        { t with
          entries := t.entries.modify text fun entry => { entry with byText := stamp }
          clock := t.clock + 1 })
      t
    { t with hasTexts := true, isList := false }

def add (t : Table) (text : Octets) (entry : Entry) : Table :=
  let buckets := if 12 * t.buckets ≤ t.entries.size then 2 * t.buckets else t.buckets
  { t with entries := t.entries.insert text entry, buckets }

def useText (t : Table) (makes : Bool) (text : Octets) : Table :=
  let t := t.withTexts
  let stamp := some t.clock
  if t.entries.contains text then
    { t with
      entries := t.entries.modify text fun entry => { entry with byText := stamp }
      clock := t.clock + 1 }
  else if makes then { t.add text { byText := stamp } with clock := t.clock + 1 }
  else t

def use (t : Table) (makes : Bool) (key : Key) : Table :=
  match key.number with
  | none => t.useText makes key.text
  | some _ =>
    let isThere := t.entries.contains key.text
    if t.isList && isThere then t
    else
      let t := { t with isList := false }
      let isNumbered := (t.entries[key.text]?.bind Entry.byNumber).isSome
      let t := if t.hasTexts && !isNumbered then t.useText makes key.text else t
      let stamp := some t.clock
      if t.entries.contains key.text then
        { t with
          entries := t.entries.modify key.text fun entry => { entry with byNumber := stamp }
          clock := t.clock + 1 }
      else if makes then { t.add key.text { byNumber := stamp } with clock := t.clock + 1 }
      else t

def get (t : Table) (key : Key) : Cell := (t.entries[key.text]?.map Entry.cell).getD .unset

def has (t : Table) (key : Key) : Bool := t.entries.contains key.text

def put (t : Table) (key : Key) (cell : Cell) : Table :=
  { t with entries := t.entries.modify key.text fun entry => { entry with cell } }

def erase (t : Table) (key : Key) : Table :=
  let t := t.use false key
  let entries := t.entries.erase key.text
  if entries.isEmpty then {} else { t with entries }

def keys (t : Table) : Table × List Octets :=
  let t := t.withTexts
  let placed := t.entries.toList.map fun (text, entry) =>
    (textHash text % t.buckets, entry.byText.getD 0, text)
  let sorted := placed.mergeSort fun a b => a.1 < b.1 || (a.1 == b.1 && b.2.1 ≤ a.2.1)
  (t, sorted.map fun entry => entry.2.2)

def ofList (cells : List Cell) : Table :=
  let t := (cells.zip (List.range' 1 cells.length)).foldl
    (fun (t : Table) (cell, n) =>
      { t.add (natText n) { cell, byNumber := some t.clock } with clock := t.clock + 1 })
    {}
  { t with isList := true }

def ofPairs (pairs : List (Octets × Cell)) : Table :=
  pairs.foldl (fun t (text, cell) => (t.useText true text).put ⟨text, none⟩ cell) {}

end Table

end NextRelease.Shell.Awk
