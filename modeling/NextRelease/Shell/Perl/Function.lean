import NextRelease.Shell.Calendar
import NextRelease.Shell.Perl.Token

/-!
Functions of values that need nothing but their arguments: formatted texts, the parts of a text
between separators, exchanged characters and moments.
-/

namespace NextRelease.Shell.Perl

/-! ## Formatted texts -/

def Quantity.toSigned (q : Quantity) : Int :=
  let n := q.toInt
  if mostWhole < n then -1
  else if n < leastWhole then leastWhole
  else Int.bmod n 18446744073709551616

def boundlessText? (q : Quantity) : Option Octets :=
  match q with
  | .real x => if x.isNaN || x.isInf then some (realText x) else none
  | .whole _ => none

/-- What a directive makes of a value; `none` if it is no directive. -/
def filled? (d : Directive) (v : Scalar) : Option Octets :=
  let q := v.toQuantity
  match d.conversion with
  | 's' =>
    let text := v.toText
    some (d.pad (match d.precision with
      | some n => text.take n
      | none => text))
  | 'c' => some (d.pad (characterOctets q.toInt.toNat))
  | 'd' | 'i' =>
    match boundlessText? q with
    | some text => some (d.pad text)
    | none => some (d.whole q.toSigned)
  | 'u' | 'o' | 'x' | 'X' => some (d.unsigned q.toWord)
  | 'b' | 'B' =>
    let front := if d.flags.contains '#' && q.toWord != 0 then ['0', d.conversion] else []
    some (d.padNumber front (d.wholeDigits 2 q.toWord) d.precision.isNone)
  | 'e' | 'E' | 'f' | 'F' | 'g' | 'G' =>
    match boundlessText? q with
    | some text => some (d.pad text)
    | none => some (d.float (Binary64.ofFloat q.toFloat))
  | _ => none

def takeSize (cs : Octets) (arguments : List Scalar) : Option Int × Octets × List Scalar :=
  match cs with
  | '*' :: cs => (some (arguments.head?.getD .undefined).toInt, cs, arguments.drop 1)
  | cs =>
    let digits := cs.takeWhile Char.isDigit
    (if digits.isEmpty then none else some (readNat digits : Int), cs.drop digits.length, arguments)

def pointedNumbers (text : Octets) : Octets :=
  List.intercalate ['.'] (text.map fun c => natText c.toNat)

/-- Fills a format; an argument may be chosen by its number. -/
def formatted (all : List Scalar) : (fuel : Nat) → Octets → List Scalar → Octets
  | 0, _, _ | _, [], _ => []
  | fuel + 1, '%' :: cs, arguments =>
    match cs with
    | '%' :: rest => '%' :: formatted all fuel rest arguments
    | cs =>
      let digits := cs.takeWhile Char.isDigit
      let (chosen, cs') := match cs.drop digits.length with
        | '$' :: rest => if digits.isEmpty then (none, cs) else (some (readNat digits), rest)
        | _ => (none, cs)
      let isFlag (c : Char) : Bool := "#-+ 0".toList.contains c
      let flags := cs'.takeWhile isFlag
      let (isVector, more) := match cs'.drop flags.length with
        | 'v' :: rest => (true, rest)
        | rest => (false, rest)
      let (width, more, arguments) := takeSize more arguments
      let flags := if width.any (· < 0) then '-' :: flags else flags
      let (precision, more, arguments) := match more with
        | '.' :: more =>
          let (precision, more, arguments) := takeSize more arguments
          ((some (precision.getD 0)).filter (0 ≤ ·), more, arguments)
        | more => (none, more, arguments)
      let more := more.dropWhile fun c => "hlqLV".toList.contains c
      match more with
      | [] => '%' :: cs
      | c :: rest =>
        let d : Directive :=
          { flags, width := (width.getD 0).natAbs, precision := precision.map Int.toNat
            conversion := if c = 'D' then 'd' else c }
        let v := match chosen with
          | some n => all[n - 1]?.getD .undefined
          | none => arguments.head?.getD .undefined
        let left := if chosen.isSome then arguments else arguments.drop 1
        if isVector then d.pad (pointedNumbers v.toText) ++ formatted all fuel rest left
        else
          match filled? d v with
          | some text => text ++ formatted all fuel rest left
          | none => '%' :: cs.take (cs.length - rest.length) ++ formatted all fuel rest arguments
  | fuel + 1, c :: cs, arguments => c :: formatted all fuel cs arguments

def sprintf (format : Octets) (arguments : List Scalar) : Octets :=
  formatted arguments (format.length + 1) format arguments

/-! ## Parts of texts -/

def partsBetween (text : Array Char) (p : Pattern) (groups : Nat) :
    (fuel : Nat) → (place most : Nat) → List Scalar
  | 0, place, _ => [.text (text.extract place text.size).toList]
  | fuel + 1, place, most =>
    let last : List Scalar := [.text (text.extract place text.size).toList]
    if most ≤ 1 || text.size ≤ place then last
    else
      match search text p place (some place) with
      | none => last
      | some found =>
        let captured : List Scalar := (List.range groups).map fun i =>
          match found.spans.lookup (i + 1) with
          | some (start, stop) => .text (text.extract start stop).toList
          | none => .undefined
        .text (text.extract place found.start).toList :: captured ++
          partsBetween text p groups fuel found.stop (most - 1)

def withoutTail (vs : List Scalar) : List Scalar :=
  (vs.reverse.dropWhile fun v => v.toText.isEmpty).reverse

def splitParts (p : Pattern) (groups : Nat) (text : Octets) (limit : Int) : List Scalar :=
  if text.isEmpty then []
  else
    let most := if limit ≤ 0 then text.length + 2 else limit.toNat
    let parts := partsBetween text.toArray p groups (text.length + 2) 0 most
    if limit = 0 then withoutTail parts else parts

def splitWords : (fuel : Nat) → (most : Nat) → Octets → List Octets
  | 0, _, _ => []
  | fuel + 1, most, text =>
    if text.isEmpty || most ≤ 1 then [text]
    else
      let word := text.takeWhile fun c => !isSpaceChar c
      match text.drop word.length with
      | [] => [word]
      | rest => word :: splitWords fuel (most - 1) (rest.dropWhile isSpaceChar)

def splitBlanks (text : Octets) (limit : Int) : List Scalar :=
  let text := text.dropWhile isSpaceChar
  if text.isEmpty then []
  else
    let most := if limit ≤ 0 then text.length + 2 else limit.toNat
    let parts := (splitWords (text.length + 2) most text).map Scalar.text
    if limit = 0 then withoutTail parts else parts

def placeOf? (part : Octets) : (place : Nat) → Octets → Option Nat
  | place, [] => if part.isEmpty then some place else none
  | place, c :: cs => if part.isPrefixOf (c :: cs) then some place else placeOf? part (place + 1) cs

def placesOf (part : Octets) : (place : Nat) → Octets → List Nat
  | place, [] => if part.isEmpty then [place] else []
  | place, c :: cs =>
    if part.isPrefixOf (c :: cs) then place :: placesOf part (place + 1) cs
    else placesOf part (place + 1) cs

def partBounds? (size : Nat) (start : Int) (count : Option Int) : Option (Nat × Nat) :=
  let first := if start < 0 then size + start else start
  if (size : Int) < first then none
  else
    let last := match count with
      | none => (size : Int)
      | some n => if n < 0 then size + n else first + n
    if first < 0 && last < 0 then none
    else
      let low := (max first 0).toNat
      some (low, min (max last.toNat low) size)

/-! ## Exchanged characters -/

def exchanged? (source target : Octets) (complements deletes : Bool) (c : Char) :
    Option (Option Char) :=
  if complements then
    if source.contains c then none
    else if deletes then some none
    else some (some (target.getLast?.getD c))
  else
    match source.findIdx? (· == c) with
    | none => none
    | some i =>
      match target[i]? with
      | some d => some (some d)
      | none =>
        if deletes then some none
        else some (some (target.getLast?.getD c))

def exchangeAll (change : Char → Option (Option Char)) (squeezes : Bool) :
    (before : Option Char) → Octets → Octets × Nat
  | _, [] => ([], 0)
  | before, c :: cs =>
    match change c with
    | none =>
      let (rest, count) := exchangeAll change squeezes none cs
      (c :: rest, count)
    | some none =>
      let (rest, count) := exchangeAll change squeezes before cs
      (rest, count + 1)
    | some (some d) =>
      let (rest, count) := exchangeAll change squeezes (some d) cs
      if squeezes && before = some d then (rest, count + 1) else (d :: rest, count + 1)

def exchange (source target flags text : Octets) : Octets × Nat :=
  let source := listedChars (source.length + 1) source
  let target := listedChars (target.length + 1) target
  let change := exchanged? source target (flags.contains 'c') (flags.contains 'd')
  exchangeAll change (flags.contains 's') none text

/-! ## Letters and numbers -/

def mapFirst (f : Char → Char) : Octets → Octets
  | [] => []
  | c :: cs => f c :: cs

def quotedPattern (text : Octets) : Octets :=
  text.flatMap fun c => if isWordChar c || 128 ≤ c.toNat then [c] else ['\\', c]

def digitsValue (base : Nat) (text : Octets) : Scalar :=
  let digits := Sum.digitsOf base (text.filter fun c => c != '_')
  (Quantity.ofInt (Sum.valueOf base digits)).toScalar

def hexValue (text : Octets) : Scalar :=
  match text with
  | '0' :: 'x' :: cs | '0' :: 'X' :: cs | 'x' :: cs => digitsValue 16 cs
  | cs => digitsValue 16 cs

def octValue (text : Octets) : Scalar :=
  match text.dropWhile isSpaceChar with
  | '0' :: 'x' :: cs | '0' :: 'X' :: cs | 'x' :: cs => digitsValue 16 cs
  | '0' :: 'b' :: cs | '0' :: 'B' :: cs | 'b' :: cs => digitsValue 2 cs
  | '0' :: 'o' :: cs => digitsValue 8 cs
  | cs => digitsValue 8 cs

def wholePart (q : Quantity) : Scalar :=
  match q with
  | .whole n => .whole n
  | .real x =>
    let part := if x < 0 then x.ceil else x.floor
    if part.abs < 1000000000000000 then .whole part.toInt64.toInt else .real part

def turnedBits (n : Nat) : Scalar := .whole (mostWhole - n)

/-! ## Moments -/

def momentParts (seconds : Int) : List Scalar :=
  let m : Moment := { seconds }
  let day := m.day
  [.whole m.second, .whole m.minute, .whole m.hour, .whole day.day, .whole (day.month - 1),
    .whole (day.year - 1900), .whole m.weekday, .whole day.inYear, .whole 0]

def momentText (seconds : Int) : Octets :=
  Moment.text { seconds } "%a %b %e %H:%M:%S %Y".toList

def momentFormatted (format : Octets) (parts : List Int) : Octets :=
  match parts with
  | second :: minute :: hour :: day :: month :: year :: _ =>
    let day := Calendar.normalized (year + 1900) (month + 1) day
    Moment.text { seconds := day.number * 86400 + hour * 3600 + minute * 60 + second } format
  | _ => []

end NextRelease.Shell.Perl
