import NextRelease.Number.Binary64
import NextRelease.Shell.Format

/-!
The values of scripts: texts, numbers and references. A text counts as the number at its head, and a
number as the text that it is written as; whole numbers stay whole as long as sixty-four bits hold
them.
-/

namespace NextRelease.Shell.Perl

inductive Scalar where
  | undefined
  | whole (n : Int)
  | real (x : Float)
  | text (s : Octets)
  | fault (code : Nat)
  | cellRef (id : Nat)
  | listRef (id : Nat)
  | tableRef (id : Nat)
  | codeRef (id : Nat)
  | handle (name : Octets)
  | truth (b : Bool)
  deriving Inhabited

inductive Quantity where
  | whole (n : Int)
  | real (x : Float)

def leastWhole : Int := -9223372036854775808

def mostWhole : Int := 18446744073709551615

def fitsWhole (n : Int) : Bool := leastWhole ≤ n && n ≤ mostWhole

def floatOfInt (n : Int) : Float :=
  if n.natAbs < 9007199254740992 then Float.ofInt n
  else (Binary64.ofQuotient (n < 0) n.natAbs 1).toFloat

namespace Quantity

def ofInt (n : Int) : Quantity := if fitsWhole n then whole n else real (floatOfInt n)

def toFloat : Quantity → Float
  | whole n => floatOfInt n
  | real x => x

def settled : Quantity → Quantity
  | whole n => whole n
  | real x =>
    if x.floor == x && x.abs < 9007199254740992 then whole x.toInt64.toInt else real x

def toInt : Quantity → Int
  | whole n => n
  | real x => (Binary64.ofFloat x).truncated

def toWord (q : Quantity) : Nat :=
  let n := q.toInt
  if mostWhole < n then mostWhole.toNat
  else if n < leastWhole then 9223372036854775808
  else (n % 18446744073709551616).toNat

def isZero : Quantity → Bool
  | whole n => n == 0
  | real x => x == 0

def toScalar : Quantity → Scalar
  | whole n => .whole n
  | real x => .real x

def add (a b : Quantity) : Quantity :=
  match a.settled, b.settled with
  | whole m, whole n => ofInt (m + n)
  | _, _ => real (a.toFloat + b.toFloat)

def subtract (a b : Quantity) : Quantity :=
  match a.settled, b.settled with
  | whole m, whole n => ofInt (m - n)
  | _, _ => real (a.toFloat - b.toFloat)

def multiply (a b : Quantity) : Quantity :=
  match a.settled, b.settled with
  | whole m, whole n => ofInt (m * n)
  | _, _ => real (a.toFloat * b.toFloat)

def divide (a b : Quantity) : Quantity :=
  match a.settled, b.settled with
  | whole m, whole n =>
    if n != 0 && m % n == 0 then whole (m / n) else real (a.toFloat / b.toFloat)
  | _, _ => real (a.toFloat / b.toFloat)

def remainder (a b : Quantity) : Quantity := ofInt (Int.fmod a.toInt b.toInt)

def bitLength (n : Nat) : Nat := if n = 0 then 0 else n.log2 + 1

def power (a b : Quantity) : Quantity :=
  let inexact : Quantity := real (a.toFloat.pow b.toFloat)
  match a.settled, b.settled with
  | whole m, whole n =>
    let isPowerOfTwo := 0 < m.natAbs && Nat.pow 2 m.natAbs.log2 = m.natAbs
    if n < 0 then inexact
    else if bitLength m.natAbs * n.toNat ≤ 64 && !isPowerOfTwo then ofInt (Int.pow m n.toNat)
    else inexact
  | _, _ => inexact

def negate : Quantity → Quantity
  | whole n => ofInt (-n)
  | real x => real (-x)

def compare? : Quantity → Quantity → Option Ordering
  | whole m, whole n => some (compare m n)
  | a, b =>
    let x := a.toFloat
    let y := b.toFloat
    if x < y then some .lt else if y < x then some .gt else if x == y then some .eq else none

end Quantity

/-! ## Texts and numbers -/

def realText (x : Float) : Octets :=
  if x.isNaN then "NaN".toList
  else if x == 0 then ['0']
  else
    let d : Directive := { precision := some 15, conversion := 'g' }
    match Binary64.ofFloat x with
    | .infinity negative => if negative then "-Inf".toList else "Inf".toList
    | exact => d.float exact

/-- The number at the head of a text, and what follows it. -/
def cutQuantity (text : Octets) : Quantity × Octets :=
  let (negative, digits) := cutSign (text.dropWhile Sum.isSpace)
  let lower := (digits.take 8).map Char.toLower
  let signed (x : Float) : Quantity := .real (if negative then -x else x)
  match cutDecimal digits with
  | some (n, power, rest) =>
    let isPlain := (digits.takeWhile Char.isDigit).length + rest.length == digits.length
    let m : Int := if negative then -(n : Int) else n
    if isPlain && fitsWhole m then (.whole m, rest)
    else (signed (Binary64.ofDecimal false n power).toFloat, rest)
  | none =>
    if "infinity".toList.isPrefixOf lower then
      (signed (Binary64.infinity false).toFloat, digits.drop 8)
    else if "inf".toList.isPrefixOf lower then
      (signed (Binary64.infinity false).toFloat, digits.drop 3)
    else if "nan".toList.isPrefixOf lower then (.real Binary64.nan.toFloat, digits.drop 3)
    else (.whole 0, text)

/-- What is said of an error of the system. -/
def faultMessage : Nat → String
  | 0 => ""
  | 1 => "Operation not permitted"
  | 2 => "No such file or directory"
  | 9 => "Bad file descriptor"
  | 10 => "No child processes"
  | 13 => "Permission denied"
  | 17 => "File exists"
  | 20 => "Not a directory"
  | 21 => "Is a directory"
  | 22 => "Invalid argument"
  | 25 => "Inappropriate ioctl for device"
  | 36 => "File name too long"
  | 39 => "Directory not empty"
  | 40 => "Too many levels of symbolic links"
  | n => "Unknown error " ++ toString n

def addressOf (kind id : Nat) : Nat := 94558000000000 + 24 * (4 * id + kind)

def referenceText (name : String) (kind id : Nat) : Octets :=
  name.toList ++ "(0x".toList ++ Nat.toDigits 16 (addressOf kind id) ++ [')']

namespace Scalar

def target? : Scalar → Option (Nat × Nat)
  | cellRef id => some (0, id)
  | listRef id => some (1, id)
  | tableRef id => some (2, id)
  | codeRef id => some (3, id)
  | _ => none

def toText : Scalar → Octets
  | undefined => []
  | whole n => intText n
  | real x => realText x
  | text s => s
  | fault code => (faultMessage code).toList
  | cellRef id => referenceText "SCALAR" 0 id
  | listRef id => referenceText "ARRAY" 1 id
  | tableRef id => referenceText "HASH" 2 id
  | codeRef id => referenceText "CODE" 3 id
  | handle name => "*main::".toList ++ name
  | truth b => if b then ['1'] else ['0']

def toQuantity : Scalar → Quantity
  | undefined | handle _ => .whole 0
  | truth b => .whole (if b then 1 else 0)
  | whole n => .whole n
  | real x => .real x
  | text s => (cutQuantity s).1
  | fault code => .whole code
  | cellRef id => .whole (addressOf 0 id)
  | listRef id => .whole (addressOf 1 id)
  | tableRef id => .whole (addressOf 2 id)
  | codeRef id => .whole (addressOf 3 id)

def toInt (v : Scalar) : Int := v.toQuantity.toInt

def isTrue : Scalar → Bool
  | undefined => false
  | whole n => n != 0
  | real x => x != 0
  | text s => !(s.isEmpty || s == ['0'])
  | fault code => code != 0
  | truth b => b
  | _ => true

def isDefined : Scalar → Bool
  | undefined => false
  | _ => true

def ofBool (b : Bool) : Scalar := if b then whole 1 else text []

def ofNat (n : Nat) : Scalar := whole n

end Scalar

def compareTexts : Octets → Octets → Ordering
  | [], [] => .eq
  | [], _ :: _ => .lt
  | _ :: _, [] => .gt
  | a :: as, b :: bs => if a < b then .lt else if b < a then .gt else compareTexts as bs

def orderScalar : Ordering → Scalar
  | .lt => .whole (-1)
  | .eq => .whole 0
  | .gt => .whole 1

/-! ## Counting up -/

def isCounted (text : Octets) : Bool :=
  !text.isEmpty && (text.dropWhile Char.isAlpha).all Char.isDigit

/-- Counts up the letters of a text from its last one on; they come in reverse order. -/
def countLetters : Octets → Octets
  | [] => []
  | [c] =>
    if c = 'z' then ['a', 'a']
    else if c = 'Z' then ['A', 'A']
    else if c = '9' then ['0', '1']
    else [Char.ofNat (c.toNat + 1)]
  | c :: cs =>
    if c = 'z' then 'a' :: countLetters cs
    else if c = 'Z' then 'A' :: countLetters cs
    else if c = '9' then '0' :: countLetters cs
    else Char.ofNat (c.toNat + 1) :: cs

def successor : Scalar → Scalar
  | .text s =>
    if isCounted s && !s.all Char.isDigit then .text (countLetters s.reverse).reverse
    else ((cutQuantity s).1.add (.whole 1)).toScalar
  | v => (v.toQuantity.add (.whole 1)).toScalar

def textRange (last : Octets) : (fuel : Nat) → Octets → List Octets
  | 0, _ => []
  | fuel + 1, text =>
    if last.length < text.length then []
    else if text = last then [text]
    else text :: textRange last fuel (countLetters text.reverse).reverse

def isRangeNumber (text : Octets) : Bool :=
  let (_, digits) := cutSign text
  let (_, rest) := cutQuantity text
  rest.isEmpty && !text.isEmpty && (digits.head? != some '0' || digits.length = 1)

def rangeOf (first last : Scalar) : List Scalar :=
  let isText := match first with
    | .text s => !s.isEmpty && !isRangeNumber s
    | _ => false
  if isText then
    let last := last.toText
    if last.isEmpty then [first]
    else (textRange last 1000000 first.toText).map .text
  else
    let low := first.toInt
    let count := (last.toInt - low + 1).toNat
    (List.range count).map fun (i : Nat) => .whole (low + (i : Int))

end NextRelease.Shell.Perl
