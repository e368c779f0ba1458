import NextRelease.Number.Binary64
import NextRelease.Shell.Sum

/-!
Formatted output. A format is used again until its arguments are used up; escapes stand for single
octets. Arguments that are no numbers where a number is wanted are complained of, and count as what
can be read of them.
-/

namespace NextRelease.Shell

def octalValue? (c : Char) : Option Nat :=
  if 48 ≤ c.toNat ∧ c.toNat ≤ 55 then some (c.toNat - 48) else none

def takeOctal : (count value : Nat) → Octets → Nat × Octets
  | 0, value, cs => (value, cs)
  | _, value, [] => (value, [])
  | count + 1, value, c :: cs =>
    match octalValue? c with
    | some d => takeOctal count (value * 8 + d) cs
    | none => (value, c :: cs)

/-- The octet for the text behind a backslash, and what follows; `none` where the backslash stands
for itself. -/
def takeEscape? : Octets → Option (Char × Octets)
  | [] => none
  | c :: cs =>
    match octalValue? c with
    | some _ =>
      let (value, rest) := takeOctal 3 0 (c :: cs)
      some (Char.ofNat (value % 256), rest)
    | none =>
      match c with
      | 'a' => some (Char.ofNat 7, cs)
      | 'b' => some (Char.ofNat 8, cs)
      | 'e' => some (Char.ofNat 27, cs)
      | 'f' => some (Char.ofNat 12, cs)
      | 'n' => some ('\n', cs)
      | 'r' => some ('\r', cs)
      | 't' => some ('\t', cs)
      | 'v' => some (Char.ofNat 11, cs)
      | '\\' => some ('\\', cs)
      | _ => none

/-- Replaces the escapes of a text; the answer also says whether `\c` cut it short. -/
def unescape : (fuel : Nat) → Octets → Octets × Bool
  | 0, cs => (cs, false)
  | _, [] => ([], false)
  | fuel + 1, '\\' :: cs =>
    match cs with
    | 'c' :: _ => ([], true)
    | '0' :: digits =>
      let (value, rest) := takeOctal 3 0 digits
      let (more, cut) := unescape fuel rest
      (Char.ofNat (value % 256) :: more, cut)
    | _ =>
      let (c, rest) := (takeEscape? cs).getD ('\\', cs)
      let (more, cut) := unescape fuel rest
      (c :: more, cut)
  | fuel + 1, c :: cs =>
    let (more, cut) := unescape fuel cs
    (c :: more, cut)

structure Directive where
  flags : Octets := []
  width : Nat := 0
  precision : Option Nat := none
  conversion : Char

namespace Directive

def toLeft (d : Directive) : Bool := d.flags.contains '-'

def pad (d : Directive) (text : Octets) : Octets :=
  let blanks := List.replicate (d.width - text.length) ' '
  if d.toLeft then text ++ blanks else blanks ++ text

def padNumber (d : Directive) (front digits : Octets) (withZeros : Bool) : Octets :=
  let zeros := if withZeros && d.flags.contains '0' && !d.toLeft then
    d.width - front.length - digits.length else 0
  d.pad (front ++ List.replicate zeros '0' ++ digits)

def sign (d : Directive) (negative : Bool) : Octets :=
  if negative then ['-']
  else if d.flags.contains '+' then ['+']
  else if d.flags.contains ' ' then [' ']
  else []

def wholeDigits (d : Directive) (base n : Nat) : Octets :=
  let digits := if n = 0 ∧ d.precision = some 0 then [] else Nat.toDigits base n
  List.replicate (d.precision.getD 1 - digits.length) '0' ++ digits

def whole (d : Directive) (n : Int) : Octets :=
  d.padNumber (d.sign (n < 0)) (d.wholeDigits 10 n.natAbs) d.precision.isNone

def unsigned (d : Directive) (n : Nat) : Octets :=
  let alternate := d.flags.contains '#'
  match d.conversion with
  | 'o' =>
    let digits := d.wholeDigits 8 n
    let digits := if alternate && digits.head? != some '0' then '0' :: digits else digits
    d.padNumber [] digits d.precision.isNone
  | 'x' =>
    d.padNumber (if alternate && n != 0 then "0x".toList else []) (d.wholeDigits 16 n)
      d.precision.isNone
  | 'X' =>
    d.padNumber (if alternate && n != 0 then "0X".toList else [])
      ((d.wholeDigits 16 n).map Char.toUpper) d.precision.isNone
  | _ => d.padNumber [] (d.wholeDigits 10 n) d.precision.isNone

def fixedDigits (places : Nat) (alternate : Bool) (num den : Nat) : Octets :=
  let scaled := Binary64.roundQuotient (num * Nat.pow 10 places) den
  let digits := Binary64.padLeft (places + 1) (Nat.toDigits 10 scaled)
  let front := digits.take (digits.length - places)
  let back := digits.drop (digits.length - places)
  if places = 0 ∧ alternate = false then front else front ++ '.' :: back

def decimalExponent (num den : Nat) : Int :=
  if den ≤ num then (Binary64.decimalLength (num / den) : Int) - 1
  else
    let guess : Int := -(Binary64.decimalLength (den / num) : Int)
    let (n, d) := Binary64.scaleDown 10 guess num den
    if 10 * d ≤ n then guess + 1 else if d ≤ n then guess else guess - 1

def significant (places num den : Nat) : Nat × Int :=
  if num = 0 then (0, 0)
  else
    let e := decimalExponent num den
    let (n, d) := Binary64.scaleDown 10 (e - places) num den
    let digits := Binary64.roundQuotient n d
    if Nat.pow 10 (places + 1) ≤ digits then (digits / 10, e + 1) else (digits, e)

def exponentText (e : Int) : Octets :=
  'e' :: (if e < 0 then '-' else '+') :: Binary64.padLeft 2 (Nat.toDigits 10 e.natAbs)

def scientific (places : Nat) (alternate : Bool) (num den : Nat) : Octets :=
  let (digits, e) := significant places num den
  let digits := Binary64.padLeft (places + 1) (Nat.toDigits 10 digits)
  let point := if places = 0 ∧ alternate = false then [] else ['.']
  digits.take 1 ++ point ++ digits.drop 1 ++ exponentText e

def dropZeros (digits : Octets) : Octets :=
  if digits.contains '.' then
    let kept := (digits.reverse.dropWhile (· == '0')).reverse
    if kept.getLast? = some '.' then kept.dropLast else kept
  else digits

def general (precision : Nat) (alternate : Bool) (num den : Nat) : Octets :=
  let places := max precision 1 - 1
  let (_, e) := significant places num den
  let tidy (digits : Octets) : Octets := if alternate then digits else dropZeros digits
  if e < -4 ∨ (places : Int) < e then
    let text := scientific places alternate num den
    tidy (text.takeWhile (· != 'e')) ++ text.dropWhile (· != 'e')
  else tidy (fixedDigits ((places : Int) - e).toNat alternate num den)

def hexadecimal (places : Option Nat) (alternate : Bool) (mantissa : Nat) (exponent : Int) :
    Octets :=
  let power := if mantissa = 0 then 0 else max (exponent + mantissa.log2) (-1022)
  let (num, den) := Binary64.scaleDown 2 (power - 52 - exponent) mantissa 1
  let digits := Binary64.roundQuotient num (den * Nat.pow 16 (13 - places.getD 13))
  let kept := min 13 (places.getD 13)
  let back := Binary64.padLeft kept (Nat.toDigits 16 (digits % Nat.pow 16 kept))
  let back := match places with
    | none => (back.reverse.dropWhile (· == '0')).reverse
    | some places => back.drop (back.length - kept) ++ List.replicate (places - 13) '0'
  let point := if back.isEmpty && !alternate then [] else ['.']
  Nat.toDigits 16 (digits / Nat.pow 16 kept) ++ point ++ back ++
    'p' :: (if power < 0 then '-' else '+') :: Nat.toDigits 10 power.natAbs

def float (d : Directive) (number : Binary64) : Octets :=
  let places := d.precision.getD 6
  let upper := d.conversion.isUpper
  let case (text : Octets) : Octets := if upper then text.map Char.toUpper else text
  match number with
  | .nan => d.padNumber [] (case "nan".toList) false
  | .infinity negative => d.padNumber (d.sign negative) (case "inf".toList) false
  | .finite negative mantissa exponent =>
    let (num, den) := Binary64.scaleDown 2 (-exponent) mantissa 1
    let alternate := d.flags.contains '#'
    let (mark, digits) := match d.conversion.toLower with
      | 'a' => ("0x", hexadecimal d.precision alternate mantissa exponent)
      | 'e' => ("", scientific places alternate num den)
      | 'g' => ("", general places alternate num den)
      | _ => ("", fixedDigits places alternate num den)
    d.padNumber (d.sign negative ++ case mark.toList) (case digits) true

end Directive

/-! ## Arguments as numbers -/

structure NumberArgument (α : Type) where
  value : α
  complaint : Option Octets := none

def leftover (argument rest : Octets) : Option Octets :=
  if rest.isEmpty then none
  else if rest.length = argument.length then
    some (argument ++ ": expected numeric value".toList)
  else some (argument ++ ": not completely converted".toList)

def outOfRange (argument : Octets) : Option Octets :=
  some (argument ++ ": Numerical result out of range".toList)

def cutSign (cs : Octets) : Bool × Octets :=
  match cs with
  | '-' :: cs => (true, cs)
  | '+' :: cs => (false, cs)
  | cs => (false, cs)

def quotedChar? : Octets → Option Nat
  | '\x22' :: cs | '\x27' :: cs => some ((cs.head?.map Char.toNat).getD 0)
  | _ => none

def wholeArgument (signed : Bool) (argument : Octets) : NumberArgument Int :=
  match quotedChar? argument with
  | some n => ⟨n, none⟩
  | none =>
    let (negative, digits) := cutSign (argument.dropWhile Sum.isSpace)
    if (digits.head?.map Char.isDigit).getD false then
      let (n, rest) := Sum.cutNumber digits
      let n : Int := if negative then -n else n
      let least : Int := if signed then -9223372036854775808 else -18446744073709551615
      let most : Int := if signed then Sum.largest else 18446744073709551615
      if n < least ∨ most < n then ⟨if signed ∧ n < 0 then least else most, outOfRange argument⟩
      else ⟨if signed then n else n % 18446744073709551616, leftover argument rest⟩
    else ⟨0, leftover argument argument⟩

/-- Splits a decimal number off; `none` if there is no digit. -/
def cutDecimal (cs : Octets) : Option (Nat × Int × Octets) :=
  let front := cs.takeWhile Char.isDigit
  let rest := cs.drop front.length
  let (back, rest) := match rest with
    | '.' :: more => (more.takeWhile Char.isDigit, more.dropWhile Char.isDigit)
    | _ => ([], rest)
  if front.isEmpty && back.isEmpty then none
  else
    let digits := readNat (front ++ back)
    let point : Int := -back.length
    match rest with
    | e :: more =>
      let (negative, power) := cutSign more
      if (e = 'e' ∨ e = 'E') ∧ (power.head?.map Char.isDigit).getD false then
        let n : Int := readNat power
        some (digits, point + (if negative then -n else n), power.dropWhile Char.isDigit)
      else some (digits, point, rest)
    | [] => some (digits, point, [])

def floatArgument (argument : Octets) : NumberArgument Binary64 :=
  match quotedChar? argument with
  | some n => ⟨.ofDecimal false n 0, none⟩
  | none =>
    let (negative, digits) := cutSign (argument.dropWhile Sum.isSpace)
    match cutDecimal digits with
    | some (n, power, rest) => ⟨.ofDecimal negative n power, leftover argument rest⟩
    | none =>
      match (digits.take 3).map Char.toLower with
      | ['i', 'n', 'f'] => ⟨.infinity negative, leftover argument (digits.drop 3)⟩
      | ['n', 'a', 'n'] => ⟨.nan, leftover argument (digits.drop 3)⟩
      | _ => ⟨.ofDecimal false 0 0, leftover argument argument⟩

/-! ## Formats -/

inductive FormatEnd where
  | cut
  | failed (reason : Octets)

structure Formatted where
  out : Octets := []
  complaints : List Octets := []
  arguments : List Octets
  ended : Option FormatEnd := none

def Formatted.prepend (out : Octets) (complaint : Option Octets) (f : Formatted) : Formatted :=
  { f with out := out ++ f.out, complaints := complaint.toList ++ f.complaints }

def takeCount (cs : Octets) (arguments : List Octets) : Option Int × Octets × List Octets :=
  match cs with
  | '*' :: cs => (some (wholeArgument true (arguments.head?.getD [])).value, cs, arguments.drop 1)
  | cs =>
    let digits := cs.takeWhile Char.isDigit
    (if digits.isEmpty then none else some (readNat digits : Int), cs.drop digits.length, arguments)

def readDirective (cs : Octets) (arguments : List Octets) : Directive × Octets × List Octets :=
  let isFlag (c : Char) : Bool := "#-+ 0".toList.contains c
  let flags := cs.takeWhile isFlag
  let (width, cs, arguments) := takeCount (cs.drop flags.length) arguments
  let flags := if width.any (· < 0) then '-' :: flags else flags
  let (precision, cs, arguments) := match cs with
    | '.' :: cs =>
      let (precision, cs, arguments) := takeCount cs arguments
      ((some (precision.getD 0)).filter (0 ≤ ·), cs, arguments)
    | cs => (none, cs, arguments)
  let directive : Directive :=
    { flags, width := (width.getD 0).natAbs, precision := precision.map Int.toNat,
      conversion := ' ' }
  (directive, cs, arguments)

structure FormatManner where
  passesSizes : Bool := false
  isCut : Bool := false
  quote? : Option (Octets → Octets) := none

def FormatManner.passSizes (manner : FormatManner) (cs : Octets) : Octets :=
  if manner.passesSizes then cs.dropWhile ("hjLltz".toList.contains ·) else cs

def Directive.written? (manner : FormatManner) (d : Directive) (argument : Option Octets) :
    Option (Octets × Option Octets × Bool) :=
  let text := argument.getD []
  let shortened (text : Octets) : Octets := match d.precision with
    | some p => text.take p
    | none => text
  match d.conversion with
  | 's' => some (d.pad (shortened text), none, false)
  | 'b' =>
    let (plain, cut) := unescape (text.length + 1) text
    some (d.pad (shortened plain), none, cut)
  | 'c' => some (d.pad [text.head?.getD (Char.ofNat 0)], none, false)
  | 'd' | 'i' =>
    let n := wholeArgument true text
    some (d.whole n.value, n.complaint, false)
  | 'o' | 'u' | 'x' | 'X' =>
    let n := wholeArgument false text
    some (d.unsigned n.value.toNat, n.complaint, false)
  | 'a' | 'A' | 'e' | 'E' | 'f' | 'F' | 'g' | 'G' =>
    let n := floatArgument text
    some (d.float n.value, n.complaint, false)
  | 'q' => manner.quote?.map fun quote => (quote text, none, false)
  | _ => none

def formatOnce (manner : FormatManner) : (fuel : Nat) → Octets → List Octets → Formatted
  | 0, _, arguments => { arguments }
  | _, [], arguments => { arguments }
  | fuel + 1, '\\' :: cs, arguments =>
    if manner.isCut && cs.head? == some 'c' then { arguments := [], ended := some .cut }
    else
      let (c, rest) := (takeEscape? cs).getD ('\\', cs)
      (formatOnce manner fuel rest arguments).prepend [c] none
  | fuel + 1, '%' :: '%' :: cs, arguments => (formatOnce manner fuel cs arguments).prepend ['%'] none
  | fuel + 1, '%' :: cs, arguments =>
    let (d, rest, arguments) := readDirective cs arguments
    match manner.passSizes rest with
    | [] => { arguments, ended := some (.failed "missing format character".toList) }
    | c :: rest =>
      match { d with conversion := c }.written? manner arguments.head? with
      | none =>
        let written := '%' :: cs.take (cs.length - rest.length)
        { arguments, ended := some (.failed (written ++ ": invalid directive".toList)) }
      | some (text, complaint, true) =>
        { out := text, complaints := complaint.toList, arguments := [], ended := some .cut }
      | some (text, complaint, false) =>
        (formatOnce manner fuel rest (arguments.drop 1)).prepend text complaint
  | fuel + 1, c :: cs, arguments => (formatOnce manner fuel cs arguments).prepend [c] none

def format (manner : FormatManner) (text : Octets) : (rounds : Nat) → List Octets → Formatted
  | 0, arguments => { arguments }
  | rounds + 1, arguments =>
    let f := formatOnce manner (text.length + 1) text arguments
    if f.ended.isSome || f.arguments.isEmpty || f.arguments.length == arguments.length then f
    else
      let more := format manner text rounds f.arguments
      { more with out := f.out ++ more.out, complaints := f.complaints ++ more.complaints }

end NextRelease.Shell
