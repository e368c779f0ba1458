import NextRelease.Shell.Tool.Values

/-!
Sequences of numbers in equal steps, and the prime factors of numbers. Decimal numbers are kept
exact, and are written with as many places as the first one or the step has. Small factors are
divided out, and what is left is parted by walks that run into themselves.
-/

namespace NextRelease.Shell.Tool

namespace Sequence

structure Decimal where
  units : Int
  places : Nat
  width : Nat := 1
  deriving DecidableEq

inductive Bound where
  | finite (number : Decimal)
  | infinite (negative : Bool)

/-- Reads what stands behind a sign, where `size` is the length of the whole text. -/
def unsigned? (size : Nat) (text : Octets) : Option (Nat × Nat × Nat) :=
  let hexadecimal := match text with
    | '0' :: 'x' :: digits | '0' :: 'X' :: digits => some digits
    | _ => none
  match hexadecimal with
  | some digits =>
    if !digits.isEmpty && digits.all fun c => (Sum.digitOf? 16 c).isSome then
      some (Sum.valueOf 16 digits, 0, size)
    else none
  | none =>
    let whole := text.takeWhile Char.isDigit
    let rest := text.drop whole.length
    let hasPoint := rest.head? == some '.'
    let fraction := if hasPoint then (rest.drop 1).takeWhile Char.isDigit else []
    let rest := if hasPoint then rest.drop (fraction.length + 1) else rest
    let width := if !hasPoint then size
      else if fraction.isEmpty then size - 1
      else if whole.isEmpty then size + 1 else size
    let digits := readNat (whole ++ fraction)
    if whole.isEmpty && fraction.isEmpty then none
    else
      match rest with
      | [] => some (digits, fraction.length, width)
      | e :: power =>
        let (negative, power) := cutSign power
        if (e == 'e' || e == 'E') && isNumber power then
          let n := readNat power
          let width := width - rest.length
          if negative then
            let width := if !hasPoint || fraction.isEmpty then width + 1 else width
            some (digits, fraction.length + n, width + n)
          else
            let left := fraction.length - n
            let width := if hasPoint && left = 0 && !fraction.isEmpty then width - 1 else width
            some (digits * Nat.pow 10 (n - fraction.length), left,
              width + (n - fraction.length))
        else none

def bound? (text : Octets) : Option Bound :=
  let text := text.dropWhile Sum.isSpace
  let text := if text.head? == some '+' then text.drop 1 else text
  let (negative, rest) := match text with
    | '-' :: rest => (true, rest)
    | rest => (false, rest)
  if ["inf", "infinity"].contains (String.ofList (rest.map Char.toLower)) then
    some (.infinite negative)
  else
    (unsigned? text.length rest).map fun (n, places, width) =>
      .finite ⟨if negative then -(n : Int) else n, places, width⟩

def Decimal.atPlaces (d : Decimal) (places : Nat) : Int :=
  d.units * Nat.pow 10 (places - d.places)

def unitsText (places width : Nat) (units : Int) : Octets :=
  let digits := natText units.natAbs
  let digits := List.replicate (places + 1 - digits.length) '0' ++ digits
  let point := if places = 0 then [] else '.' :: digits.drop (digits.length - places)
  let text := digits.take (digits.length - places) ++ point
  let sign := if units < 0 then ['-'] else []
  sign ++ List.replicate (width - sign.length - text.length) '0' ++ text

def commonWidth (first last : Decimal) (places : Nat) : Nat :=
  let widthOf (d : Decimal) : Nat :=
    let width := d.width + places - d.places
    if d.places != 0 && places = 0 then width - 1
    else if d.places = 0 && places != 0 then width + 1
    else width
  max (widthOf first) (widthOf last)

/-! ## Formats -/

structure Layout where
  front : Octets
  directive : Directive
  back : Octets

def cutPercents : Octets → Octets × Octets
  | '%' :: '%' :: cs => let (front, rest) := cutPercents cs; ('%' :: front, rest)
  | '%' :: cs => ([], '%' :: cs)
  | c :: cs => let (front, rest) := cutPercents cs; (c :: front, rest)
  | [] => ([], [])

/-- Reads a format, or tells what is wrong with it. -/
def layout? (text : Octets) : Except Octets Layout :=
  let wrong (more : String) : Except Octets Layout :=
    .error ("format ".toList ++ inQuotes text ++ ' ' :: more.toList)
  match cutPercents text with
  | (_, []) => wrong "has no % directive"
  | (front, _ :: rest) =>
    let flags := rest.takeWhile ("-+#0 '".toList.contains ·)
    let rest := rest.drop flags.length
    let width := rest.takeWhile Char.isDigit
    let rest := rest.drop width.length
    let (precision, rest) := match rest with
      | '.' :: more =>
        (some (readNat (more.takeWhile Char.isDigit)), more.dropWhile Char.isDigit)
      | rest => (none, rest)
    let rest := if rest.head? == some 'L' then rest.drop 1 else rest
    match rest with
    | [] => wrong "ends in %"
    | c :: rest =>
      if !"efgaEFGA".toList.contains c then
        wrong ("has unknown %" ++ String.singleton c ++ " directive")
      else
        match cutPercents rest with
        | (back, []) =>
          .ok ⟨front, { flags, width := readNat width, precision, conversion := c }, back⟩
        | _ => wrong "has too many % directives"

def Layout.text (layout : Layout) (places : Nat) (units : Int) : Octets :=
  layout.front ++ layout.directive.float (.ofDecimal (units < 0) units.natAbs (-places)) ++
    layout.back

/-! ## Calls -/

def options : (fuel : Nat) → List Octets → Except Octets (Options × List Octets)
  | 0, words => .ok ([], words)
  | fuel + 1, words =>
    match words with
    | ('-' :: c :: cs) :: rest =>
      if c.isDigit || c = '.' then .ok ([], words)
      else do
        let flags : List Flag :=
          [⟨'s', "separator", true⟩, ⟨'w', "equal-width", false⟩, ⟨'f', "format", true⟩]
        if c = '-' && cs.isEmpty then return ([], rest)
        let (read, rest) ←
          if c = '-' then readName flags cs rest else readLetters flags rest (c :: cs)
        let (options, operands) ← options fuel rest
        return (read ++ options, operands)
    | _ => .ok ([], words)

structure Request where
  first : Decimal := ⟨1, 0, 1⟩
  step : Decimal := ⟨1, 0, 1⟩
  last : Bound := .infinite false

def readOperands (operands : List Octets) : Except Octets Request := do
  let read (text : Octets) : Except Octets Bound :=
    match bound? text with
    | some bound => .ok bound
    | none =>
      if ["nan", "-nan"].contains (String.ofList (text.map Char.toLower)) then
        .error ("invalid ".toList ++ inQuotes "not-a-number".toList ++ " argument: ".toList ++ inQuotes text)
      else .error ("invalid floating point argument: ".toList ++ inQuotes text)
  let finite (text : Octets) : Except Octets Decimal := do
    match ← read text with
    | .finite number => return number
    | .infinite _ => throw ("invalid floating point argument: ".toList ++ inQuotes text)
  match operands with
  | [last] => return { last := ← read last }
  | [first, last] => return { first := ← finite first, last := ← read last }
  | first :: step :: last :: _ => do
    let first ← finite first
    let number ← finite step
    if number.units = 0 then throw ("invalid Zero increment value: ".toList ++ inQuotes step)
    return { first, step := number, last := ← read last }
  | [] => return {}

def size? (first step : Int) (last? : Option Int) (isDownwards : Bool) : Option Nat :=
  match last? with
  | some last => some (Int.fdiv (last - first) step + 1).toNat
  | none => if (step < 0) == isDownwards then none else some 0

end Sequence

open Sequence in
def seq : Tool := fun name arguments => do
  finish 0
  match options (arguments.length + 1) arguments with
  | .error text => misuse 1 name text
  | .ok (options, operands) =>
    withOperands 1 1 (some 3) name operands do
      match (options.value? 'f').mapM layout?, readOperands operands with
      | .error text, _ => fail 1 name text
      | .ok layout, request =>
        if layout.isSome && options.has 'w' then
          misuse 1 name
            "format string may not be specified when printing equal width strings".toList
        else
          match request with
          | .error text => misuse 1 name text
          | .ok request => do
            let places := max request.first.places request.step.places
            let (last?, isDownwards, lastNumber) := match request.last with
              | .finite number => (some number, false, number)
              | .infinite negative => (none, negative, request.first)
            let finest := max places lastNumber.places
            let first := request.first.atPlaces finest
            let step := request.step.atPlaces finest
            let all := size? first step (last?.map fun d => d.atPlaces finest) isDownwards
            let m ← get
            let room := ((m.channel? 1).bind m.stream?).bind Stream.capacity
            let count := match all, room with
              | some count, some room => min count (room / 2 + 2)
              | some count, none => count
              | none, room => room.getD m.capacity / 2 + 2
            let width := if options.has 'w' then commonWidth request.first lastNumber places else 0
            let factor : Int := Nat.pow 10 (finest - places)
            let shown (units : Int) : Octets :=
              match layout with
              | some layout => layout.text finest units
              | none => unitsText places width (units / factor)
            let texts := (List.range count).map fun (n : Nat) => shown (first + n * step)
            let separator := (options.value? 's').getD ['\n']
            if !texts.isEmpty then
              print (List.intercalate separator texts ++ if all.isSome then ['\n'] else separator)
            if all.isNone then waitForEver

namespace Factor

def powerMod (modulus : Nat) (base : Nat) : (fuel : Nat) → (exponent : Nat) → Nat
  | 0, _ => 1 % modulus
  | fuel + 1, exponent =>
    if exponent = 0 then 1 % modulus
    else
      let half := powerMod modulus base fuel (exponent / 2)
      let square := half * half % modulus
      if exponent % 2 = 1 then square * base % modulus else square

def oddPart : (fuel : Nat) → Nat → Nat × Nat
  | 0, n => (n, 0)
  | fuel + 1, n =>
    if n % 2 = 0 && n != 0 then
      let (odd, twos) := oddPart fuel (n / 2)
      (odd, twos + 1)
    else (n, 0)

def isLikelyPrime (n base : Nat) : Bool :=
  let (odd, twos) := oddPart (n.log2 + 1) (n - 1)
  let start := powerMod n base (n.log2 + 2) odd
  let squares := (List.range (twos - 1)).foldl
    (fun (squares : List Nat) _ => (squares.head?.getD 0 * squares.head?.getD 0 % n) :: squares)
    [start]
  base % n == 0 || start == 1 || squares.contains (n - 1)

def isPrime (n : Nat) : Bool :=
  [2, 3, 5, 7, 11, 13, 17, 19, 23, 29, 31, 37].all (isLikelyPrime n)

def walk (n add : Nat) : (fuel : Nat) → (slow fast : Nat) → Option Nat
  | 0, _, _ => none
  | fuel + 1, slow, fast =>
    let step (x : Nat) : Nat := (x * x + add) % n
    let slow := step slow
    let fast := step (step fast)
    let common := Nat.gcd (if slow ≤ fast then fast - slow else slow - fast) n
    if common = n then none
    else if 1 < common then some common
    else walk n add fuel slow fast

def largeFactors : (fuel : Nat) → Nat → List Nat
  | 0, n => [n]
  | fuel + 1, n =>
    if n = 1 then []
    else if isPrime n then [n]
    else
      match (List.range 20).findSome? fun add => walk n (add + 1) 2000000 2 2 with
      | some factor => largeFactors fuel factor ++ largeFactors fuel (n / factor)
      | none => [n]

def divideOut (d : Nat) : (fuel : Nat) → Nat → List Nat × Nat
  | 0, n => ([], n)
  | fuel + 1, n =>
    if n % d = 0 && n != 0 then
      let (factors, rest) := divideOut d fuel (n / d)
      (d :: factors, rest)
    else ([], n)

def smallFactors : (fuel d n : Nat) → List Nat × Nat
  | 0, _, n => ([], n)
  | fuel + 1, d, n =>
    if n < d * d then (if n = 1 then [] else [n], 1)
    else
      let (found, rest) := divideOut d (n.log2 + 1) n
      let (more, rest) := smallFactors fuel (if d = 2 then 3 else d + 2) rest
      (found ++ more, rest)

def factors (n : Nat) : List Nat :=
  if n = 0 then []
  else
    let (small, rest) := smallFactors 2000 2 n
    small ++ (largeFactors (n.log2 + 1) rest).mergeSort

end Factor

def factorLine (n : Nat) : Octets :=
  natText n ++ [':'] ++ ((Factor.factors n).flatMap fun factor => ' ' :: natText factor) ++ ['\n']

def wordsOf (text : Octets) : List Octets :=
  let isSpace (c : Char) : Bool := c == ' ' || (9 ≤ c.toNat && c.toNat ≤ 13)
  (text.splitBy fun a b => isSpace a == isSpace b).filter fun run => !run.all isSpace

def factor : Tool :=
  withOptions false [] 1 fun name _ operands => do
    let words ← if operands.isEmpty then wordsOf <$> readAll 0 else pure operands
    words.forM fun word => do
      let text := word.dropWhile (· == ' ')
      let digits := if text.head? == some '+' then text.drop 1 else text
      if isNumber digits then print (factorLine (readNat digits))
      else fail 1 name (inQuotes word ++ " is not a valid positive integer".toList)

end NextRelease.Shell.Tool
