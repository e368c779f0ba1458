/-!
Binary floating-point numbers with 53 significant bits: rounding a decimal to the nearest of them,
and the shortest decimal that reads back as a given one. Both work on whole numbers only.
-/

namespace NextRelease

inductive Binary64 where
  | nan
  | infinity (negative : Bool)
  | finite (negative : Bool) (mantissa : Nat) (exponent : Int)
  deriving DecidableEq

namespace Binary64

def bitLength (n : Nat) : Nat := if n = 0 then 0 else n.log2 + 1

def decimalLength (n : Nat) : Nat := (Nat.toDigits 10 n).length

def fullMantissa : Nat := Nat.pow 2 52

def roundQuotient (num den : Nat) : Nat :=
  let q := num / den
  let r := num % den
  if 2 * r < den then q
  else if den < 2 * r then q + 1
  else if q % 2 = 0 then q else q + 1

def scaleDown (base : Nat) (k : Int) (num den : Nat) : Nat × Nat :=
  if 0 ≤ k then (num, den * Nat.pow base k.toNat) else (num * Nat.pow base (-k).toNat, den)

def ofQuotient (negative : Bool) (num den : Nat) : Binary64 :=
  let least := max ((bitLength num : Int) - bitLength den - 53) (-1074)
  let (n, d) := scaleDown 2 least num den
  let q := if 2 * fullMantissa ≤ n / d then least + 1 else least
  let (n, d) := scaleDown 2 q num den
  let m := roundQuotient n d
  let (m, q) := if m = 2 * fullMantissa then (fullMantissa, q + 1) else (m, q)
  if m = 0 then finite negative 0 0
  else if 971 < q then infinity negative
  else finite negative m q

def ofDecimal (negative : Bool) (significand : Nat) (exponent : Int) : Binary64 :=
  let magnitude := (decimalLength significand : Int) + exponent
  if significand = 0 ∨ magnitude < -330 then finite negative 0 0
  else if 320 < magnitude then infinity negative
  else
    let (num, den) := scaleDown 10 (-exponent) significand 1
    ofQuotient negative num den

def nearestOnGrid (k : Int) (low num high den : Nat) (closed : Bool) : Option Nat :=
  let (n, d) := scaleDown 10 k num den
  let (l, _) := scaleDown 10 k low den
  let (h, _) := scaleDown 10 k high den
  let below := n / d
  let above := below + 1
  let fits (c : Nat) : Bool :=
    if closed then l ≤ c * d && c * d ≤ h else l < c * d && c * d < h
  match fits below, fits above with
  | false, false => none
  | true, false => some below
  | false, true => some above
  | true, true =>
    let r := n % d
    if 2 * r < d then some below
    else if d < 2 * r then some above
    else if below % 2 = 0 then some below else some above

def searchGrids (low num high den : Nat) (closed : Bool) : Nat → Int → Nat × Int
  | 0, k => (0, k)
  | fuel + 1, k =>
    match nearestOnGrid k low num high den closed with
    | some c => (c, k)
    | none => searchGrids low num high den closed fuel (k - 1)

def dropTrailingZeros : Nat → Nat → Int → Nat × Int
  | 0, c, k => (c, k)
  | fuel + 1, c, k => if c % 10 = 0 then dropTrailingZeros fuel (c / 10) (k + 1) else (c, k)

def shortest (mantissa : Nat) (exponent : Int) : Nat × Int :=
  let lowGap := if mantissa = fullMantissa ∧ -1074 < exponent then 1 else 2
  let (num, den) := scaleDown 2 (2 - exponent) (4 * mantissa) 1
  let (low, _) := scaleDown 2 (2 - exponent) (4 * mantissa - lowGap) 1
  let (high, _) := scaleDown 2 (2 - exponent) (4 * mantissa + 2) 1
  let top : Int := if den ≤ num then decimalLength (num / den) else 2 - decimalLength (den / num)
  let (c, k) := searchGrids low num high den (mantissa % 2 == 0) 20 top
  dropTrailingZeros 20 c k

structure Layout where
  leastPlain : Int
  greatestPlain : Int
  exponentWidth : Nat
  nan : String
  infinity : String

def padLeft (width : Nat) (digits : List Char) : List Char :=
  List.replicate (width - digits.length) '0' ++ digits

def layOut (layout : Layout) (significand : Nat) (power : Int) : List Char :=
  let digits := Nat.toDigits 10 significand
  let count := digits.length
  let point := power + count
  if layout.leastPlain < point ∧ point ≤ layout.greatestPlain + 1 then
    if point ≤ 0 then '0' :: '.' :: (List.replicate (-point).toNat '0' ++ digits)
    else if (count : Int) ≤ point then
      digits ++ List.replicate (point.toNat - count) '0' ++ ['.', '0']
    else digits.take point.toNat ++ '.' :: digits.drop point.toNat
  else
    let e := point - 1
    let fraction := if count = 1 then [] else '.' :: digits.drop 1
    digits.take 1 ++ fraction ++ 'e' :: (if e < 0 then '-' else '+') ::
      padLeft layout.exponentWidth (Nat.toDigits 10 e.natAbs)

def write (layout : Layout) : Binary64 → List Char
  | nan => layout.nan.toList
  | infinity negative => (if negative then ['-'] else []) ++ layout.infinity.toList
  | finite negative m q =>
    let body :=
      if m = 0 then ['0', '.', '0']
      else
        let (c, k) := shortest m q
        layOut layout c k
    (if negative then ['-'] else []) ++ body

def isZero : Binary64 → Bool
  | finite _ m _ => m == 0
  | _ => false

end Binary64

end NextRelease

/-! ## The machine's numbers

The floating-point numbers of the machine as exact values, and back. What the machine's own
arithmetic does not offer is done on the exact values.
-/

namespace NextRelease.Binary64

def ofFloat (x : Float) : Binary64 :=
  let bits := x.toBits.toNat
  let negative := decide (9223372036854775808 ≤ bits)
  let exponent := bits / fullMantissa % 2048
  let fraction := bits % fullMantissa
  if exponent = 2047 then if fraction = 0 then infinity negative else nan
  else if exponent = 0 then finite negative fraction (-1074)
  else finite negative (fraction + fullMantissa) ((exponent : Int) - 1075)

def toFloat (x : Binary64) : Float :=
  let signBit (negative : Bool) : Nat := if negative then 9223372036854775808 else 0
  let bits : Nat := match x with
    | nan => 9221120237041090560
    | infinity negative => signBit negative + 2047 * fullMantissa
    | finite negative mantissa exponent =>
      if mantissa < fullMantissa then signBit negative + mantissa
      else signBit negative + (exponent + 1075).toNat * fullMantissa + (mantissa - fullMantissa)
  Float.ofBits (UInt64.ofNat bits)

def remainder : Binary64 → Binary64 → Binary64
  | finite negative m q, finite _ n r =>
    if n = 0 then nan
    else
      let least := min q r
      let left := (m * Nat.pow 2 (q - least).toNat) % (n * Nat.pow 2 (r - least).toNat)
      let (num, den) := scaleDown 2 (-least) left 1
      if left = 0 then finite negative 0 0 else ofQuotient negative num den
  | finite negative m q, infinity _ => finite negative m q
  | _, _ => nan

def truncated : Binary64 → Int
  | finite negative m q =>
    let size := if 0 ≤ q then m * Nat.pow 2 q.toNat else m / Nat.pow 2 (-q).toNat
    if negative then -size else size
  | _ => 0

end NextRelease.Binary64
