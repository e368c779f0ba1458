import NextRelease.Json.Basic
import NextRelease.Nesting
import NextRelease.Text.Basic

/-!
Reading JSON text. A reader takes the text that is left and answers with a value and what then
remains; a refusal carries the text from the place of the fault on, so that the place follows from
the lengths. The three special numbers are accepted, and of a repeated key the last value counts.
-/

namespace NextRelease.Json

inductive Fault where
  | byteOrderMark
  | expectingValue
  | expectingKey
  | expectingColon
  | expectingComma
  | extraData
  | unterminatedString
  | controlCharacter
  | badEscape
  | badUnicodeEscape
  deriving DecidableEq

def Fault.message : Fault → String
  | byteOrderMark => "Unexpected UTF-8 BOM (decode using utf-8-sig)"
  | expectingValue => "Expecting value"
  | expectingKey => "Expecting property name enclosed in double quotes"
  | expectingColon => "Expecting ':' delimiter"
  | expectingComma => "Expecting ',' delimiter"
  | extraData => "Extra data"
  | unterminatedString => "Unterminated string starting at"
  | controlCharacter => "Invalid control character at"
  | badEscape => "Invalid \\escape"
  | badUnicodeEscape => "Invalid \\uXXXX escape"

inductive Refusal where
  | malformed (fault : Fault) (rest : List Char)
  | tooManyDigits (count : Nat)
  | tooDeep

abbrev Reading (α : Type) := Except Refusal (α × List Char)

def fail {α : Type} (fault : Fault) (rest : List Char) : Reading α := .error (.malformed fault rest)

def isBlank (c : Char) : Bool := c == ' ' || c == '\t' || c == '\n' || c == '\r'

def skipBlanks (cs : List Char) : List Char := cs.dropWhile isBlank

def escapedChar? : Char → Option Char
  | '\x22' => some '\x22'
  | '\\' => some '\\'
  | '/' => some '/'
  | 'b' => some '\x08'
  | 'f' => some '\x0c'
  | 'n' => some '\n'
  | 'r' => some '\r'
  | 't' => some '\t'
  | _ => none

def readPoints (start : List Char) : List Char → Reading Text
  | [] => fail .unterminatedString start
  | '\x22' :: cs => .ok ([], cs)
  | ['\\'] => fail .unterminatedString start
  | '\\' :: 'u' :: a :: b :: c :: d :: cs =>
    if cs.isEmpty then fail .badUnicodeEscape ('u' :: a :: b :: c :: d :: cs)
    else
      match Text.hexNumber? a b c d with
      | none => fail .badUnicodeEscape ('u' :: a :: b :: c :: d :: cs)
      | some n => (readPoints start cs).map fun (t, rest) => (CodePoint.ofNat n :: t, rest)
  | '\\' :: c :: cs =>
    if c = 'u' then fail .badUnicodeEscape (c :: cs)
    else
      match escapedChar? c with
      | none => fail .badEscape ('\\' :: c :: cs)
      | some e => (readPoints start cs).map fun (t, rest) => (.scalar e :: t, rest)
  | c :: cs =>
    if c.toNat < 0x20 then fail .controlCharacter (c :: cs)
    else (readPoints start cs).map fun (t, rest) => (.scalar c :: t, rest)

def readString (start cs : List Char) : Reading Text :=
  (readPoints start cs).map fun (t, rest) => (t.joinHalves, rest)

def takeFraction : List Char → Option (List Char × List Char)
  | '.' :: cs =>
    let digits := cs.takeWhile Char.isDigit
    if digits.isEmpty then none else some (digits, cs.dropWhile Char.isDigit)
  | _ => none

def takeExponent : List Char → Option (Int × List Char)
  | [] => none
  | e :: cs =>
    if e = 'e' ∨ e = 'E' then
      let (negative, cs) :=
        match cs with
        | '+' :: cs => (false, cs)
        | '-' :: cs => (true, cs)
        | cs => (false, cs)
      let digits := cs.takeWhile Char.isDigit
      if digits.isEmpty then none
      else
        let n : Int := Nat.ofDigitChars 10 digits 0
        some (if negative then -n else n, cs.dropWhile Char.isDigit)
    else none

def readNumber (start : List Char) (negative : Bool) (cs : List Char) : Reading Json :=
  let digits := cs.takeWhile Char.isDigit
  match digits with
  | [] => fail .expectingValue start
  | first :: _ =>
    let whole := if first = '0' then ['0'] else digits
    let rest := cs.drop whole.length
    match takeFraction rest, takeExponent ((takeFraction rest).elim rest (·.2)) with
    | none, none =>
      if Text.digitLimit < whole.length then .error (.tooManyDigits whole.length)
      else
        let n : Int := Nat.ofDigitChars 10 whole 0
        .ok (.int (if negative then -n else n), rest)
    | fraction, exponent =>
      let (fractionDigits, rest) := fraction.getD ([], rest)
      let (power, rest) := exponent.getD (0, rest)
      let significand := Nat.ofDigitChars 10 (whole ++ fractionDigits) 0
      .ok (.float (.ofDecimal negative significand (power - fractionDigits.length)), rest)

def takeWord? : List Char → List Char → Option (List Char)
  | [], cs => some cs
  | _ :: _, [] => none
  | w :: word, c :: cs => if w = c then takeWord? word cs else none

def readScalar (cs : List Char) : Reading Json :=
  let word (w : String) (value : Json) (otherwise : Reading Json) : Reading Json :=
    match takeWord? w.toList cs with
    | some rest => .ok (value, rest)
    | none => otherwise
  word "null" .null <| word "true" (.bool true) <| word "false" (.bool false) <|
  word "NaN" (.float .nan) <| word "Infinity" (.float (.infinity false)) <|
  word "-Infinity" (.float (.infinity true)) <|
  match cs with
  | '-' :: ds => readNumber cs true ds
  | ds => readNumber cs false ds

mutual

def readValue : (fuel depth : Nat) → List Char → Reading Json
  | 0, _, cs => fail .expectingValue cs
  | fuel + 1, depth, cs =>
    match cs with
    | '\x22' :: rest => (readString cs rest).map fun (t, rest) => (.str t, rest)
    | '[' :: rest =>
      match depth with
      | 0 => .error .tooDeep
      | depth + 1 =>
        match skipBlanks rest with
        | ']' :: rest => .ok (.arr [], rest)
        | rest => (readItems fuel depth rest).map fun (items, rest) => (.arr items, rest)
    | '\x7b' :: rest =>
      match depth with
      | 0 => .error .tooDeep
      | depth + 1 =>
        match skipBlanks rest with
        | '\x7d' :: rest => .ok (.obj [], rest)
        | rest =>
          (readPairs fuel depth rest).map fun (pairs, rest) => (.obj (Fields.ofPairs pairs), rest)
    | cs => readScalar cs

def readItems : (fuel depth : Nat) → List Char → Except Refusal (List Json × List Char)
  | 0, _, cs => fail .expectingValue cs
  | fuel + 1, depth, cs => do
    let (item, cs) ← readValue fuel depth cs
    match skipBlanks cs with
    | ']' :: cs => return ([item], cs)
    | ',' :: cs => do
      let (items, cs) ← readItems fuel depth (skipBlanks cs)
      return (item :: items, cs)
    | cs => fail .expectingComma cs

def readPairs : (fuel depth : Nat) → List Char →
    Except Refusal (List (Text × Json) × List Char)
  | 0, _, cs => fail .expectingKey cs
  | fuel + 1, depth, cs =>
    match cs with
    | '\x22' :: rest => do
      let (key, rest) ← readString cs rest
      match skipBlanks rest with
      | ':' :: rest => do
        let (value, rest) ← readValue fuel depth (skipBlanks rest)
        match skipBlanks rest with
        | '\x7d' :: rest => return ([(key, value)], rest)
        | ',' :: rest => do
          let (pairs, rest) ← readPairs fuel depth (skipBlanks rest)
          return ((key, value) :: pairs, rest)
        | rest => fail .expectingComma rest
      | rest => fail .expectingColon rest
    | cs => fail .expectingKey cs

end

def read (cs : List Char) (depth : Nat := Nesting.limit) : Except Refusal Json := do
  if cs.head? = some '\uFEFF' then .error (.malformed .byteOrderMark cs)
  else
    let (value, rest) ← readValue (2 * cs.length + 2) depth (skipBlanks cs)
    match skipBlanks rest with
    | [] => return value
    | rest => .error (.malformed .extraData rest)

def Fault.located (fault : Fault) (text rest : List Char) : String :=
  let before := text.take (text.length - rest.length)
  let line := before.count '\n' + 1
  let column := (before.reverse.takeWhile (· != '\n')).length + 1
  fault.message ++ ": line " ++ toString line ++ " column " ++ toString column ++
    " (char " ++ toString before.length ++ ")"

end NextRelease.Json
