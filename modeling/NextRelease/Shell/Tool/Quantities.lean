import NextRelease.Shell.Format
import NextRelease.Shell.Tool.Lines

/-!
Numbers with letters for thousands, millions and so on: they are read with them, written with them,
or both. Every step of a sum has sixty-four binary digits.
-/

namespace NextRelease.Shell.Tool

namespace Quantities

/-! ## Rounding -/

structure Quotient where
  top : Int
  bottom : Nat := 1

inductive Rounding where
  | up
  | down
  | fromZero
  | towardsZero
  | nearest

def roundings : List (List String × Rounding) :=
  [(["up"], .up), (["down"], .down), (["from-zero"], .fromZero), (["towards-zero"], .towardsZero),
    (["nearest"], .nearest)]

def Rounding.apply (r : Rounding) (q : Quotient) : Int :=
  let floor := q.top / (q.bottom : Int)
  let ceiling := -(-q.top / (q.bottom : Int))
  match r with
  | up => ceiling
  | down => floor
  | fromZero => if q.top < 0 then floor else ceiling
  | towardsZero => if q.top < 0 then ceiling else floor
  | nearest =>
    let size : Int := (2 * q.top.natAbs + q.bottom) / (2 * q.bottom)
    if q.top < 0 then -size else size

namespace Quotient

def extended (q : Quotient) : Quotient :=
  let size := q.top.natAbs
  if size = 0 then ⟨0, 1⟩
  else
    let sign (n : Nat) : Int := if q.top < 0 then -(n : Int) else n
    let length : Int := (size.log2 : Int) - (q.bottom.log2 : Int)
    let guess := length - 63
    let (top, bottom) := Binary64.scaleDown 2 guess size q.bottom
    let exponent := if top < Nat.pow 2 63 * bottom then guess - 1 else guess
    let (top, bottom) := Binary64.scaleDown 2 exponent size q.bottom
    let digits := Binary64.roundQuotient top bottom
    if 0 ≤ exponent then ⟨sign (digits * Nat.pow 2 exponent.toNat), 1⟩
    else ⟨sign digits, Nat.pow 2 (-exponent).toNat⟩

def scale (q : Quotient) (factor : Nat) : Quotient := ({ q with top := q.top * factor }).extended

def divide (q : Quotient) (divisor : Nat) : Quotient :=
  ({ q with bottom := q.bottom * divisor }).extended

def add (p q : Quotient) : Quotient :=
  (⟨p.top * q.bottom + q.top * p.bottom, p.bottom * q.bottom⟩ : Quotient).extended

def reaches (q : Quotient) (n : Nat) : Bool := n * q.bottom ≤ q.top.natAbs

def rounded (q : Quotient) (r : Rounding) (places : Nat) : Quotient :=
  let factor := Nat.pow 10 places
  (⟨r.apply (q.scale factor), factor⟩ : Quotient).extended

def reduced (base : Nat) : (fuel : Nat) → Quotient → Quotient × Nat
  | 0, q => (q, 0)
  | fuel + 1, q =>
    if q.reaches base then
      let (q, power) := reduced base fuel (q.divide base)
      (q, power + 1)
    else (q, 0)

def text (q : Quotient) (places : Nat) : Octets :=
  (if q.top < 0 then ['-'] else []) ++
    Directive.fixedDigits places false q.top.natAbs q.bottom

end Quotient

def divisions : Nat := 200

/-! ## Units -/

inductive Scale where
  | plain
  | auto
  | metric
  | binary
  | marked
  deriving DecidableEq

def sourceScales : List (List String × Scale) :=
  [(["none"], .plain), (["auto"], .auto), (["si"], .metric), (["iec"], .binary),
    (["iec-i"], .marked)]

def goalScales : List (List String × Scale) :=
  sourceScales.filter fun one => one.2 != .auto

def Scale.base : Scale → Nat
  | binary | marked => 1024
  | _ => 1000

def powerLetters : Octets := "KMGTPEZY".toList

inductive Manner where
  | abort
  | fail
  | warn
  | ignore
  deriving DecidableEq

def manners : List (List String × Manner) :=
  [(["abort"], .abort), (["fail"], .fail), (["warn"], .warn), (["ignore"], .ignore)]

structure Request where
  source : Scale := .plain
  goal : Scale := .plain
  sourceUnit : Nat := 1
  goalUnit : Nat := 1
  rounding : Rounding := .fromZero
  manner : Manner := .abort
  suffix : Octets := []
  delimiter : Option Char := none
  width : Nat := 0
  toLeft : Bool := false
  zeros : Nat := 0
  places : Option Nat := none
  front : Octets := []
  back : Octets := []
  fields : List ColumnRange := [⟨1, some 1⟩]
  header : Nat := 0
  ending : Char := '\n'
  groups : Bool := false
  isDoubtful : Bool := false

/-! ## Reading numbers -/

inductive Refusal where
  | tooLarge
  | noNumber
  | forbiddenLetter
  | wrongLetter
  | unmarked
  | remainder (rest : Octets)

def Refusal.text (text : Octets) : Refusal → Octets
  | tooLarge => "value too large to be converted: ".toList ++ inQuotes text
  | noNumber => "invalid number: ".toList ++ inQuotes text
  | forbiddenLetter =>
    "rejecting suffix in input: ".toList ++ inQuotes text ++ " (consider using --from)".toList
  | wrongLetter => "invalid suffix in input: ".toList ++ inQuotes text
  | unmarked => "missing 'i' suffix in input: ".toList ++ inQuotes text ++
      " (e.g Ki/Mi/Gi)".toList
  | remainder rest =>
    "invalid suffix in input ".toList ++ inQuotes text ++ ": ".toList ++ inQuotes rest

/-- Reads the letters behind a number: by how much it is multiplied, and what follows. -/
def readPower (s : Scale) (text : Octets) : Except Refusal (Nat × Octets) := do
  let (factor, rest) ← match text with
    | [] => pure (1, [])
    | _ =>
      match text.dropWhile isGap with
      | c :: rest =>
        match powerLetters.idxOf? c with
        | none => throw .wrongLetter
        | some index =>
          if s = .plain then throw .forbiddenLetter
          else
            let power := index + 1
            match s, rest with
            | .auto, 'i' :: rest => pure (Nat.pow 1024 power, rest)
            | _, rest => pure (Nat.pow s.base power, rest)
      | [] => throw .wrongLetter
  if s = .marked then
    match rest with
    | 'i' :: rest => return (factor, rest)
    | _ => throw .unmarked
  else return (factor, rest)

def takeDigits (text : Octets) : Except Refusal (Octets × Octets) :=
  let digits := text.takeWhile Char.isDigit
  if 27 < (digits.dropWhile (· == '0')).length then .error .tooLarge
  else .ok (digits, text.drop digits.length)

def readQuotient (s : Scale) (text : Octets) : Except Refusal (Quotient × Nat) := do
  let isNegative := text.head? == some '-'
  let (whole, rest) ← takeDigits (if isNegative then text.drop 1 else text)
  if whole.isEmpty && rest.head? != some '.' then throw .noNumber
  let (fraction, rest) ← match rest with
    | '.' :: rest => do
      if rest.head? == some '-' then throw .noNumber
      let (fraction, behind) ← takeDigits rest
      if fraction.isEmpty && behind.head? != some '.' then throw .noNumber
      pure (fraction, behind)
    | rest => pure ([], rest)
  let (factor, behind) ← readPower s rest
  if !behind.isEmpty then throw (.remainder behind)
  let part (digits : Octets) : Quotient :=
    let size : Int := readNat digits
    (⟨if isNegative then -size else size, 1⟩ : Quotient).extended
  let q := (part whole).add ((part fraction).divide (Nat.pow 10 fraction.length))
  return (q.scale factor, if rest.isEmpty then fraction.length else 0)

/-! ## Writing numbers -/

def written (r : Request) (q : Quotient) (places : Nat) : Octets :=
  let padded (digits letters : Octets) : Octets :=
    let (sign, digits) := match digits with
      | '-' :: digits => (['-'], digits)
      | digits => ([], digits)
    sign ++ List.replicate (r.zeros - sign.length - digits.length) '0' ++ digits ++ letters
  if r.goal = .plain then padded ((q.rounded r.rounding places).text places) []
  else
    let base := r.goal.base
    let (value, power) := q.reduced base divisions
    let adjusted := match r.places with
      | some places => min (power * 3) places
      | none => if value.reaches 10 then 0 else 1
    let value := value.rounded r.rounding adjusted
    let (value, power) := if value.reaches base then (value.divide base, power + 1)
      else (value, power)
    let showsPoint := value.top != 0 && !value.reaches 10 && 0 < power
    let letter := if power = 0 then [] else (powerLetters[power - 1]?).toList
    let mark := if r.goal = .marked && 0 < power then ['i'] else []
    padded (value.text (r.places.getD (if showsPoint then 1 else 0))) letter ++ mark

def tooLong? (r : Request) (q : Quotient) (places : Nat) : Option Octets :=
  let digits := (q.reduced 10 divisions).2
  let value := (if q.top < 0 then ['-'] else []) ++
    Directive.general 6 false q.top.natAbs q.bottom
  if r.goal = .plain && 18 < digits + places then
    if places = 0 then
      some ("value too large to be printed: '".toList ++ value ++ "' (consider using --to)".toList)
    else
      some ("value/precision too large to be printed: '".toList ++ value ++ '/' ::
        natText places ++ "' (consider using --to)".toList)
  else if 26 < digits then
    some ("value too large to be printed: '".toList ++ value ++
      "' (cannot handle values > 999Y)".toList)
  else none

def toolName : Octets := "numfmt".toList

def refuse (r : Request) (text : Octets) : Act Unit := do
  if r.manner != .ignore then report toolName text
  if r.manner = .abort then
    finish 2
    throw .exit
  else if r.manner = .fail then finish 2

def convert (r : Request) (number : Nat) (field : Octets) : Act Octets := do
  let cut := if !r.suffix.isEmpty && r.suffix.length < field.length &&
      r.suffix.isSuffixOf field then field.take (field.length - r.suffix.length)
    else field
  let bare := cut.dropWhile isGap
  let isAligned := r.width = 0 && r.delimiter.isNone
  let width := if !isAligned then r.width
    else if bare.length < cut.length || 1 < number then cut.length else 0
  match readQuotient r.source bare with
  | .error refusal => do
    refuse r (refusal.text bare)
    return cut
  | .ok (q, places) => do
    let q := (q.scale r.sourceUnit).divide r.goalUnit
    let places := r.places.getD places
    match tooLong? r q places with
    | some text => do
      refuse r text
      return cut
    | none =>
      let text := written r q places ++ r.suffix
      return r.front ++ (if r.toLeft then padRight width text else padLeft width text) ++ r.back

def fieldsOf (delimiter : Option Char) : (fuel : Nat) → Octets → List Octets
  | 0, line => [line]
  | fuel + 1, line =>
    match delimiter with
    | some c => Text.splitOn c line
    | none =>
      let isBlank (c : Char) : Bool := isGap c || c == '\n'
      let blanks := line.takeWhile isBlank
      let rest := line.drop blanks.length
      let word := rest.takeWhile fun c => !isBlank c
      match rest.drop word.length with
      | [] => [blanks ++ word]
      | _ :: behind => (blanks ++ word) :: fieldsOf delimiter fuel behind

def convertLine (r : Request) (line : Octets) (endsLine : Bool) : Act Unit := do
  let fields := fieldsOf r.delimiter (line.length + 1) line
  let texts ← (fields.zipIdx 1).mapM fun (field, number) =>
    if r.fields.any (ColumnRange.has number) then convert r number field else return field
  print (List.intercalate [r.delimiter.getD ' '] texts ++ if endsLine then [r.ending] else [])

/-! ## Formats -/

/-- Takes the format of numbers into a request, or tells what is wrong with it. -/
def readFormat (r : Request) (format : Octets) : Except Octets Request :=
  let quoted := "format ".toList ++ inQuotes format
  let rec frontLength : (fuel : Nat) → Octets → Option Nat
    | 0, _ => none
    | _, [] => none
    | fuel + 1, '%' :: '%' :: rest => (frontLength fuel rest).map (· + 2)
    | _, '%' :: _ => some 0
    | fuel + 1, _ :: rest => (frontLength fuel rest).map (· + 1)
  let wrong : Octets := "invalid ".toList ++ quoted ++
    ", directive must be %[0]['][-][N][.][N]f".toList
  match frontLength (format.length + 1) format with
  | none => .error (quoted ++ " has no % directive".toList)
  | some length =>
    let behind := format.drop (length + 1)
    let flags := behind.takeWhile "' 0".toList.contains
    let rest := behind.drop flags.length
    let isNegative := rest.head? == some '-'
    let rest := if isNegative then rest.drop 1 else rest
    let digits := rest.takeWhile Char.isDigit
    let pad := readNat digits
    let rest := rest.drop digits.length
    if rest.isEmpty then .error (quoted ++ " ends in %".toList)
    else
      let (places, rest) := match rest with
        | '.' :: rest =>
          let digits := rest.takeWhile Char.isDigit
          (some (readNat digits), rest.drop digits.length)
        | rest => (none, rest)
      match rest with
      | 'f' :: back =>
        if (frontLength (back.length + 1) back).isSome then
          .error (quoted ++ " has too many % directives".toList)
        else
          let r := { r with
            places := places, front := format.take length, back, groups := flags.contains '\x27' }
          if pad = 0 then .ok r
          else if isNegative then .ok { r with width := pad, toLeft := true }
          else if flags.contains '0' then .ok { r with zeros := pad }
          else .ok { r with width := pad }
      | _ => .error wrong

def unitSize? (text : Octets) : Option Nat :=
  let digits := text.takeWhile Char.isDigit
  let n := if digits.isEmpty then 1 else readNat digits
  let size := match text.drop digits.length with
    | [] => if digits.isEmpty then none else some n
    | [c] => (powerLetters.idxOf? c).map fun index => n * Nat.pow 1000 (index + 1)
    | [c, 'i'] => (powerLetters.idxOf? c).map fun index => n * Nat.pow 1024 (index + 1)
    | _ => none
  size.filter (0 < ·)

/-! ## Options -/

def flags : List Flag :=
  [⟨'\x01', "from", true⟩, ⟨'\x02', "from-unit", true⟩, ⟨'\x03', "to", true⟩,
    ⟨'\x04', "to-unit", true⟩, ⟨'\x05', "round", true⟩, ⟨'\x06', "padding", true⟩,
    ⟨'\x07', "suffix", true⟩, ⟨'\x0e', "grouping", false⟩, ⟨'d', "delimiter", true⟩,
    ⟨'\x0f', "field", true⟩, ⟨'\x10', "header", .maybe⟩, ⟨'\x11', "invalid", true⟩,
    ⟨'\x12', "format", true⟩, ⟨'\x13', "debug", false⟩, ⟨'z', "zero-terminated", false⟩]

/-- Takes an option into a request; nothing if it makes no sense, which is reported. -/
def takeOption (r : Request) (letter : Char) (value : Octets) : Act (Option Request) := do
  let refused (text : Octets) : Act (Option Request) := do
    fail 1 toolName text
    return none
  let quoted (front : String) : Octets := front.toList ++ inQuotes value
  match letter with
  | '\x01' => do
    let chosen ← choose 1 toolName (inQuotes "--from".toList) sourceScales value
    return chosen.map fun source => { r with source }
  | '\x03' => do
    let chosen ← choose 1 toolName (inQuotes "--to".toList) goalScales value
    return chosen.map fun goal => { r with goal }
  | '\x05' => do
    let chosen ← choose 1 toolName (inQuotes "--round".toList) roundings value
    return chosen.map fun rounding => { r with rounding }
  | '\x11' => do
    let chosen ← choose 1 toolName (inQuotes "--invalid".toList) manners value
    return chosen.map fun manner => { r with manner }
  | '\x02' | '\x04' =>
    match unitSize? value with
    | some size =>
      return some (if letter = '\x02' then { r with sourceUnit := size }
        else { r with goalUnit := size })
    | none => refused (quoted "invalid unit size: ")
  | '\x0e' => return some { r with groups := true }
  | '\x06' =>
    let isNegative := value.head? == some '-'
    let digits := if isNegative then value.drop 1 else value
    if isNumber digits && readNat digits != 0 then
      return some { r with width := readNat digits, toLeft := isNegative }
    else refused (quoted "invalid padding value ")
  | '\x07' => return some { r with suffix := value }
  | 'd' =>
    if 1 < value.length then refused "the delimiter must be a single character".toList
    else return some { r with delimiter := some (value.head?.getD '\x00') }
  | '\x0f' =>
    let ranges := if value == ['-'] then .ok [⟨1, none⟩] else readColumns .field {} value
    match ranges with
    | .ok fields => return some { r with fields }
    | .error text => do
      misuse 1 toolName text
      return none
  | '\x10' =>
    if value.isEmpty then return some { r with header := 1 }
    else if isNumber value && readNat value != 0 then
      return some { r with header := readNat value }
    else refused (quoted "invalid header value ")
  | '\x12' =>
    match readFormat r value with
    | .ok r => return some r
    | .error text => refused text
  | 'z' => return some { r with ending := '\x00' }
  | _ => return some { r with isDoubtful := true }

def takeOptions : Request → Options → Act (Option Request)
  | r, [] => return some r
  | r, (letter, value) :: options => do
    match ← takeOption r letter value with
    | some r => takeOptions r options
    | none => return none

def convertAll (r : Request) (text : Octets) : Act Unit := do
  let lines := Text.splitOn r.ending text
  let hasBreak := lines.getLast? == some []
  let lines := if hasBreak then lines.dropLast else lines
  (lines.zipIdx).forM fun (line, number) => do
    let isLast := number + 1 = lines.length
    let endsLine := !isLast || hasBreak
    if number < r.header then print (line ++ if endsLine then [r.ending] else [])
    else convertLine r line endsLine

end Quantities

def numfmt : Tool := fun name arguments => do
  finish 0
  match readOptions false Quantities.flags (arguments.length + 1) arguments with
  | .error text => misuse 1 name text
  | .ok (options, operands) =>
    match ← Quantities.takeOptions {} options with
    | none => return
    | some r =>
      if r.groups && r.goal != .plain then
        fail 1 name "grouping cannot be combined with --to".toList
      else
        if r.isDoubtful && r.source = .plain && r.goal = .plain && r.width = 0 && !r.groups then
          report name "no conversion option specified".toList
        let work : Act Unit := do
          if operands.isEmpty then Quantities.convertAll r (← readAll 0)
          else operands.forM fun operand => Quantities.convertLine r operand true
        match ← work.attempt with
        | .ok () | .error .exit => return
        | .error stop => throw stop

end NextRelease.Shell.Tool
