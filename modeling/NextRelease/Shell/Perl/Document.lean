import NextRelease.Shell.Perl.Value

/-!
Documents of lists and tables as texts. Reading looks at one character at a time; where it stops is
told by the number of characters that have been taken.
-/

namespace NextRelease.Shell.Perl

inductive Document where
  | undefined
  | truth (b : Bool)
  | scalar (v : Scalar)
  | list (items : List Document)
  | table (entries : List (Octets × Document))

namespace Document

/-! ## Reading -/

structure Manner where
  isEncoded : Bool := false
  isRelaxed : Bool := false
  takesScalars : Bool := true
  deepest : Nat := 512

structure Scan where
  text : Array Char
  place : Nat := 0
  next : Option Char := some '\x00'

abbrev Reading := StateT Scan (Except Octets)

def pass : Reading Unit := modify fun s =>
  match s.text[s.place]? with
  | some c => { s with next := some c, place := s.place + 1 }
  | none => { s with next := none }

def back (count : Nat) : Reading Unit := modify fun s => { s with place := s.place - count }

def shownChar (c : Char) : Octets :=
  match c with
  | '\\' => "\\\\".toList
  | '\n' => "\\n".toList
  | '\t' => "\\t".toList
  | '\r' => "\\r".toList
  | '\x0c' => "\\f".toList
  | '\x07' => "\\a".toList
  | c =>
    if 32 ≤ c.toNat && c.toNat < 127 then [c]
    else "\\x\x7b".toList ++ Nat.toDigits 16 c.toNat ++ ['\x7d']

def shownText : (room : Nat) → Octets → Octets
  | _, [] => []
  | room, c :: cs =>
    let shown := shownChar c
    if room ≤ shown.length then shown ++ "...".toList
    else shown ++ shownText (room - shown.length) cs

def refuse {α : Type} (reason : String) : Reading α := do
  let s ← get
  let shown := shownText 20 (s.text.extract s.place s.text.size).toList
  throw (reason.toList ++ ", at character offset ".toList ++ natText s.place ++
    " (before \"".toList ++
    (if shown.isEmpty then "(end of string)".toList else shown) ++ "\")".toList)

def malformed : String := "malformed JSON string, neither array, object, number, string or atom"

def tooDeep : String :=
  "json text or perl structure exceeds maximum nesting level (max_depth set too low?)"

def passBlanks (manner : Manner) : (fuel : Nat) → (inComment : Bool) → Reading Unit
  | 0, _ => return
  | fuel + 1, inComment => do
    match (← get).next with
    | none => return
    | some c =>
      if inComment then
        pass
        passBlanks manner fuel (c != '\n')
      else if c = '\x00' && (← get).place = 0 || " \t\r\n".toList.contains c then
        pass
        passBlanks manner fuel false
      else if manner.isRelaxed && c = '#' then passBlanks manner fuel true
      else return

def digitsOf16 (cs : Octets) : Option Nat :=
  if cs.length = 4 && cs.all (fun c => (Sum.digitOf? 16 c).isSome) then some (Sum.valueOf 16 cs)
  else none

def written (n : Nat) : Octets :=
  if n < 256 then [Char.ofNat n] else octets (String.singleton (Char.ofNat n))

def encodedSize (c : Char) : Option (Nat × Nat) :=
  let n := c.toNat
  if 0xc2 ≤ n && n < 0xe0 then some (1, n - 0xc0)
  else if 0xe0 ≤ n && n < 0xf0 then some (2, n - 0xe0)
  else if 0xf0 ≤ n && n < 0xf5 then some (3, n - 0xf0)
  else none

/-- Reads the rest of a string; `high` is the first half of a pair. -/
def readString (manner : Manner) : (fuel : Nat) → (high : Option Nat) → (done : List Octets) →
    Reading Octets
  | 0, _, _ => refuse "unexpected end of string while parsing JSON string"
  | fuel + 1, high, done => do
    let ended : Reading Octets := refuse "unexpected end of string while parsing JSON string"
    pass
    match (← get).next with
    | none => ended
    | some '\x22' => do
      pass
      if high.isSome then refuse "missing low surrogate character in surrogate pair"
      return done.reverse.flatten
    | some '\\' => do
      pass
      let plain (c : Char) : Reading Octets := readString manner fuel high ([c] :: done)
      match (← get).next with
      | none => ended
      | some 'b' => plain '\x08'
      | some 't' => plain '\t'
      | some 'n' => plain '\n'
      | some 'f' => plain '\x0c'
      | some 'r' => plain '\r'
      | some '\\' => plain '\\'
      | some '\x22' => plain '\x22'
      | some '/' => plain '/'
      | some 'u' => do
        let s ← get
        let digits := (s.text.extract s.place (s.place + 4)).toList
        match digitsOf16 digits with
        | none => do
          let good := (digits.takeWhile fun c => (Sum.digitOf? 16 c).isSome).length
          set { s with place := min s.text.size (s.place + good + 1) }
          ended
        | some n => do
          set { s with place := s.place + 4 }
          if 0xd800 ≤ n && n < 0xdc00 then readString manner fuel (some n) done
          else if 0xdc00 ≤ n && n < 0xe000 then
            match high with
            | none => refuse "missing high surrogate character in surrogate pair"
            | some m =>
              let code := 0x10000 + (m - 0xd800) * 0x400 + (n - 0xdc00)
              readString manner fuel none (written code :: done)
          else if high.isSome then refuse "surrogate pair expected"
          else readString manner fuel none (written n :: done)
      | some _ => do
        back 2
        refuse "illegal backslash escape sequence in string"
    | some c =>
      if c.toNat < 32 && !(manner.isRelaxed && c = '\t') then
        back 1
        refuse ("invalid character 0x" ++
          String.ofList ((Nat.toDigits 16 c.toNat).map Char.toUpper) ++
          " encountered while parsing JSON string")
      else if c.toNat < 128 || !manner.isEncoded then readString manner fuel high ([c] :: done)
      else
        let s ← get
        match encodedSize c with
        | none => do
          back 1
          refuse "malformed UTF-8 character in JSON string"
        | some (count, bits) => do
          let more := (s.text.extract s.place (s.place + count)).toList
          if more.length = count && more.all fun c => 0x80 ≤ c.toNat && c.toNat < 0xc0 then
            let code := more.foldl (fun n c => n * 64 + (c.toNat - 0x80)) bits
            set { s with place := s.place + count }
            readString manner fuel high (written code :: done)
          else
            back 1
            refuse "malformed UTF-8 character in JSON string"

def takeDigits : (fuel : Nat) → (done : Octets) → Reading Octets
  | 0, done => return done.reverse
  | fuel + 1, done => do
    match (← get).next with
    | some c =>
      if c.isDigit then
        pass
        takeDigits fuel (c :: done)
      else return done.reverse
    | none => return done.reverse

def sees (accepts : Char → Bool) : Reading Bool := return (← get).next.any accepts

def readNumber : Reading Document := do
  let room := (← get).text.size + 1
  let sign ← if ← sees (· == '-') then do
      pass
      if !(← sees Char.isDigit) then refuse "malformed number (no digits after initial minus)"
      pure ['-']
    else pure []
  if ← sees (· == '0') then
    let s ← get
    if s.text[s.place]?.any fun c => (Sum.digitOf? 16 c).isSome && c != 'e' && c != 'E' then
      refuse "malformed number (leading zero must not be followed by another digit)"
  let front ← takeDigits room []
  let fraction ← if ← sees (· == '.') then do
      pass
      if !(← sees Char.isDigit) then refuse "malformed number (no digits after decimal point)"
      pure ('.' :: (← takeDigits room []))
    else pure []
  let power ← if ← sees (fun c => c == 'e' || c == 'E') then do
      pass
      let sign ← if ← sees (fun c => c == '+' || c == '-') then do
          let c := (← get).next.getD '+'
          pass
          pure [c]
        else pure []
      if !(← sees Char.isDigit) then refuse "malformed number (no digits after exp sign)"
      pure ('e' :: sign ++ (← takeDigits room []))
    else pure []
  let text := sign ++ front ++ fraction ++ power
  if fraction.isEmpty && power.isEmpty && 18 < text.length then return .scalar (.text text)
  return .scalar (cutQuantity text).1.toScalar

def readWord : Reading Document := do
  let s ← get
  let word := String.ofList (s.text.extract (s.place - 1) (s.place + 3)).toList
  let goOn (count : Nat) (d : Document) : Reading Document := do
    set { s with place := s.place + count }
    pass
    return d
  if word = "true" then goOn 3 (.truth true)
  else if word = "null" then goOn 3 .undefined
  else if word = "fals" && s.text[s.place + 3]? = some 'e' then goOn 4 (.truth false)
  else
    set { s with place := if word = "fals" then s.place + 2 else s.place - 1 }
    match word.toList.head? with
    | some 'n' => refuse "'null' expected"
    | some 't' => refuse "'true' expected"
    | some 'f' => refuse "'false' expected"
    | _ => refuse malformed

mutual

def readValue (manner : Manner) : (fuel : Nat) → (depth : Nat) → Reading Document
  | 0, _ => refuse tooDeep
  | fuel + 1, depth => do
    let room := (← get).text.size + 2
    passBlanks manner room false
    match (← get).next with
    | none => return .undefined
    | some '\x7b' => do
      if manner.deepest ≤ depth then refuse tooDeep
      pass
      passBlanks manner room false
      if ← sees (· == '\x7d') then
        pass
        return .table []
      return .table (← readEntries manner fuel (depth + 1) [])
    | some '[' => do
      if manner.deepest ≤ depth then refuse tooDeep
      pass
      passBlanks manner room false
      if ← sees (· == ']') then
        pass
        return .list []
      return .list (← readItems manner fuel (depth + 1) [])
    | some '\x22' => return .scalar (.text (← readString manner room none []))
    | some c => if c.isDigit || c = '-' then readNumber else readWord

def readItems (manner : Manner) : (fuel : Nat) → (depth : Nat) → List Document →
    Reading (List Document)
  | 0, _, _ => refuse tooDeep
  | fuel + 1, depth, done => do
    let room := (← get).text.size + 2
    let reason := ", or ] expected while parsing array"
    if (← get).next.isNone then refuse reason
    let item ← readValue manner fuel depth
    passBlanks manner room false
    match (← get).next with
    | none => refuse reason
    | some ']' => do
      pass
      return (item :: done).reverse
    | some ',' => do
      pass
      passBlanks manner room false
      if manner.isRelaxed && (← sees (· == ']')) then
        pass
        return (item :: done).reverse
      readItems manner fuel depth (item :: done)
    | some _ => do
      back 1
      refuse reason

def readEntries (manner : Manner) : (fuel : Nat) → (depth : Nat) → List (Octets × Document) →
    Reading (List (Octets × Document))
  | 0, _, _ => refuse tooDeep
  | fuel + 1, depth, done => do
    let room := (← get).text.size + 2
    let reason := ", or \x7d expected while parsing object/hash"
    if (← get).next.isNone then refuse reason
    if !(← sees (· == '\x22')) then refuse "unexpected end of string while parsing JSON string"
    let key ← readString manner room none []
    passBlanks manner room false
    if !(← sees (· == ':')) then
      back 1
      refuse "':' expected"
    pass
    let item ← readValue manner fuel depth
    let done := (key, item) :: done.filter fun entry => entry.1 != key
    passBlanks manner room false
    match (← get).next with
    | none => refuse reason
    | some '\x7d' => do
      pass
      return done.reverse
    | some ',' => do
      pass
      passBlanks manner room false
      if manner.isRelaxed && (← sees (· == '\x7d')) then
        pass
        return done.reverse
      readEntries manner fuel depth done
    | some _ => do
      back 1
      refuse reason

end

/-- Reads a whole text, or tells why it is none. -/
def ofText (manner : Manner) (text : Octets) : Except Octets Document := do
  let read : Reading Document := do
    let room := text.length + 2
    passBlanks manner room false
    if (← get).next.isNone then refuse malformed
    let d ← readValue manner (2 * text.length + 4) 0
    let isScalar := match d with
      | .list _ | .table _ => false
      | _ => true
    if isScalar && !manner.takesScalars then
      throw ("JSON text must be an object or array (but found number, string, true, false or " ++
        "null, use allow_nonref to allow this)").toList
    passBlanks manner room false
    if (← get).next.isSome then refuse "garbage after JSON object"
    return d
  let (d, _) ← read.run { text := text.toArray }
  return d

/-! ## Writing -/

structure Style where
  isEncoded : Bool := false
  isAscii : Bool := false
  isIndented : Bool := false
  spacesBefore : Bool := false
  spacesAfter : Bool := false
  isSorted : Bool := false
  escapesSlash : Bool := false
  indent : Nat := 3

def quotedChar (style : Style) (c : Char) : Octets :=
  match c with
  | '\n' => "\\n".toList
  | '\r' => "\\r".toList
  | '\t' => "\\t".toList
  | '\x0c' => "\\f".toList
  | '\x08' => "\\b".toList
  | '\x22' => "\\\x22".toList
  | '\\' => "\\\\".toList
  | '/' => if style.escapesSlash then "\\/".toList else ['/']
  | c =>
    let digits := Nat.toDigits 16 c.toNat
    let hex : Octets := "\\u".toList ++ List.replicate (4 - digits.length) '0' ++ digits
    if c.toNat < 32 || (128 ≤ c.toNat && style.isAscii) then hex
    else if 128 ≤ c.toNat && style.isEncoded then octets (String.singleton c)
    else [c]

def quotedText (style : Style) (text : Octets) : Octets :=
  ['\x22'] ++ text.flatMap (quotedChar style) ++ ['\x22']

def bracketed (style : Style) (depth : Nat) (first last : Char) (parts : List Octets) : Octets :=
  let line (depth : Nat) : Octets :=
    if style.isIndented then '\n' :: List.replicate (style.indent * depth) ' ' else []
  if parts.isEmpty then [first, last]
  else
    [first] ++ line (depth + 1) ++ List.intercalate (',' :: line (depth + 1)) parts ++ line depth ++
      [last]

def entryText (style : Style) (key value : Octets) : Octets :=
  quotedText style key ++ (if style.spacesBefore then [' '] else []) ++ [':'] ++
    (if style.spacesAfter then [' '] else []) ++ value

end Document

end NextRelease.Shell.Perl
