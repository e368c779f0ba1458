import NextRelease.Shell.Perl.Token

/-!
What reading a script needs: the place in its text, the operators with their levels, the functions
by their kinds, and the forms of names, numbers and documents.
-/

namespace NextRelease.Shell.Perl

inductive Unreadable where
  | fatal (text : Octets)
  | mistakes (text : Octets)

def Unreadable.message (isCheck : Bool) (file : Octets) : Unreadable → Octets
  | .fatal text => text
  | .mistakes text =>
    text ++ if isCheck then file ++ " had compilation errors.\n".toList
      else "Execution of ".toList ++ file ++ " aborted due to compilation errors.\n".toList

def Unreadable.text : Unreadable → Octets
  | .fatal text | .mistakes text => text

structure Reading where
  text : Octets
  line : Nat := 1
  file : Octets
  last : Octets := []
  isQuoted : Bool := false
  functions : List Octets := []
  braces : Nat := 0
  constants : List Octets := []
  defined : List Octets := []
  package : Octets := "main".toList
  isStrict : Bool := false
  declared : List (Octets × Option Octets) := []
  problems : Octets := []
  cautions : Octets := []
  passed : Nat := 3
  words : List (Octets × Nat) := []
  places : Nat := 0

abbrev Read := ExceptT Unreadable (StateM Reading)

namespace Read

/-- Passes blanks, comments and documentation. -/
def passBlanks : (fuel : Nat) → (line : Nat) → (startsLine : Bool) → Octets → Octets × Nat
  | 0, line, _, cs => (cs, line)
  | fuel + 1, line, startsLine, cs =>
    match cs with
    | '\n' :: rest => passBlanks fuel (line + 1) true rest
    | '#' :: rest => passBlanks fuel line false (rest.dropWhile (· != '\n'))
    | '=' :: c :: rest =>
      if startsLine && c.isAlpha then
        let docs := linesUpToCut (c :: rest)
        passBlanks fuel (line + docs.2) true docs.1
      else (cs, line)
    | c :: rest => if isSpaceChar c then passBlanks fuel line false rest else (cs, line)
    | [] => ([], line)
where
  linesUpToCut (cs : Octets) : Octets × Nat :=
    let all := lines cs
    let docs := all.takeWhile fun line => !("=cut".toList.isPrefixOf line)
    (all.drop (docs.length + 1) |>.flatten, docs.length + 1)

def skip : Read Unit := modify fun r =>
  let (text, line) := passBlanks (r.text.length + 1) r.line false r.text
  { r with text, line }

def rest : Read Octets := return (← get).text

def setRest (text : Octets) : Read Unit := modify fun r => { r with text }

def advance (count : Nat) : Read Unit := modify fun r =>
  let isClose := r.text.head? = some '(' && r.last.head?.any isNameStart &&
    ((r.last.drop (wordAhead r.last).length).dropWhile isSpaceChar).length = r.text.length
  { r with
    last := if isClose then r.last else r.text
    passed := r.passed + 1
    text := r.text.drop count, line := r.line + (r.text.take count).count '\n' }

def mark (text : Octets) : Read Unit := modify fun r => { r with last := text }

def newPlace : Read Nat := do
  modify fun r => { r with places := r.places + 1 }
  return (← get).places

def position : Read Octets := do
  let r ← get
  return " at ".toList ++ r.file ++ " line ".toList ++ natText r.line

def failWith {α : Type} (text : Octets) : Read α := do
  throw (.fatal (text ++ (← position) ++ ['.', '\n']))

def complain (text : Octets) : Read Unit := do
  modify fun r => { r with problems := r.problems ++ text }

def nearby (r : Reading) : Octets × Octets :=
  let size := tokenSize r.text
  let token := r.text.take size ++ (if r.text.head? = some ')' && size = r.text.length then ['\n']
    else [])
  let front := r.last.take (r.last.length - r.text.length)
  if front.contains '\n' || 200 ≤ front.length + token.length then (token, [])
  else (front ++ token, front)

def nearText : Read Octets := do
  skip
  let r ← get
  return if r.text.isEmpty then ", at EOF\n".toList
    else ", near \"".toList ++ (nearby r).1 ++ "\"\n".toList

def openMessage : Read Octets := do
  let r ← get
  if r.braces = 0 then return []
  return "Missing right curly or square bracket".toList ++ (← position) ++
    if r.isQuoted then ", within string\n".toList else ", at end of line\n".toList

def errorMessage : Read Octets := do
  let near ← nearText
  if (← get).passed < 3 then return []
  return "syntax error".toList ++ (← position) ++ near

def refuse {α : Type} : Read α := do
  skip
  let r ← get
  let message ← errorMessage
  if r.text.isEmpty then throw (.mistakes (message ++ (← openMessage)))
  if r.text.head? = some '\x7d' && r.braces = 0 then
    throw (.mistakes ("Unmatched right curly bracket".toList ++ (← position) ++
      ", at end of line\n".toList ++ message))
  throw (.mistakes message)

def refuseEnd {α : Type} : Read α := do
  let brace ← openMessage
  throw (.mistakes (brace ++ (← errorMessage)))

/-- Refuses what comes next where only an operator can stand. -/
def refuseOperand {α : Type} : Read α := do
  skip
  let r ← get
  match operandKind? r.text with
  | none => refuse
  | some kind => do
    let (near, front) := nearby r
    let place ← position
    let w := wordAhead front
    let gap := (front.reverse.takeWhile isSpaceChar).reverse
    let hint := if front.isEmpty then "\t(Missing semicolon on previous line?)\n".toList
      else if !w.isEmpty then
        if (front.drop w.length).head?.any isSpaceChar then
          "\t(Do you need to predeclare ".toList ++ w ++ "?)\n".toList
        else []
      else "\t(Missing operator before ".toList ++ gap ++ r.text.take (tokenSize r.text) ++
        "?)\n".toList
    modify fun r => { r with cautions := r.cautions ++ kind.toList ++
      " found where operator expected".toList ++ place ++ ", near \"".toList ++ near ++
      "\"\n".toList ++ hint }
    refuse

def passRest : (fuel : Nat) → Read Unit
  | 0 => return ()
  | fuel + 1 => do
    skip
    match (← get).text with
    | [] => throw (.mistakes [])
    | ';' :: _ => do
      advance 1
      modify fun r => { r with passed := 1 }
    | '\x7d' :: _ => modify fun r => { r with passed := 1 }
    | c :: cs => do
      let opened := if c = '\x7b' || c = '[' then 1 else 0
      advance (max 1 (tokenSize (c :: cs)))
      modify fun r => { r with braces := r.braces + opened }
      passRest fuel

def passMistake (problem : Unreadable) : Read Unit := do
  match problem with
  | .fatal text => throw (.fatal text)
  | .mistakes text => do
    complain text
    passRest ((← get).text.length + 1)

def apart {α : Type} (isQuoted : Bool) (text : Octets) (read : Read α) : Read α := do
  let before ← get
  set { before with text, last := [], isQuoted }
  let result ← tryCatch (.ok <$> read) fun problem => pure (Except.error problem)
  modify fun r => { r with
    text := before.text, line := before.line, last := before.last, isQuoted := before.isQuoted }
  match result with
  | .ok a => return a
  | .error problem => throw problem

def sees (text : String) : Read Bool := do
  skip
  return text.toList.isPrefixOf (← get).text

def accept (text : String) : Read Bool := do
  if ← sees text then
    advance text.length
    return true
  return false

def expect (text : String) : Read Unit := do
  if !(← accept text) then
    if text = "\x7d" && (← rest).isEmpty then refuseEnd
    if ["(", "\x7b"].contains text then refuse else refuseOperand

def openBracket (text : String) : Read Unit := do
  expect text
  modify fun r => { r with braces := r.braces + 1 }

def closeBracket (text : String) : Read Unit := do
  expect text
  modify fun r => { r with braces := r.braces - 1 }

def word : Read Octets := do
  skip
  return wordAhead (← get).text

def acceptWord (text : String) : Read Bool := do
  if (← word) = text.toList then
    advance text.length
    return true
  return false

def readDelimited : Read (Char × Octets) := do
  skip
  match (← get).text with
  | [] => refuse
  | c :: cs =>
    match delimited c (cs.length + 1) 0 cs with
    | some (text, rest) => do
      advance (1 + cs.length - rest.length)
      return (c, text)
    | none =>
      failWith ("Can't find string terminator ".toList ++ (if c = '\x22' then "'\"'".toList
        else ['\x22', closing c, '\x22']) ++ " anywhere before EOF".toList)

def readLetters : Read Octets := do
  let letters := (← get).text.takeWhile Char.isAlpha
  advance letters.length
  return letters

/-- Whether what comes next ends a list. -/
def atListEnd : Read Bool := do
  skip
  let text ← rest
  let w := String.ofList (wordAhead text)
  let ends := match text with
    | [] => true
    | c :: cs =>
      ")]\x7d;:?,".toList.contains c || (c = '=' && cs.head? != some '~') ||
        "||".toList.isPrefixOf text || "&&".toList.isPrefixOf text ||
          (c = '.' && !(cs.head?.any Char.isDigit))
        || (c = '*') || "==".toList.isPrefixOf text || "!=".toList.isPrefixOf text ||
        "=~".toList.isPrefixOf text || (c = '>')
  let isTimes := w = "x" && !((text.drop 1).dropWhile isSpaceChar).head?.any (";,)".toList.contains ·)
  return ends || isTimes || ["if", "unless", "while", "until", "for", "foreach", "or", "and", "eq",
    "ne", "lt", "gt", "le", "ge", "cmp", "xor"].contains w

def declare (sigil : Sigil) (name : Octets) : Read Unit :=
  modify fun r => { r with declared := (sigil.char :: name, none) :: r.declared }

def isFree (name : Octets) : Bool :=
  !(name.head?.any isNameStart) || name.contains ':' ||
    ["_", "a", "b", "ENV", "ARGV", "INC", "SIG", "STDIN", "STDOUT", "STDERR", "F", "ARGVOUT"].contains
      (String.ofList name)

def check (sigil : Sigil) (name : Octets) : Read Unit := do
  let r ← get
  let full := sigil.char :: name
  if r.isStrict && !isFree name && (r.declared.lookup full).isNone && sigil != .code then
    complain ("Global symbol \"".toList ++ full ++
      "\" requires explicit package name (did you forget to declare \"my ".toList ++ full ++
      "\"?)".toList ++ (← position) ++ ".\n".toList)

def noteWord (w : Octets) : Read Unit := modify fun r =>
  if r.isStrict && !(w.head?.any fun c => c = '-') then { r with words := (w, r.line) :: r.words }
  else r

def allowWord (w : Octets) : Read Unit := modify fun r =>
  { r with words := (r.words.takeWhile fun entry => entry.1 != w) ++
      (r.words.dropWhile fun entry => entry.1 != w).drop 1 }

def wordMessages (r : Reading) : Octets :=
  r.words.reverse.flatMap fun (w, line) => "Bareword \"".toList ++ w ++
    "\" not allowed while \"strict subs\" in use at ".toList ++ r.file ++ " line ".toList ++
    natText line ++ ".\n".toList

def mainPackage : Octets := "main".toList

def within (package name : Octets) : Octets :=
  if package = mainPackage || name.contains ':' then name
  else package ++ "::".toList ++ name

def functionName (name : Octets) : Read Octets := do
  if "main::".toList.isPrefixOf name then return name.drop 6
  if "::".toList.isPrefixOf name then return name.drop 2
  return within (← get).package name

def known (sigil : Sigil) (name : Octets) : Read Expr := do
  check sigil name
  let r ← get
  match r.declared.lookup (sigil.char :: name) with
  | some none => return .named sigil name
  | some (some full) => return .named sigil full
  | none => return .named sigil (if isFree name then name else within r.package name)

end Read

open Read

def isLabel (w after : Octets) : Bool :=
  !w.isEmpty && !w.contains ':' && !quotingWords.contains (String.ofList w) &&
    after.head? = some ':' && (after.drop 1).head? != some ':'

def bareKey? (text : Octets) : Option (Octets × Octets) :=
  let inner := text.dropWhile isSpaceChar
  let sign := inner.takeWhile (· == '-')
  let name := wordAhead (inner.drop sign.length)
  let after := (inner.drop (sign.length + name.length)).dropWhile isSpaceChar
  match after with
  | '\x7d' :: rest => if name.isEmpty || 1 < sign.length then none else some (sign ++ name, rest)
  | _ => none

def variableName (text : Octets) : Octets :=
  let text' := if "::".toList.isPrefixOf text then text.drop 2 else text
  let front := text.take (text.length - text'.length)
  match wordAhead text' with
  | [] =>
    match text with
    | '^' :: c :: _ => if c.isUpper then ['^', c] else []
    | c :: cs =>
      if c.isDigit then c :: cs.takeWhile Char.isDigit
      else if "&@!,.;/\\0|\x22<>()[]+-~=%:?\x27".toList.contains c || isBackquote c then [c]
      else []
    | [] => []
  | w => front ++ w

def hereBody (ending : Octets) (indented : Bool) (text : Octets) : List Octets × Octets :=
  let all := lines text
  let isEnd (line : Octets) : Bool :=
    let bare := withoutBreak line
    (if indented then bare.dropWhile isSpaceChar else bare) == ending
  let body := all.takeWhile fun line => !isEnd line
  (body, (all.drop (body.length + 1)).flatten)

def unindented (body : List Octets) : List Octets :=
  let margins := (body.filter fun line => !line.all isSpaceChar).map fun line =>
    (line.takeWhile fun c => c == ' ' || c == '\t').length
  let margin := (margins.min?).getD 0
  body.map fun line => line.drop (min margin (line.takeWhile fun c => c == ' ' || c == '\t').length)

def isIndex (inPattern : Bool) (text : Octets) : Bool :=
  let inner := text.takeWhile (· != ']')
  let digits := if inner.head? = some '-' then inner.drop 1 else inner
  let isPlain := isNumber digits ||
    (inner.head? = some '$' && !(inner.drop 1).isEmpty && (inner.drop 1).all isNameChar)
  isPlain || (!inPattern && (inner.head? = some '$' || digits.head?.any Char.isDigit))

def isBounds (text : Octets) : Bool :=
  let inner := text.takeWhile (· != '\x7d')
  !inner.isEmpty && inner.all fun c => c.isDigit || c == ','

def behindCommas : (fuel : Nat) → Octets → Octets
  | 0, cs => cs
  | fuel + 1, cs =>
    match cs.dropWhile isSpaceChar with
    | ',' :: rest => behindCommas fuel rest
    | '=' :: '>' :: rest => behindCommas fuel rest
    | _ => cs

def passCommas : Read Unit := do
  let text ← rest
  advance (text.length - (behindCommas (text.length + 1) text).length)
  skip

/-- Reads a decimal, which may have a fraction and a power of ten. -/
def readDecimal (text : Octets) : Read Expr := do
  let isPart (c : Char) : Bool := c.isDigit || c == '_'
  let front := text.takeWhile isPart
  let more := text.drop front.length
  let back := match more with
    | '.' :: '.' :: _ => []
    | '.' :: cs => '.' :: cs.takeWhile isPart
    | _ => []
  let more := more.drop back.length
  let power := match more with
    | e :: cs =>
      if e = 'e' || e = 'E' then
        let sign := cs.takeWhile fun c => c == '-' || c == '+'
        let digits := (cs.drop sign.length).takeWhile Char.isDigit
        if digits.isEmpty || 1 < sign.length then [] else e :: sign ++ digits
      else []
    | [] => []
  let spelled := front ++ back ++ power
  advance spelled.length
  let plain := spelled.filter fun c => c != '_'
  return .value (cutQuantity plain).1.toScalar

def readNumber : Read Expr := do
  let text ← rest
  let spelled (base drop : Nat) : Read Expr := do
    let all := (text.drop drop).takeWhile fun c => (Sum.digitOf? 16 c).isSome || c == '_'
    let digits := all.filter fun c => c != '_'
    let mine := digits.takeWhile fun c => (Sum.digitOf? base c).isSome
    advance (drop + all.length)
    return .value (Quantity.ofInt (Sum.valueOf base mine)).toScalar
  match text with
  | '0' :: 'x' :: _ | '0' :: 'X' :: _ => spelled 16 2
  | '0' :: 'o' :: _ => spelled 8 2
  | '0' :: 'b' :: _ | '0' :: 'B' :: _ => do
    let all := (text.drop 2).takeWhile fun c => c == '0' || c == '1' || c == '_'
    advance (2 + all.length)
    return .value (Quantity.ofInt (Sum.valueOf 2 (all.filter fun c => c != '_'))).toScalar
  | '0' :: c :: _ => if c.isDigit then spelled 8 1 else readDecimal text
  | _ => readDecimal text

def readNames : (fuel : Nat) → Read (Sigil × Octets) → Read (List (Sigil × Octets))
  | 0, _ => refuse
  | fuel + 1, one => do
    if ← accept ")" then return []
    if ← acceptWord "undef" then
      let _ ← accept ","
      return (.scalar, "undef ".toList) :: (← readNames fuel one)
    let name ← one
    let _ ← accept ","
    return name :: (← readNames fuel one)

def isOperatorWord (text : Octets) : Bool :=
  ["x", "eq", "ne", "lt", "gt", "le", "ge", "cmp", "if", "unless", "for", "foreach", "and", "or",
    "while", "until", "xor"].contains (String.ofList (wordAhead text))

def readReplacement (c : Char) : Read (Char × Octets) := do
  if closing c != c then readDelimited
  else
    let text ← rest
    match delimited c (text.length + 1) 0 text with
    | some (inner, after) => do
      advance (text.length - after.length)
      return (c, inner)
    | none =>
      failWith "Substitution replacement not terminated".toList

def isTaking : Expr → Bool
  | .readLine _ => true
  | .builtin name _ => name = "readdir" || name = "glob"
  | _ => false

def whileCondition (e : Expr) : Expr := match e with
  | .assign target source =>
    if isTaking source && !target.isPlural then .builtin "defined" [e] else e
  | e => if isTaking e then .builtin "defined" [.assign .topic e] else e

def endStatement : Read Unit := do
  skip
  match ← rest with
  | [] | '\x7d' :: _ => pure ()
  | ';' :: _ => advance 1
  | _ => refuseOperand

def readOwnName : Read (Sigil × Octets) := do
  skip
  match ← rest with
  | c :: cs =>
    let name := wordAhead cs
    let sigil : Option Sigil := match c with
      | '$' => some .scalar
      | '@' => some .list
      | '%' => some .table
      | _ => none
    match sigil with
    | some sigil =>
      if name.isEmpty then refuse
      advance (1 + name.length)
      return (sigil, name)
    | none => do
      let w := wordAhead (c :: cs)
      if !w.isEmpty then
        let place ← position
        advance w.length
        let next := ((← rest).dropWhile isSpaceChar).take 1
        let near := ", near \"my ".toList ++ w
        throw (.mistakes ("No such class ".toList ++ w ++ place ++ near ++ "\"\n".toList ++
          "syntax error".toList ++ place ++ near ++ ' ' :: next ++ "\"\n".toList))
      refuse
  | [] => refuse

/-- Reads the names behind `my`. -/
def readOwn (shared : Bool) : Read Expr := do
  let finish (names : List (Sigil × Octets)) (inList : Bool) : Read Expr := do
    if shared then
      let package := (← get).package
      let full (name : Octets) : Octets := if isFree name then name else within package name
      modify fun r => { r with declared := (names.map fun (sigil, name) =>
        (sigil.char :: name, some (full name))) ++ r.declared }
      match names, inList with
      | [(sigil, name)], false => return .named sigil (full name)
      | names, _ => return .list (names.map fun (sigil, name) => .named sigil (full name))
    else
      names.forM fun (sigil, name) => declare sigil name
      return .own names inList
  if ← accept "(" then
    let names ← readNames ((← rest).length + 1) readOwnName
    finish names true
  else
    let name ← readOwnName
    finish [name] false

def readSignature : Read (List Statement) := do
  let text ← rest
  let inner := text.takeWhile (· != ')')
  if inner.any isNameStart then
    let line := (← get).line
    let names ← readNames (inner.length + 1) do
      let name ← readOwnName
      declare name.1 name.2
      return name
    return [.expression line (.assign (.own names true) (.named .list ['_']))]
  else
    advance (inner.length + 1)
    return []

def opensTable (text : Octets) : Bool :=
  let inner := (text.drop 1).dropWhile isSpaceChar
  let quoted (quote : Char) : Octets :=
    inner.take (((inner.drop 1).takeWhile (· != quote)).length + 2)
  let key := match inner.head? with
    | some '\x27' => quoted '\x27'
    | some '\x22' => quoted '\x22'
    | _ => inner.takeWhile isNameChar
  let after := (inner.drop key.length).dropWhile isSpaceChar
  let isPair := "=>".toList.isPrefixOf after ||
    (after.head? = some ',' && !(key.head?.any Char.isLower))
  (!key.isEmpty && isPair) || inner.head? = some '\x7d'

end NextRelease.Shell.Perl
