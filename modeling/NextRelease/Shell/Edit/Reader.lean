import NextRelease.Shell.Edit.Basic
import NextRelease.Text.Basic

/-!
Reading scripts. A script may come in several parts; blocks and the texts of commands may go on from
one part to the next.
-/

namespace NextRelease.Shell.Edit

/-! ## Texts between delimiters -/

def cutMembers : (closing : Option Char) → Octets → Option (Octets × Octets)
  | _, [] => none
  | _, '\n' :: _ => none
  | some mark, c :: ']' :: cs =>
    if c = mark then (cutMembers none cs).map fun cut => (c :: ']' :: cut.1, cut.2)
    else (cutMembers (some mark) (']' :: cs)).map fun cut => (c :: cut.1, cut.2)
  | some mark, c :: cs => (cutMembers (some mark) cs).map fun cut => (c :: cut.1, cut.2)
  | none, ']' :: cs => some ([']'], cs)
  | none, c :: cs =>
    let opens := c = '[' && cs.head?.any ":.=".toList.contains
    match opens, cs with
    | true, mark :: cs =>
      (cutMembers (some mark) cs).map fun cut => (c :: mark :: cut.1, cut.2)
    | _, cs => (cutMembers none cs).map fun cut => (c :: cut.1, cut.2)

def cutSet (cs : Octets) : Option (Octets × Octets) :=
  let size := match cs with
    | '^' :: ']' :: _ => 2
    | '^' :: _ | ']' :: _ => 1
    | _ => 0
  (cutMembers none (cs.drop size)).map fun cut => (cs.take size ++ cut.1, cut.2)

def behindLine (cs : Octets) : Octets := cs.dropWhile (· != '\n')

/-- Splits off an expression before its delimiter, which may stand in a set of characters; or tells
what is left if it has none. -/
def cutExpression (delimiter : Char) : (fuel : Nat) → Octets → Except Octets (Octets × Octets)
  | 0, _ | _, [] => .error []
  | fuel + 1, c :: cs =>
    if c = delimiter then .ok ([], cs)
    else if c = '\\' then
      match cs with
      | [] => .error []
      | c :: cs => do
        let (text, rest) ← cutExpression delimiter fuel cs
        let pair := if c = '\n' || (c = delimiter && c != 'n') then [c] else ['\\', c]
        return (pair ++ text, rest)
    else if c = '\n' then .error (c :: cs)
    else if c = '[' then
      match cutSet cs with
      | some (inner, rest) => do
        let (text, rest) ← cutExpression delimiter fuel rest
        return (c :: inner ++ text, rest)
      | none => .error (behindLine cs)
    else do
      let (text, rest) ← cutExpression delimiter fuel cs
      return (c :: text, rest)

def cutReplacement (delimiter : Char) : Octets → Except Octets (Octets × Octets)
  | [] => .error []
  | ['\\'] => if delimiter = '\\' then .ok ([], []) else .error []
  | '\\' :: c :: cs =>
    if delimiter = '\\' then .ok ([], c :: cs)
    else do
      let (text, rest) ← cutReplacement delimiter cs
      let pair := if c = '\n' || (c = delimiter && c != '&') then [c] else ['\\', c]
      return (pair ++ text, rest)
  | c :: cs =>
    if c = delimiter then .ok ([], cs)
    else if c = '\n' then .error (c :: cs)
    else do
      let (text, rest) ← cutReplacement delimiter cs
      return (c :: text, rest)

def cutText : Octets → Octets × Octets × Bool
  | [] => ([], [], false)
  | ['\\'] => ([], [], true)
  | '\\' :: c :: cs =>
    let (text, rest, isOpen) := cutText cs
    ('\\' :: c :: text, rest, isOpen)
  | c :: cs =>
    if c = '\n' then ([], cs, false)
    else
      let (text, rest, isOpen) := cutText cs
      (c :: text, rest, isOpen)

/-! ## The reader -/

structure Style where
  isExtended : Bool := false
  isConfined : Bool := false

structure Reading where
  source : Source
  rest : Octets
  commands : List Command := []
  targets : List Octets := []
  blocks : List (Source × Nat) := []
  pending : Option Octets := none
  isQuiet : Bool := false
  isFirst : Bool := true

abbrev Read := ExceptT Mistake (StateM Reading)

def fault {α : Type} (reason : String) : Read α := do
  let r ← get
  throw (.fault r.source r.rest.length reason.toList)

def peek? : Read (Option Char) := return (← get).rest.head?

def take? : Read (Option Char) := do
  let c ← peek?
  modify fun r => { r with rest := r.rest.drop 1 }
  return c

def takeWhile (holds : Char → Bool) : Read Octets := do
  let text := (← get).rest.takeWhile holds
  modify fun r => { r with rest := r.rest.drop text.length }
  return text

def skipGaps : Read Unit := do
  let _ ← takeWhile isGap

def isSpace (c : Char) : Bool := c == ' ' || (9 ≤ c.toNat && c.toNat ≤ 13)

def readNumber : Read Nat := do
  skipGaps
  return readNat (← takeWhile Char.isDigit)

def makeExpression (style : Style) (text : Octets) (ignoresCase isByLine : Bool) :
    Read (Option Expression) := do
  if text.isEmpty then
    if ignoresCase || isByLine then fault "cannot specify modifiers on empty regexp"
    return none
  let dialect : Regex.Dialect :=
    { if style.isExtended then Regex.Dialect.extended else .strictBasic with
      refusesColons := true }
  match Regex.read dialect (Wide.ofOctets (expressionText text)) with
  | .ok regex => return some { regex, manner := { ignoresCase, isByLine, isWide := true } }
  | .error reason =>
    if reason = Regex.colonsReason then throw (.failure reason.toList)
    fault reason

def takeCut (cut : Octets → Except Octets (Octets × Octets)) (reason : String) : Read Octets := do
  match cut (← get).rest with
  | .ok (text, rest) => do
    modify fun r => { r with rest }
    return text
  | .error rest => do
    modify fun r => { r with rest }
    fault reason

def takeExpression (delimiter : Char) (reason : String) : Read Octets :=
  takeCut (fun cs => cutExpression delimiter (cs.length + 1) cs) reason

/-! ## Addresses -/

def readModifiers : (fuel : Nat) → (ignoresCase isByLine : Bool) → Read (Bool × Bool)
  | 0, ignoresCase, isByLine => return (ignoresCase, isByLine)
  | fuel + 1, ignoresCase, isByLine => do
    skipGaps
    match ← peek? with
    | some 'I' => do
      let _ ← take?
      readModifiers fuel true isByLine
    | some 'M' => do
      let _ ← take?
      readModifiers fuel ignoresCase true
    | _ => return (ignoresCase, isByLine)

def readExpressionAddress (style : Style) (delimiter : Char) : Read Address := do
  let text ← takeExpression delimiter "unterminated address regex"
  let (ignoresCase, isByLine) ← readModifiers ((← get).rest.length + 1) false false
  let expression ← makeExpression style text ignoresCase isByLine
  return .holds (expression.map fun e => { e with isBare := true })

def readAddress? (style : Style) : Read (Option Address) := do
  match ← peek? with
  | some '/' => do
    let _ ← take?
    return some (← readExpressionAddress style '/')
  | some '\\' => do
    let _ ← take?
    match ← take? with
    | none => fault "unterminated address regex"
    | some delimiter => return some (← readExpressionAddress style delimiter)
  | some '$' => do
    let _ ← take?
    return some .last
  | some '+' => do
    let _ ← take?
    return some (.after (← readNumber))
  | some '~' => do
    let _ ← take?
    return some (.multiple (← readNumber))
  | some c =>
    if !c.isDigit then return none
    let first ← readNumber
    skipGaps
    if (← peek?) != some '~' then return some (.line first)
    let _ ← take?
    let step ← readNumber
    return some (if step = 0 then .line first else .every first step)
  | none => return none

def readChoice (style : Style) : Read Choice := do
  let start ← readAddress? style
  let stop ← match start with
    | none => pure none
    | some (.after _) | some (.multiple _) =>
      fault "invalid usage of +N or ~N as first address"
    | some _ => do
      skipGaps
      if (← peek?) != some ',' then pure none
      else
        let _ ← take?
        skipGaps
        match ← readAddress? style with
        | some stop => pure (some stop)
        | none => do
          let _ ← take?
          fault "unexpected `,'"
  skipGaps
  if (← peek?) != some '!' then return { start, stop }
  let _ ← take?
  skipGaps
  if (← peek?) = some '!' then
    let _ ← take?
    fault "multiple `!'s"
  return { start, stop, negated := true }

/-! ## Commands -/

def endCommand : Read Unit := do
  skipGaps
  match ← peek? with
  | none | some '\x7d' | some '#' => return ()
  | some c => do
    let _ ← take?
    if c != '\n' && c != ';' then fault "extra characters after command"

def ended (action : Action) : Read Action := do
  endCommand
  return action

def readPath : Read Octets := do
  skipGaps
  let path ← takeWhile (· != '\n')
  if path.isEmpty then
    fault "missing filename in r/R/w/W commands"
  let _ ← take?
  return path

def readTarget : Read Octets := do
  let path ← readPath
  modify fun r => { r with targets := path :: r.targets }
  return path

def readLabel : Read Octets := do
  skipGaps
  takeWhile fun c => !isSpace c && c != ';' && c != '\x7d'

def readText (front : Octets) : Read Octets := do
  let (text, rest, isOpen) := cutText (← get).rest
  let text := front ++ text ++ ['\n']
  modify fun r => { r with rest, pending := if isOpen then some text else none }
  return plainText text

def readAddedText : Read Octets := do
  skipGaps
  match ← peek? with
  | none => fault "expected \\ after `a', `c' or `i'"
  | some '\\' => do
    let _ ← take?
    match ← peek? with
    | none => do
      modify fun r => { r with pending := some [] }
      return []
    | some '\n' => do
      let _ ← take?
      readText []
    | some _ => readText []
  | some _ => readText []

def permit (style : Style) : Read Unit := do
  if style.isConfined then fault "e/r/w commands disabled in sandbox mode"

def readFlags (style : Style) : (fuel : Nat) → (ignoresCase isByLine : Bool) → Substitution →
    Read (Substitution × Bool × Bool)
  | 0, ignoresCase, isByLine, s => return (s, ignoresCase, isByLine)
  | fuel + 1, ignoresCase, isByLine, s => do
    skipGaps
    match ← peek? with
    | none | some '\x7d' | some '#' => return (s, ignoresCase, isByLine)
    | some c => do
      if c.isDigit then
        let number ← readNumber
        if s.first.isSome then fault "multiple number options to `s' command"
        if number = 0 then fault "number option to `s' command may not be zero"
        return ← readFlags style fuel ignoresCase isByLine { s with first := some number }
      let _ ← take?
      match c with
      | '\n' | ';' => return (s, ignoresCase, isByLine)
      | 'i' | 'I' => readFlags style fuel true isByLine s
      | 'm' | 'M' => readFlags style fuel ignoresCase true s
      | 'e' => do
        permit style
        readFlags style fuel ignoresCase isByLine { s with runs := true }
      | 'p' => do
        if s.prints != .never then fault "multiple `p' options to `s' command"
        let prints := if s.runs then Printing.afterRun else .beforeRun
        readFlags style fuel ignoresCase isByLine { s with prints }
      | 'g' => do
        if s.all then fault "multiple `g' options to `s' command"
        readFlags style fuel ignoresCase isByLine { s with all := true }
      | 'w' => do
        permit style
        return ({ s with target := some (← readTarget) }, ignoresCase, isByLine)
      | _ => fault "unknown option to `s'"

def groupsOf : Regex → Nat
  | .sequence first second | .choice first second => groupsOf first + groupsOf second
  | .group _ inner => groupsOf inner + 1
  | .repeated _ _ inner => groupsOf inner
  | _ => 0

def lostGroup? (expression : Expression) (pieces : List Piece) : Option String :=
  if groupsOf expression.regex < mostGroup pieces then
    some ("invalid reference \\" ++ toString (mostGroup pieces) ++ " on `s' command's RHS")
  else none

def readSubstitution (style : Style) : Read Action := do
  let reason := "unterminated `s' command"
  match ← take? with
  | none => fault reason
  | some delimiter => do
    let text ← takeExpression delimiter reason
    let pieces := piecesOf (← takeCut (cutReplacement delimiter) reason)
    let (s, ignoresCase, isByLine) ←
      readFlags style ((← get).rest.length + 1) false false { pieces }
    let expression ← makeExpression style text ignoresCase isByLine
    match expression.bind (lostGroup? · pieces) with
    | some reason => fault reason
    | none => return .substitute { s with expression }

def readExchange : Read Action := do
  let reason := "unterminated `y' command"
  match ← take? with
  | none => fault reason
  | some delimiter => do
    let source ← takeCut (cutReplacement delimiter) reason
    let goal ← takeCut (cutReplacement delimiter) reason
    let source := Wide.ofOctets (plainText source)
    let goal := Wide.ofOctets (plainText goal)
    if source.length != goal.length then fault "strings for `y' command are different lengths"
    ended (.exchange source goal)

def versionParts (text : Octets) : List Nat :=
  if text.isEmpty then []
  else (Text.splitOn '.' text).map fun part => if isNumber part then readNat part else 1000000

def ownVersion : List Nat := [4, 9]

/-- Reads what stands behind the letter of a command. -/
def readAction (style : Style) (choice : Choice) (c : Char) : Read Action := do
  match c with
  | '\x7b' => do
    modify fun r => { r with blocks := (r.source, r.rest.length) :: r.blocks }
    return .opening
  | '\x7d' => do
    if (← get).blocks.isEmpty then fault "unexpected `\x7d'"
    if choice.start.isSome then fault "`\x7d' doesn't want any addresses"
    modify fun r => { r with blocks := r.blocks.drop 1 }
    ended .closing
  | '=' => ended .lineNumber
  | 'd' => ended .delete
  | 'D' => ended .deleteFirst
  | 'F' => ended .fileName
  | 'g' => ended (.recall false)
  | 'G' => ended (.recall true)
  | 'h' => ended (.hold false)
  | 'H' => ended (.hold true)
  | 'n' => ended .next
  | 'N' => ended .join
  | 'p' => ended .print
  | 'P' => ended .printFirst
  | 'x' => ended .swap
  | 'z' => ended .clear
  | 'l' => do
    skipGaps
    let digits ← takeWhile Char.isDigit
    ended (.list (if digits.isEmpty then none else some (readNat digits)))
  | 'q' | 'Q' => do
    if choice.stop.isSome then fault "command only uses one address"
    let status ← readNumber
    ended (.quit (c == 'q') status)
  | ':' => do
    if choice.start.isSome then fault ": doesn't want any addresses"
    let name ← readLabel
    if name.isEmpty then fault "\":\" lacks a label"
    return .label name
  | 'b' => return .jump .always (← readLabel)
  | 't' => return .jump .ifReplaced (← readLabel)
  | 'T' => return .jump .unlessReplaced (← readLabel)
  | 'a' => return .append (← readAddedText)
  | 'i' => return .insert (← readAddedText)
  | 'c' => return .change (← readAddedText)
  | 'e' => do
    permit style
    skipGaps
    match ← peek? with
    | none => return .run none
    | some '\n' => do
      let _ ← take?
      return .run none
    | some _ => return .run (some (← readText []))
  | 'r' => do
    permit style
    let isFirst := match choice.start, choice.stop with
      | some (.line 0), none => true
      | _, _ => false
    return .readFile (← readPath) isFirst
  | 'R' => do
    permit style
    return .readLine (← readPath)
  | 'w' | 'W' => do
    permit style
    return .write (← readTarget) (c == 'W')
  | 's' => readSubstitution style
  | 'y' => readExchange
  | c => fault (String.ofList ("unknown command: `".toList ++ [c, '\x27']))

def passComment : Read Unit := do
  let r ← get
  let isStart := r.isFirst && r.rest.length + 1 = r.source.text.length
  let line ← takeWhile (· != '\n')
  if isStart && line = ['n'] then modify fun r => { r with isQuiet := true }

def allowsZero (c : Char) (stop : Option Address) : Bool :=
  match stop with
  | some (.holds _) => true
  | some _ => false
  | none => c == 'r'

def readCommands (style : Style) : (fuel : Nat) → Read Unit
  | 0 => return ()
  | fuel + 1 => do
    let _ ← takeWhile fun c => isSpace c || c == ';'
    if (← peek?).isNone then return ()
    let choice ← readChoice style
    match ← take? with
    | none => fault "missing command"
    | some c => do
      match choice.start with
      | some (.line 0) =>
        if !allowsZero c choice.stop then fault "invalid usage of line address 0"
      | _ => pure ()
      if c = '#' then
        if choice.start.isSome then fault "comments don't accept any addresses"
        passComment
      else if c = 'v' then
        if ownVersion < versionParts (← readLabel) then fault "expected newer version of sed"
      else
        let action ← readAction style choice c
        modify fun r => { r with commands := { choice, action } :: r.commands }
      readCommands style fuel

def readPart (style : Style) (source : Source) : Read Unit := do
  modify fun r => { r with source, rest := source.text }
  match (← get).pending, (← get).commands with
  | some front, command :: commands => do
    let text ← readText front
    modify fun r => { r with
      commands := { command with action := command.action.withText text } :: commands }
  | _, _ => pure ()
  readCommands style (source.text.length + 2)
  modify fun r => { r with isFirst := false }

/-! ## Whole scripts -/

def lostLabels (commands : List Command) : List Octets :=
  let names := commands.filterMap fun command => match command.action with
    | .label name => some name
    | _ => none
  commands.reverse.filterMap fun command => match command.action with
    | .jump _ name => if name.isEmpty || names.contains name then none else some name
    | _ => none

/-- Reads a whole script from its parts; the files that are written to come in order, also if there
is a mistake. -/
def readScript (style : Style) (sources : List Source) :
    Except Mistake Reading × List Octets :=
  let start : Reading := { source := { text := [] }, rest := [] }
  let (result, r) := ((sources.forM (readPart style)).run).run start
  let final : Except Mistake Reading := do
    result
    match r.blocks.head? with
    | some (source, left) =>
      let reason := "unmatched `\x7b'".toList
      match source.file with
      | some _ => throw (.fault source left reason)
      | none => throw (.fault source source.text.length reason)
    | none => pure ()
    match lostLabels r.commands.reverse with
    | name :: _ => throw (.failure ("can't find label for jump to `".toList ++ name ++ ['\x27']))
    | [] => return { r with commands := r.commands.reverse }
  (final, r.targets.reverse)

end NextRelease.Shell.Edit
