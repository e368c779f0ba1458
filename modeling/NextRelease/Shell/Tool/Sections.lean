import NextRelease.Shell.Format
import NextRelease.Shell.Tool.Lines
import NextRelease.Shell.Tool.Regex
import NextRelease.Shell.Octets

/-!
Cutting a text into sections that are files of their own, where lines of some numbers stand or lines
that some expressions match.
-/

namespace NextRelease.Shell.Tool

namespace Sections

inductive Goal where
  | line (number : Nat)
  | found (regex : Regex) (offset : Int) (isPassed : Bool)

structure Pattern where
  text : Octets
  goal : Goal
  repeats : Option Nat := some 0

def Pattern.isPassed (p : Pattern) : Bool :=
  match p.goal with
  | .line _ => false
  | .found _ _ isPassed => isPassed

/-! ## Patterns -/

def whole? (text : Octets) : Option Int :=
  let text := text.dropWhile fun c => c == ' ' || (9 ≤ c.toNat && c.toNat ≤ 13)
  let digits := match text with
    | '+' :: cs | '-' :: cs => cs
    | cs => cs
  if isNumber digits && readNat digits < 9223372036854775808 then
    some (if text.head? == some '-' then -(readNat digits : Int) else readNat digits)
  else none

def readExpression (mark : Char) (word rest : Octets) : Except Octets Goal :=
  if !rest.contains mark then
    .error (word ++ ": closing delimiter '".toList ++ mark :: "' missing".toList)
  else
    let offset := (rest.reverse.takeWhile (· != mark)).reverse
    let text := rest.take (rest.length - offset.length - 1)
    match Regex.read .basic (Wide.ofOctets text) with
    | .error reason =>
      .error (inQuotes word ++ ": invalid regular expression: ".toList ++ reason.toList)
    | .ok regex =>
      match if offset.isEmpty then some 0 else whole? offset with
      | some n => .ok (.found regex n (mark == '%'))
      | none => .error (inQuotes word ++ ": integer expected after delimiter".toList)

def readRepeats (word : Octets) : Except Octets (Option Nat) :=
  if word.getLast? != some '\x7d' then
    .error (inQuotes word ++ ": '\x7d' is required in repeat count".toList)
  else
    let inner := (word.drop 1).dropLast
    if inner == ['*'] then .ok none
    else
      match whole? inner with
      | some (.ofNat n) => .ok (some n)
      | _ =>
        .error (inQuotes word.dropLast ++
          "\x7d: integer required between '\x7b' and '\x7d'".toList)

/-- Reads the patterns of a call, and the warnings on them; `last` is the line number of the
pattern before. -/
def readPatterns : (fuel last : Nat) → List Octets → List Octets × Except Octets (List Pattern)
  | 0, _, _ | _, _, [] => ([], .ok [])
  | fuel + 1, last, word :: words =>
    let goOn (last : Nat) (goal : Goal) : List Octets × Except Octets (List Pattern) :=
      match words with
      | ('\x7b' :: cs) :: words =>
        match readRepeats ('\x7b' :: cs) with
        | .error text => ([], .error text)
        | .ok repeats =>
          let (warnings, rest) := readPatterns fuel last words
          (warnings, rest.map (⟨word, goal, repeats⟩ :: ·))
      | words =>
        let (warnings, rest) := readPatterns fuel last words
        (warnings, rest.map (⟨word, goal, some 0⟩ :: ·))
    match word with
    | '/' :: rest | '%' :: rest =>
      match readExpression (word.head?.getD '/') word rest with
      | .error text => ([], .error text)
      | .ok goal => goOn last goal
    | _ =>
      match whole? word with
      | some (.ofNat n) =>
        if n = 0 then ([], .error (word ++ ": line number must be greater than zero".toList))
        else if n < last then
          ([], .error ("line number ".toList ++ inQuotes word ++
            " is smaller than preceding line number, ".toList ++ natText last))
        else
          let (warnings, patterns) := goOn n (.line n)
          let warning := "warning: line number ".toList ++ inQuotes word ++
            " is the same as preceding line number".toList
          (if n = last then warning :: warnings else warnings, patterns)
      | _ => ([], .error (inQuotes word ++ ": invalid pattern".toList))

/-! ## Cutting -/

structure Cutting where
  rest : List Octets
  first : Nat := 1
  current : Nat := 0
  piece? : Option (List Octets) := none
  sections : List Octets := []
  dropsMatched : Bool := false

inductive Ending where
  | done
  | refused (reason : Octets)
  | disappeared

abbrev Cut := ExceptT Ending (StateM Cutting)

def start : Cut Unit := modify fun c => { c with piece? := some [] }

def Cutting.close (c : Cutting) : Cutting :=
  match c.piece? with
  | some lines => { c with piece? := none, sections := lines.reverse.flatten :: c.sections }
  | none => c

def close : Cut Unit := modify Cutting.close

def Cutting.line? (c : Cutting) (number : Nat) : Option Octets :=
  if number < c.first then none else c.rest[number - c.first]?

def take : Cut (Option Octets) := do
  let c ← get
  match c.rest with
  | [] => return none
  | line :: rest => do
    set { c with rest, first := c.first + 1, current := max c.current c.first }
    return some line

def save (line : Octets) : Cut Unit :=
  modify fun c => { c with piece? := c.piece?.map (line :: ·) }

def saveRest : Cut Unit :=
  modify fun c =>
    { c with piece? := c.piece?.map (c.rest.reverse ++ ·), rest := []
             first := c.first + c.rest.length
             current := max c.current (c.first + c.rest.length - 1) }

def outOfRange : Octets := ": line number out of range".toList

def onRepetition (repetition : Nat) : Octets :=
  if repetition = 0 then [] else " on repetition ".toList ++ natText repetition

def saveLines (refusal : Octets) : (count : Nat) → Cut Unit
  | 0 => return
  | count + 1 => do
    match ← take with
    | some line => do
      save line
      saveLines refusal count
    | none => throw (.refused refusal)

def firstLine : Cut Nat := do
  let c ← get
  if c.rest.isEmpty then throw .disappeared
  return c.first

def cutAtLine (number repetition : Nat) : Cut Unit := do
  let refusal := inQuotes (natText number) ++ outOfRange ++ onRepetition repetition
  let isAtEnd : Cut Bool := return ((← get).line? ((← get).current + 1)).isNone
  start
  let drops := (← get).dropsMatched
  if drops && (← isAtEnd) then throw (.refused refusal)
  let first ← firstLine
  saveLines refusal (number * (repetition + 1) - first)
  close
  if drops then
    let _ ← take
  else if ← isAtEnd then throw (.refused refusal)

/-- Looks for a line that matches, from the one behind the last one that was looked at; unless the
lines are to be kept, those in front of it are taken meanwhile. -/
def seek (regex : Regex) (keeps : Bool) (giveUp : Cut Unit) : (fuel : Nat) → Cut Unit
  | 0 => giveUp
  | fuel + 1 => do
    modify fun c => { c with current := c.current + 1 }
    let c ← get
    match c.line? c.current with
    | none => giveUp
    | some line =>
      if (Regex.find? { isWide := true } regex (Wide.ofOctets (withoutBreak line)) none).isSome then
        return
      else
        if !keeps then
          if let some line := ← take then save line
        seek regex keeps giveUp fuel

def cutAtMatch (p : Pattern) (regex : Regex) (offset : Int) (isPassed : Bool) (repetition : Nat) :
    Cut Unit := do
  if !isPassed then start
  let fail : Cut Unit := do
    saveRest
    close
    if p.repeats.isNone then throw .done
    throw (.refused (inQuotes p.text ++ ": match not found".toList ++ onRepetition repetition))
  seek regex (offset < 0) fail ((← get).rest.length + 1)
  let goal := ((← get).current : Int) + offset
  let refusal := inQuotes p.text ++ outOfRange
  let first ← firstLine
  if goal < first then throw (.refused refusal)
  saveLines refusal (goal.toNat - first)
  close
  if 0 < offset then modify fun c => { c with current := goal.toNat }
  if (← get).dropsMatched then
    let _ ← take

def cutAll (p : Pattern) : (fuel repetition : Nat) → Cut Unit
  | 0, _ => return
  | fuel + 1, repetition => do
    match p.goal with
    | .line number => cutAtLine number repetition
    | .found regex offset isPassed => cutAtMatch p regex offset isPassed repetition
    if p.repeats != some repetition then cutAll p fuel (repetition + 1)

def sections (patterns : List Pattern) (dropsMatched : Bool) (text : Octets) :
    List Octets × Ending :=
  let all := lines text
  let cut : Cut Unit := do
    patterns.forM fun p =>
      cutAll p (match p.repeats with
        | some n => n + 1
        | none => all.length + 2) 0
    start
    saveRest
    close
  let (result, c) := (cut.run.run { rest := all, dropsMatched } : Except Ending Unit × Cutting)
  (c.close.sections.reverse, match result with
    | .error ending => ending
    | .ok () => .done)

/-! ## Names -/

structure Naming where
  before : Octets := []
  directive : Directive
  behind : Octets := []

def Naming.ending (naming : Naming) (n : Nat) : Octets :=
  let d := naming.directive
  let number := if d.conversion = 'd' || d.conversion = 'i' || d.conversion = 'u' then d.whole n
    else d.unsigned n
  naming.before ++ number ++ naming.behind

def plainPart : Octets → Octets × Octets
  | '%' :: '%' :: cs =>
    let (front, rest) := plainPart cs
    ('%' :: front, rest)
  | '%' :: cs => ([], '%' :: cs)
  | c :: cs =>
    let (front, rest) := plainPart cs
    (c :: front, rest)
  | [] => ([], [])

def readNaming (text : Octets) : Except Octets Naming := do
  let (before, rest) := plainPart text
  match rest with
  | [] => throw "missing % conversion specification in suffix".toList
  | _ :: rest =>
    let flags := rest.takeWhile "-0'#".toList.contains
    let after := (rest.drop flags.length).dropWhile Char.isDigit
    let after := match after with
      | '.' :: cs => cs.dropWhile Char.isDigit
      | cs => cs
    match after with
    | [] => throw "missing conversion specifier in suffix".toList
    | c :: cs =>
      if !"diuoxX".toList.contains c then
        let shown := if 32 ≤ c.toNat && c.toNat < 127 then [c] else
          let digits := Nat.toDigits 8 c.toNat
          '\\' :: List.replicate (3 - digits.length) '0' ++ digits
        throw ("invalid conversion specifier in suffix: ".toList ++ shown)
      let refused := if "diu".toList.contains c then '#' else '\x27'
      if flags.contains refused then
        throw ("invalid flags in conversion specification: %".toList ++ [refused, c])
      let (behind, more) := plainPart cs
      if !more.isEmpty then throw "too many % conversion specifications in suffix".toList
      let written := (rest.take (rest.length - after.length)).filter (· != '\x27')
      let (directive, _, _) := readDirective written []
      return { before, directive := { directive with conversion := c }, behind }

def flags : List Flag :=
  [⟨'f', "prefix", true⟩, ⟨'b', "suffix-format", true⟩, ⟨'k', "keep-files", false⟩,
    ⟨'n', "digits", true⟩, ⟨'q', "quiet", false⟩, ⟨'s', "silent", false⟩,
    ⟨'z', "elide-empty-files", false⟩, ⟨'m', "suppress-matched", false⟩]

def write (name : Octets) (path : Nat → Octets) (options : Options) :
    (made : Nat) → List Octets → Act (List Octets × Bool)
  | _, [] => return ([], true)
  | made, text :: texts => do
    if text.isEmpty && options.has 'z' then return ← write name path options made texts
    match ← writeFile (path made) text with
    | .error fault => do
      fail 1 name (about (path made) fault)
      return ([], false)
    | .ok () => do
      if !options.has 'q' && !options.has 's' then print (natText text.length ++ ['\n'])
      let (paths, isDone) ← write name path options (made + 1) texts
      return (path made :: paths, isDone)

def remove (paths : List Octets) : Act Unit :=
  paths.forM fun path => do
    let _ ← changeFiles fun m => m.files.removeFile (m.route path)

def namingOf (options : Options) : Except Octets Naming := do
  let digits ← match options.value? 'n' with
    | none => pure 2
    | some text =>
      match whole? text with
      | some (.ofNat n) => pure n
      | _ => throw ("invalid number: ".toList ++ inQuotes text)
  match options.value? 'b' with
  | some text => readNaming text
  | none => readNaming ("%0".toList ++ natText digits ++ ['d'])

end Sections

def csplit : Tool :=
  withOptions false Sections.flags 1 fun name options operands => do
    match Sections.namingOf options, operands with
    | .error text, _ => fail 1 name text
    | .ok _, [] => misuse 1 name "missing operand".toList
    | .ok _, [word] => misuse 1 name ("missing operand after ".toList ++ inQuotes word)
    | .ok naming, source :: words =>
      let refuse (reason : Octets) : Act Unit :=
        fail 1 name ("cannot open ".toList ++ shellQuoted source ++ " for reading: ".toList ++
          reason)
      let input ← content source
      match input with
      | .error (.file .isADirectory) | .ok _ => pure ()
      | .error fault =>
        refuse fault.text
        return
      let (warnings, patterns) := Sections.readPatterns (words.length + 1) 0 words
      warnings.forM (report name)
      match patterns, input with
      | .error text, _ => fail 1 name text
      | .ok patterns, .error _ =>
        fail 1 name "read error: Is a directory".toList
        if !(patterns.head?.any Sections.Pattern.isPassed || options.has 'q' ||
          options.has 's') then
          print ['0', '\n']
      | .ok patterns, .ok text =>
        let (texts, ending) := Sections.sections patterns (options.has 'm') text
        let front := (options.value? 'f').getD "xx".toList
        let path (n : Nat) : Octets := front ++ naming.ending n
        match ending with
        | .disappeared =>
          fail 1 name "input disappeared".toList
          let _ ← Sections.write name path (options ++ [('s', [])]) 0 texts
        | .done =>
          let (paths, isDone) ← Sections.write name path options 0 texts
          if !isDone && !options.has 'k' then Sections.remove paths
        | .refused reason =>
          fail 1 name reason
          let (paths, _) ← Sections.write name path options 0 texts
          if !options.has 'k' then Sections.remove paths

end NextRelease.Shell.Tool
