import NextRelease.Shell.Tool.Basic

/-!
Paragraphs set anew. The lines of a paragraph are broken where that is best for all of them: a line
costs the more the farther it is from the width that is meant, and the more it differs from the next
one; it is good to break behind a sentence and bad to leave one word of it alone.
-/

namespace NextRelease.Shell.Tool

namespace Paragraphs

/-! ## Words -/

structure Word where
  text : Octets
  space : Nat := 0
  opens : Bool := false
  isMarked : Bool := false
  endsSentence : Bool := false
  isLast : Bool := false
  deriving Inhabited

def isMark (c : Char) : Bool := 33 ≤ c.toNat && c.toNat < 127 && !c.isAlphanum

def Word.ofText (text : Octets) : Word :=
  let back := text.reverse
  let isClosing (c : Char) : Bool := ")]'\x22".toList.contains c
  let closed := (back.take (back.length - 1)).takeWhile isClosing
  { text
    opens := text.head?.any fun c => "(['\x60\x22".toList.contains c
    isMarked := back.head?.any isMark
    endsSentence := (back.drop closed.length).head?.any ".?!".toList.contains }

/-! ## Settings -/

inductive Form where
  | plain
  | crown
  | tagged
  deriving DecidableEq

structure Settings where
  form : Form := .plain
  onlySplits : Bool := false
  isUniform : Bool := false
  width : Nat := 75
  goal : Nat := 70
  mark : Octets := []
  lead : Nat := 0
  fullLength : Nat := 0

structure Line where
  indent : Nat
  column : Nat
  rest : Octets
  hasBreak : Bool
  hasTab : Bool

def passBlanks : (column : Nat) → (hasTab : Bool) → Octets → Nat × Bool × Octets
  | column, hasTab, ' ' :: rest => passBlanks (column + 1) hasTab rest
  | column, _, '\t' :: rest => passBlanks ((column / 8 + 1) * 8) true rest
  | column, hasTab, rest => (column, hasTab, rest)

def readLine (s : Settings) (hasBreak : Bool) (text : Octets) : Line :=
  let (column, hasTab, rest) := passBlanks 0 false text
  if s.mark.isEmpty then { indent := min s.lead column, column, rest, hasBreak, hasTab }
  else
    let common := ((s.mark.zip rest).takeWhile fun pair => pair.1 == pair.2).length
    let behind := rest.drop common
    if common < s.mark.length then
      { indent := column, column := column + common, rest := behind, hasBreak, hasTab }
    else
      let (next, hasTab, behind) := passBlanks (column + common) hasTab behind
      { indent := column, column := next, rest := behind, hasBreak, hasTab }

def linesOf (s : Settings) (text : Octets) : List Line :=
  let texts := Text.splitOn '\n' text
  (texts.zipIdx 1).map fun (line, number) => readLine s (number < texts.length) line

/-! ## Costs -/

def square (n : Int) : Int := n * n

def shortCost (n : Int) : Int := square (n * 10)

def raggedCost (n : Int) : Int := shortCost n / 2

def baseCost (words : Array Word) (start : Nat) : Int :=
  let usual := square 70
  let length (i : Nat) : Int := words[i]!.text.length
  let before : Int :=
    if start = 0 then 0
    else
      let last := words[start - 1]!
      if last.endsSentence then if last.isLast then -square 50 else square 600
      else if last.isMarked then -square 40
      else if 1 < start && words[start - 2]!.isLast then square 200 / (length (start - 1) + 2)
      else 0
  let first := words[start]!
  let own : Int := if first.opens then -square 40
    else if first.isLast then square 150 / (length start + 2)
    else 0
  usual + before + own

structure Setting where
  next : Nat := 0
  length : Nat := 0
  cost : Int := 0
  deriving Inhabited

def lineCost (s : Settings) (count : Nat) (found : Array Setting) (next length : Nat) : Int :=
  if next = count then 0
  else
    let setting := found[next]!
    shortCost ((s.goal : Int) - length) +
      if setting.next = count then 0 else raggedCost ((length : Int) - setting.length)

def bestEnd (s : Settings) (words : Array Word) (found : Array Setting) (start last : Nat) :
    (fuel : Nat) → (next length : Nat) → Option Setting → Option Setting
  | 0, _, _, best => best
  | fuel + 1, next, length, best =>
    let count := words.size
    let behind := if next = count then 0 else found[next]!.cost
    let ragged := if start = 0 && 0 < last then raggedCost ((length : Int) - last) else 0
    let cost := lineCost s count found next length + behind + ragged
    let best := if best.all fun b => cost < b.cost then some ⟨next, length, cost⟩ else best
    if next = count then best
    else
      let length := length + words[next - 1]!.space + words[next]!.text.length
      if length < s.width then bestEnd s words found start last fuel (next + 1) length best
      else best

def settings (s : Settings) (firstIndent otherIndent last : Nat) (words : Array Word) :
    Array Setting :=
  let count := words.size
  (List.range count).foldl
    (fun found i =>
      let start := count - 1 - i
      let length := (if start = 0 then firstIndent else otherIndent) + words[start]!.text.length
      let best := (bestEnd s words found start last count (start + 1) length none).getD {}
      found.set! start { best with cost := best.cost + baseCost words start })
    (Array.replicate count {})

/-! ## Writing -/

structure State where
  written : List Octets := []
  usesTabs : Bool := false
  markIndent : Nat := 0
  firstIndent : Nat := 0
  otherIndent : Nat := 0
  last : Nat := 0
  words : Array Word := #[]

abbrev Work := StateM State

def put (text : Octets) : Work Unit := modify fun s => { s with written := text :: s.written }

def blanks (usesTabs : Bool) (column count : Nat) : Octets × Nat :=
  let goal := column + count
  let stop := goal / 8 * 8
  if usesTabs && column + 1 < stop then
    (List.replicate (stop / 8 - column / 8) '\t' ++ List.replicate (goal - stop) ' ', goal)
  else (List.replicate count ' ', goal)

def putLine (s : Settings) (words : List Word) (indent : Nat) : Work Unit := do
  let state ← get
  let (front, column) := blanks state.usesTabs 0 state.markIndent
  let column := column + s.mark.length
  let (gap, column) := blanks state.usesTabs column (indent - column)
  let rec line : (column : Nat) → List Word → Octets × Nat
    | column, [] => ([], column)
    | column, [word] => (word.text, column + word.text.length)
    | column, word :: rest =>
      let (room, next) := blanks state.usesTabs (column + word.text.length) word.space
      let (text, stop) := line next rest
      (word.text ++ room ++ text, stop)
  let (text, last) := line column words
  put (front ++ s.mark ++ gap ++ text ++ ['\n'])
  modify fun state => { state with last }

def putLines (s : Settings) (found : Array Setting) (stop : Nat) :
    (fuel : Nat) → (start : Nat) → Work Unit
  | 0, _ => return ()
  | fuel + 1, start => do
    if start < stop then
      let state ← get
      let next := found[start]!.next
      putLine s (state.words.extract start next).toList
        (if start = 0 then state.firstIndent else state.otherIndent)
      putLines s found stop fuel next

def settle (s : Settings) : Work (Array Setting) := do
  let state ← get
  return settings s state.firstIndent state.otherIndent state.last state.words

def splitPoint (found : Array Setting) (count : Nat) :
    (fuel : Nat) → (start : Nat) → Option (Int × Nat) → Nat
  | 0, _, best => (best.map (·.2)).getD count
  | fuel + 1, start, best =>
    if start = count then (best.map (·.2)).getD count
    else
      let next := found[start]!.next
      let saved := found[start]!.cost - if next = count then 0 else found[next]!.cost
      let best := match best with
        | some (least, place) => if saved < least then (saved, start) else (least, place)
        | none => (saved, start)
      splitPoint found count fuel next (some (best.1 + square 3, best.2))

/-- Sets the indentation of the lines behind the first one; `column` is that of the second one. -/
def setOther (s : Settings) (isSame : Bool) (column : Nat) : Work Unit :=
  modify fun state =>
    let first := state.firstIndent
    let other := if s.onlySplits then first
      else
        match s.form with
        | .crown => if isSame then column else first
        | .tagged =>
          if isSame && column != first then column
          else if state.otherIndent = first then if first = 0 then 3 else 0
          else state.otherIndent
        | .plain => first
    { state with otherIndent := other }

def room : Nat := 5000

def wordRoom : Nat := 998

def flush (s : Settings) : Work Unit := do
  let state ← get
  let count := state.words.size
  if count != 0 then
    let found ← settle s
    let second := found[0]!.next
    let point := splitPoint found count count second none
    putLines s found point count 0
    modify fun state => { state with words := state.words.extract point count }

def used (state : State) : Nat := state.words.foldl (fun n w => n + w.text.length) 0

/-- Makes room for a word; a word that is too long itself is written as far as there is no room. -/
def makeRoom (s : Settings) (column : Nat) : (fuel : Nat) → Octets → Work Octets
  | 0, word => return word
  | fuel + 1, word => do
    let state ← get
    if used state + word.length ≤ room then return word
    else
      setOther s true column
      if state.words.isEmpty then
        put (word.take room)
        makeRoom s column fuel (word.drop room)
      else
        flush s
        makeRoom s column fuel word

def takeWords (s : Settings) (hasBreak : Bool) : (fuel : Nat) → (column : Nat) → Octets → Work Unit
  | 0, _, _ => return ()
  | fuel + 1, column, text => do
    match text with
    | [] => return ()
    | c :: cs => do
      let word := c :: cs.takeWhile fun c => !(c == ' ' || (9 ≤ c.toNat && c.toNat ≤ 13))
      let start := column
      let kept ← makeRoom s start 4 word
      let column := column + kept.length
      let (next, hasTab, rest) := passBlanks column false (text.drop word.length)
      let w := Word.ofText kept
      let isEnd := rest.isEmpty
      let space := next - column
      let isLast := (isEnd && !hasBreak) || (w.endsSentence && (isEnd || 1 < space))
      let space := if isEnd || s.isUniform then if isLast then 2 else 1 else space
      modify fun state => { state with usesTabs := state.usesTabs || hasTab }
      if (← get).words.size = wordRoom then
        setOther s true next
        flush s
      modify fun state => { state with words := state.words.push { w with space, isLast } }
      takeWords s hasBreak fuel next rest

def takeLine (s : Settings) (line : Line) : Work Unit :=
  takeWords s line.hasBreak (line.rest.length + 1) line.column line.rest

def see (line : Option Line) : Work Unit :=
  modify fun state => { state with usesTabs := state.usesTabs || line.any Line.hasTab }

def isSame (s : Settings) (markIndent : Nat) (line : Line) : Bool :=
  line.indent == markIndent && line.indent + s.fullLength ≤ line.column && !line.rest.isEmpty

def takeLines (s : Settings) (indent : Nat) : List Line → Work (List Line)
  | [] => return []
  | line :: lines => do
    if isSame s (← get).markIndent line && line.column == indent then
      takeLine s line
      see lines.head?
      takeLines s indent lines
    else return line :: lines

def copyLine (s : Settings) (line : Line) : Work Unit := do
  let usesTabs := (← get).usesTabs
  let isEnd := line.rest.isEmpty && !line.hasBreak
  if line.indent < line.column || !line.rest.isEmpty then
    let (front, column) := blanks usesTabs 0 line.indent
    let mark := s.mark.take (line.column - column)
    let column := column + mark.length
    let gap := if line.rest.isEmpty then [] else (blanks usesTabs column (line.column - column)).1
    put (front ++ mark ++ gap)
    if isEnd && line.indent + s.mark.length ≤ line.column then put ['\n']
  put (line.rest ++ if line.hasBreak then ['\n'] else [])

/-- Sets all paragraphs of a text anew. -/
def setAll (s : Settings) : (fuel : Nat) → List Line → Work Unit
  | 0, _ => return ()
  | _, [] => return ()
  | fuel + 1, line :: lines => do
    if line.rest.isEmpty || line.indent < s.lead || line.column < line.indent + s.fullLength then
      copyLine s line
      see lines.head?
      setAll s fuel lines
    else
      modify fun state => { state with
        markIndent := line.indent, firstIndent := line.column, last := 0, words := #[] }
      takeLine s line
      see lines.head?
      let goesOn := lines.head?.any (isSame s line.indent)
      let column := (lines.head?.map Line.column).getD 0
      setOther s goesOn column
      let other := (← get).otherIndent
      let rest ← if s.onlySplits then pure lines
        else
          match s.form, lines with
          | .plain, _ => takeLines s other lines
          | .crown, next :: behind | .tagged, next :: behind =>
            if goesOn && (s.form = .crown || column != line.column) then do
              takeLine s next
              see behind.head?
              takeLines s other behind
            else pure lines
          | _, [] => pure []
      modify fun state => { state with
        words := state.words.modify (state.words.size - 1) fun w =>
          { w with endsSentence := true, isLast := true } }
      let found ← settle s
      putLines s found (← get).words.size (found.size + 1) 0
      setAll s fuel rest

def reset (s : Settings) (text : Octets) : Octets :=
  let lines := linesOf s text
  let start : State := { usesTabs := lines.head?.any Line.hasTab }
  (((setAll s (lines.length + 1) lines).run start).2.written.reverse).flatten

def flags : List Flag :=
  [⟨'c', "crown-margin", false⟩, ⟨'p', "prefix", true⟩, ⟨'s', "split-only", false⟩,
    ⟨'t', "tagged-paragraph", false⟩, ⟨'u', "uniform-spacing", false⟩, ⟨'w', "width", true⟩,
    ⟨'g', "goal", true⟩]

def width? (name : Octets) (most : Nat) (value : Octets) : Act (Option Nat) := do
  if isNumber value && readNat value ≤ most then return some (readNat value)
  else
    let reason := if isNumber value then ": Numerical result out of range".toList else []
    fail 1 name ("invalid width: ".toList ++ inQuotes value ++ reason)
    return none

def settingsOf (name : Octets) (options : Options) : Act (Option Settings) := do
  let mark := (options.value? 'p').getD []
  let bare := mark.dropWhile (· == ' ')
  let width ← match options.value? 'w' with
    | some value => width? name (room / 2) value
    | none => pure (some 75)
  let some width := width | return none
  let goal ← match options.value? 'g' with
    | some value => width? name width value
    | none => pure (some (width * 187 / 200))
  let some goal := goal | return none
  return some
    { form := if options.has 'c' then .crown else if options.has 't' then .tagged else .plain
      onlySplits := options.has 's'
      isUniform := options.has 'u'
      width := if options.has 'g' && !options.has 'w' then goal + 10 else width
      goal
      mark := (bare.reverse.dropWhile (· == ' ')).reverse
      lead := mark.length - bare.length
      fullLength := bare.length }

end Paragraphs

def fmt : Tool := fun name arguments => do
  finish 0
  let words := match arguments with
    | ('-' :: d :: rest) :: words =>
      if d.isDigit then ('-' :: 'w' :: d :: rest) :: words else arguments
    | _ => arguments
  match readOptions false Paragraphs.flags (words.length + 1) words with
  | .error text => do
    match text.drop "invalid option -- '".length with
    | [d, '\x27'] =>
      if d.isDigit then
        report name ("invalid option -- ".toList ++ [d] ++
          "; -WIDTH is recognized only when it is the first\noption; use -w N instead".toList)
      else report name text
    | _ => report name text
    printError (helpHint name)
    finish 1
  | .ok (options, operands) =>
    let some s ← Paragraphs.settingsOf name options | return
    (inputs operands).forM fun path => do
      match ← content path with
      | .ok text => print (Paragraphs.reset s text)
      | .error (.file .isADirectory) => fail 1 name "read error".toList
      | .error fault =>
        fail 1 name ("cannot open ".toList ++ shellQuoted path ++ " for reading: ".toList ++
          fault.text)

end NextRelease.Shell.Tool
