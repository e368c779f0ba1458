import NextRelease.Shell.Tool.Status
import NextRelease.Shell.Octets

/-!
Pages for printing: a text is parted into pages, each with a title and room above and below, and its
lines may stand in columns, one below the other or side by side; or several texts stand side by
side.
-/

namespace NextRelease.Shell.Tool

namespace Pages

/-! ## Layouts -/

structure Tabs where
  mark : Char := '\t'
  distance : Nat := 8

structure Numbering where
  separator : Char := '\t'
  digits : Nat := 5

inductive Hidden where
  | plain
  | carets
  | numbers
  deriving DecidableEq

/-- What a call asks for. -/
structure Request where
  columns : Option Nat := none
  isAcross : Bool := false
  isParallel : Bool := false
  doubles : Bool := false
  hidden : Hidden := .plain
  dateFormat : Octets := "%Y-%m-%d %H:%M".toList
  inputTabs : Option Tabs := none
  outputTabs : Option Tabs := none
  feeds : Bool := false
  title : Option Octets := none
  joins : Bool := false
  length : Nat := 66
  numbering : Option Numbering := none
  firstNumber : Int := 1
  margin : Nat := 0
  isQuiet : Bool := false
  oldSeparator : Option Octets := none
  separator : Option Octets := none
  isBare : Bool := false
  oldWidth : Option Nat := none
  width : Option Nat := none
  first : Nat := 1
  last : Option Nat := none

structure Layout where
  columns : Nat
  isDown : Bool
  isParallel : Bool
  doubles : Bool
  hidden : Hidden
  feeds : Bool
  body : Nat
  hasTitle : Bool
  numbering : Option Numbering
  margin : Nat
  width : Nat
  separator : Octets
  hasSeparator : Bool
  cuts : Bool
  columnWidth : Nat
  inputTabs : Tabs
  expands : Bool
  outputTabs : Option Tabs

def Numbering.width (n : Numbering) : Nat :=
  if n.separator = '\t' then n.digits + (8 - n.digits % 8) else n.digits + 1

/-- The layout that a request makes for some texts; `none` if the page is too narrow. -/
def Request.layout? (r : Request) (texts : Nat) : Option Layout :=
  let isParallel := r.isParallel && texts != 0
  let columns := if isParallel then texts else r.columns.getD 1
  let isMany := r.isParallel || r.columns.isSome
  let (cuts, joins, hasSeparator) : Bool × Bool × Bool :=
    match r.oldWidth, r.width with
    | some _, none =>
      if isMany then (true, r.joins, r.separator.isSome || r.oldSeparator.isSome)
      else (false, true, r.separator.isSome)
    | _, width =>
      if r.oldSeparator.isSome && r.separator.isNone && isMany then
        if width.isNone then (false, true, r.oldSeparator.any fun text => !text.isEmpty)
        else (true, r.joins, true)
      else (width.isSome, r.joins, r.separator.isSome)
  let separator := (r.separator.or r.oldSeparator).getD []
  let (separator, hasSeparator) : Octets × Bool :=
    if columns ≤ 1 then (separator, hasSeparator)
    else if !hasSeparator then (if joins then ['\t'] else [' '], true)
    else if !joins && separator == ['\t'] then ([' '], true)
    else (separator, true)
  let cuts := (cuts || 1 < columns) && !joins
  let hasRoom := 10 < r.length
  let hasTitle := hasRoom && !r.isBare
  let body := if hasTitle then r.length - 10 else r.length
  let width := (r.width.or r.oldWidth).getD 72
  let used := if isParallel then (r.numbering.map Numbering.width).getD 0 else 0
  let columnWidth := (width - used - (columns - 1) * separator.length) / columns
  if columnWidth < 1 then none
  else
    some
      { columns
        isDown := 1 < columns && !r.isAcross && !isParallel
        isParallel
        doubles := r.doubles
        hidden := r.hidden
        feeds := r.feeds
        body := if r.doubles then max 1 (body / 2) else body
        hasTitle
        numbering := r.numbering
        margin := r.margin
        width
        separator
        hasSeparator
        cuts
        columnWidth
        inputTabs := r.inputTabs.getD {}
        expands := r.inputTabs.isSome || (1 < columns && separator != ['\t'])
        outputTabs := if 1 < columns then some (r.outputTabs.getD {}) else r.outputTabs }

/-! ## Cells -/

structure Cell where
  text : Octets
  width : Nat

def shown (l : Layout) (column : Nat) (c : Char) : Octets × Nat :=
  if c = l.inputTabs.mark || c = '\t' then
    let distance := if c = l.inputTabs.mark then l.inputTabs.distance else 8
    let width := distance - column % distance
    (if l.expands then List.replicate width ' ' else [c], column + width)
  else if 32 ≤ c.toNat && c.toNat < 127 then ([c], column + 1)
  else
    let number : Octets := '\\' :: Permission.digits 3 c.toNat
    match l.hidden with
    | .numbers => (number, column + 4)
    | .carets =>
      if c.toNat < 128 then (['^', Char.ofNat (c.toNat.xor 64)], column + 2) else
        (number, column + 4)
    | .plain =>
      if c = '\x08' then if column = 0 then ([], 0) else ([c], column - 1) else ([c], column)

def fitted (l : Layout) : (column : Nat) → Octets → Cell
  | column, [] => ⟨[], column⟩
  | column, c :: cs =>
    let (text, next) := shown l column c
    if l.cuts && l.columnWidth < next then ⟨[], column⟩
    else
      let cell := fitted l next cs
      ⟨text ++ cell.text, cell.width⟩

def numberText (l : Layout) (n : Numbering) (number : Int) : Octets :=
  let digits := padLeft n.digits (intText number)
  let behind := if 1 < l.columns && n.separator = '\t' then
      List.replicate (n.width - n.digits) ' '
    else [n.separator]
  digits.drop (digits.length - n.digits) ++ behind

def cellOf (l : Layout) (number : Option Int) (line : Octets) : Cell :=
  match l.numbering, number with
  | some n, some number =>
    let start := if l.cuts && !l.isParallel then n.width else 0
    let isFit := !l.cuts || (line.head?.all fun c => (shown l 0 c).2 ≤ l.columnWidth)
    let cell := if isFit then fitted l start line else ⟨[], start⟩
    ⟨numberText l n number ++ cell.text, cell.width⟩
  | _, _ => fitted l 0 line

/-! ## Printing -/

structure Printer where
  printed : List Octets := []
  column : Nat := 0
  spaces : Nat := 0
  separators : Nat := 0

abbrev Print := StateM Printer

def put (text : Octets) : Print Unit := modify fun p => { p with printed := text :: p.printed }

def blanks (tabs : Tabs) (goal : Nat) : (fuel : Nat) → (column : Nat) → Octets
  | 0, _ => []
  | fuel + 1, column =>
    let next := (column / tabs.distance + 1) * tabs.distance
    if column + 1 < goal && next ≤ goal then tabs.mark :: blanks tabs goal fuel next
    else List.replicate (goal - column) ' '

def putSpaces (l : Layout) : Print Unit := do
  let p ← get
  let goal := p.column + p.spaces
  put (blanks (l.outputTabs.getD {}) goal (p.spaces + 1) p.column)
  modify fun p => { p with column := goal, spaces := 0 }

def putChar (l : Layout) (c : Char) : Print Unit := do
  if l.outputTabs.isSome then
    if c = ' ' then modify fun p => { p with spaces := p.spaces + 1 }
    else
      if (← get).spaces != 0 then putSpaces l
      modify fun p => { p with column :=
        if 32 ≤ c.toNat && c.toNat < 127 then p.column + 1
        else if c = '\x08' then p.column - 1
        else p.column }
      put [c]
  else put [c]

def goTo (l : Layout) (column : Nat) : Print Unit := do
  let p ← get
  if l.outputTabs.isSome then set { p with spaces := column - p.column }
  else
    put (List.replicate (column - p.column) ' ')
    modify fun p => { p with column }

def putSeparators (l : Layout) : Print Unit := do
  let p ← get
  if p.separators = 0 then
    if p.spaces != 0 then putSpaces l
  else
    l.separator.forM fun c => do
      if c = ' ' then modify fun p => { p with spaces := p.spaces + 1 }
      else
        if (← get).spaces != 0 then putSpaces l
        put [c]
        modify fun p => { p with column := p.column + 1 }
    if (← get).spaces != 0 then putSpaces l
    modify fun p => { p with separators := 0 }

def startOf (l : Layout) (index : Nat) : Nat :=
  let room := l.separator.length
  let first := l.margin + room
  if index = 0 then first
  else if !l.cuts then 0
  else
    let number := if l.isParallel then (l.numbering.map Numbering.width).getD 0 else 0
    l.margin + number + index * (l.columnWidth + room)

def approach (l : Layout) (index : Nat) : Print Unit := do
  let start := startOf l index
  if l.separator.length < start then goTo l (start - l.separator.length)
  if l.hasSeparator then putSeparators l

def putCell (l : Layout) (index : Nat) (cell : Cell) : Print Unit := do
  approach l index
  cell.text.forM (putChar l)
  if l.isDown && (← get).spaces = 0 then
    let start := startOf l index
    let isFirst := start - l.separator.length = l.margin
    modify fun p => { p with
      column := start + cell.width - if isFirst then l.separator.length else 0 }

/-! ## Pages -/

structure Line where
  text : Octets
  hasBreak : Bool

def linesOf (text : Octets) : List Line :=
  (lines text).map fun line => ⟨withoutBreak line, line.getLast? == some '\n'⟩

structure Title where
  date : Octets
  text : Octets

def putTitle (l : Layout) (title : Title) (page : Nat) : Print Unit := do
  let margin := List.replicate l.margin ' '
  let pageText := "Page ".toList ++ natText page
  let room := l.width - title.date.length - (Wide.ofOctets title.text).length - pageText.length
  let left := max 1 (room / 2)
  let right := max 1 (room - room / 2)
  put (margin ++ "\n\n".toList ++ margin ++ title.date ++ List.replicate left ' ' ++ title.text ++
    List.replicate right ' ' ++ pageText ++ "\n\n\n".toList)

def startRow : Print Unit := modify fun p => { p with column := 0, spaces := 0, separators := 0 }

def passColumn (l : Layout) : Print Unit :=
  modify fun p => { p with separators := p.separators + if l.hasSeparator then 1 else 0 }

def rowsDown (l : Layout) (number : Int) (page : List Line) : List (List Cell) :=
  let cells := (page.zipIdx).map fun (line, i) => cellOf l (some (number + i)) line.text
  let count := cells.length
  let size (i : Nat) : Nat := count / l.columns + if i < count % l.columns then 1 else 0
  let starts := (List.range l.columns).map fun i => ((List.range i).map size).foldl (· + ·) 0
  let columns := (starts.zipIdx).map fun (start, i) => (cells.drop start).take (size i)
  (List.range (size 0)).map fun row => columns.filterMap fun column => column[row]?

def rowsAcross (l : Layout) (number : Int) (page : List Line) : List (List Cell) :=
  let cells := (page.zipIdx).map fun (line, i) => cellOf l (some (number + i)) line.text
  (List.range ((cells.length + l.columns - 1) / l.columns)).map fun row =>
    (cells.drop (row * l.columns)).take l.columns

def putRow (l : Layout) (cells : List Cell) : Print Unit := do
  startRow
  (cells.zipIdx).forM fun (cell, index) => do
    putCell l index cell
    passColumn l

def putEnd (l : Layout) (left : Nat) : Print Unit :=
  if !l.hasTitle then return ()
  else put (if l.feeds then ['\x0c'] else List.replicate (left + 5) '\n')

def putPages (l : Layout) (title : Title) (first : Nat) (last : Option Nat) :
    (fuel : Nat) → (page : Nat) → (number : Int) → List Line → Print Unit
  | 0, _, _, _ => return ()
  | fuel + 1, page, number, text => do
    let size := l.body * l.columns
    let here := text.take size
    let rest := text.drop size
    if !here.isEmpty && last.all (page ≤ ·) then
      if first ≤ page then
        let rows := if l.isDown then rowsDown l number here else rowsAcross l number here
        if l.hasTitle then putTitle l title page
        let endsHere := rest.isEmpty && (l.isDown || here.getLast?.any fun line => !line.hasBreak)
        let isShort := here.length < size
        (rows.zipIdx 1).forM fun (row, n) => do
          putRow l row
          put ['\n']
          let isLast := n = rows.length && endsHere && (isShort || !l.isDown)
          if l.doubles && (l.hasTitle || !isLast) then put ['\n']
        putEnd l ((l.body - rows.length) * if l.doubles then 2 else 1)
      putPages l title first last fuel (page + 1) (number + here.length) rest

def putParallelRow (l : Layout) (number : Int) (texts : List (List Line)) : Print Unit := do
  startRow
  let firstLeft := texts.findIdx fun text => !text.isEmpty
  (texts.zipIdx).forM fun (text, index) => do
    match text with
    | line :: _ => do
      if index = firstLeft then
        (List.range index).forM fun i => do
          modify fun p => { p with separators := if i = 0 then 0 else 1 }
          alignEmpty i
        if index != 0 then
          modify fun p => { p with separators := 1, spaces := if l.cuts then l.columnWidth else 0 }
      putCell l index (cellOf l (if index = 0 then some number else none) line.text)
    | [] => if firstLeft < index then alignEmpty index
    passColumn l
where
  alignEmpty (index : Nat) : Print Unit := do
    approach l index
    match index, l.numbering with
    | 0, some n => (numberText l n number).forM (putChar l)
    | _, _ => return ()

def putParallel (l : Layout) (title : Title) (first : Nat) (last : Option Nat) :
    (fuel : Nat) → (page : Nat) → (number : Int) → List (List Line) → Print Unit
  | 0, _, _, _ => return ()
  | fuel + 1, page, number, texts => do
    let count := min l.body ((texts.map List.length).foldl max 0)
    if count != 0 && last.all (page ≤ ·) then
      if first ≤ page then
        if l.hasTitle then putTitle l title page
        (List.range count).forM fun i => do
          putParallelRow l (number + i) (texts.map (List.drop i))
          put ['\n']
          if l.doubles then put ['\n']
        putEnd l ((l.body - count) * if l.doubles then 2 else 1)
      putParallel l title first last fuel (page + 1) (number + count) (texts.map (List.drop count))

/-! ## Options -/

def flags : List Flag :=
  [⟨'\x01', "pages", true⟩, ⟨'\x02', "columns", true⟩, ⟨'a', "across", false⟩, ⟨'b', "", false⟩,
    ⟨'c', "show-control-chars", false⟩, ⟨'d', "double-space", false⟩, ⟨'D', "date-format", true⟩,
    ⟨'e', "expand-tabs", .maybe⟩, ⟨'f', "form-feed", false⟩, ⟨'F', "", false⟩,
    ⟨'h', "header", true⟩, ⟨'i', "output-tabs", .maybe⟩, ⟨'J', "join-lines", false⟩,
    ⟨'l', "length", true⟩, ⟨'m', "merge", false⟩, ⟨'n', "number-lines", .maybe⟩,
    ⟨'N', "first-line-number", true⟩, ⟨'o', "indent", true⟩, ⟨'r', "no-file-warnings", false⟩,
    ⟨'s', "separator", .maybe⟩, ⟨'S', "sep-string", .maybe⟩, ⟨'t', "omit-header", false⟩,
    ⟨'T', "omit-pagination", false⟩, ⟨'v', "show-nonprinting", false⟩, ⟨'w', "width", true⟩,
    ⟨'W', "page-width", true⟩]

def spreadDigits : List Octets → List Octets
  | [] => []
  | word :: words =>
    match word with
    | '-' :: d :: cs =>
      if d.isDigit then
        let digits := (d :: cs).takeWhile Char.isDigit
        let rest := (d :: cs).drop digits.length
        ("--columns=".toList ++ digits) ::
          (if rest.isEmpty then [] else ['-' :: rest]) ++ spreadDigits words
      else if word == "--".toList then word :: words
      else word :: spreadDigits words
    | _ => word :: spreadDigits words

def markAndNumber (value : Octets) : Option Char × Option Nat :=
  let mark := value.head?.filter fun c => !c.isDigit
  let digits := if mark.isSome then value.drop 1 else value
  (mark, if isNumber digits then some (readNat digits) else none)

/-- Takes an option into a request, or tells what is wrong with it. -/
def takeOption (r : Request) (letter : Char) (value : Octets) : Except Octets Request :=
  let invalid (front : String) : Except Octets Request :=
    .error (front.toList ++ inQuotes value)
  let positive (front : String) (take : Nat → Request) : Except Octets Request :=
    if isNumber value && readNat value != 0 then .ok (take (readNat value)) else invalid front
  match letter with
  | '\x01' =>
    let (first, last) := Text.cut ':' value
    if isNumber first && readNat first != 0 && last.all isNumber then
      .ok { r with first := readNat first, last := last.map readNat }
    else invalid "invalid page range "
  | '\x02' => positive "invalid number of columns " fun n => { r with columns := some n }
  | 'a' => .ok { r with isAcross := true }
  | 'c' => .ok { r with hidden := .carets }
  | 'd' => .ok { r with doubles := true }
  | 'D' => .ok { r with dateFormat := value }
  | 'e' =>
    let (mark, number) := markAndNumber value
    .ok { r with inputTabs := some { mark := mark.getD '\t', distance := number.getD 8 } }
  | 'f' | 'F' => .ok { r with feeds := true }
  | 'h' => .ok { r with title := some value }
  | 'i' =>
    let (mark, number) := markAndNumber value
    .ok { r with outputTabs := some { mark := mark.getD '\t', distance := number.getD 8 } }
  | 'J' => .ok { r with joins := true }
  | 'l' => positive "'-l PAGE_LENGTH' invalid number of lines: " fun n => { r with length := n }
  | 'm' => .ok { r with isParallel := true }
  | 'n' =>
    let (mark, number) := markAndNumber value
    .ok { r with numbering := some { separator := mark.getD '\t', digits := number.getD 5 } }
  | 'N' =>
    match readInt? value with
    | some n => .ok { r with firstNumber := n }
    | none => invalid "'-N NUMBER' invalid starting line number: "
  | 'o' =>
    if isNumber value then .ok { r with margin := readNat value }
    else invalid "'-o MARGIN' invalid line offset: "
  | 'r' => .ok { r with isQuiet := true }
  | 's' => .ok { r with oldSeparator := some value }
  | 'S' => .ok { r with separator := some value }
  | 't' | 'T' => .ok { r with isBare := true }
  | 'v' => .ok { r with hidden := .numbers }
  | 'w' =>
    positive "'-w PAGE_WIDTH' invalid number of characters: " fun n => { r with oldWidth := some n }
  | 'W' =>
    positive "'-W PAGE_WIDTH' invalid number of characters: " fun n =>
      { r with width := some n, oldWidth := none }
  | _ => .ok r
where
  readInt? (text : Octets) : Option Int :=
    match text with
    | '-' :: digits => if isNumber digits then some (-(readNat digits : Int)) else none
    | digits => if isNumber digits then some (readNat digits) else none

def source? (name : Octets) (r : Request) (path : Octets) :
    Act (Option (List Line × Option Int)) := do
  let m ← get
  match ← content path with
  | .ok text =>
    let time := if isStandard path then none
      else (look m true path).toOption.map fun found => (m.files.timesAt found.place).changed
    return some (linesOf text, time)
  | .error fault => do
    if r.isQuiet then finish 1
    else
      match fault with
      | .file .isADirectory => fail 1 name (quotedIfPeculiar path ++ ": Is a directory".toList)
      | fault => fail 1 name (quotedIfPeculiar path ++ ": ".toList ++ fault.text)
    return none

def dateText (m : Machine) (r : Request) (time : Option Int) : Octets :=
  ((momentOf (time.getD m.files.now)).inZone (zoneOf m)).text r.dateFormat

def printAll (work : Print Unit) : Act Unit := print (work.run {}).2.printed.reverse.flatten

def pageAll (name : Octets) (r : Request) (operands : List Octets) : Act Unit := do
  let some l := r.layout? operands.length |
    fail 1 name "page width too narrow".toList
  if l.isParallel then
    let found ← operands.mapM fun path => source? name r path
    let texts := found.filterMap fun one => one.map (·.1)
    let some l := r.layout? texts.length | fail 1 name "page width too narrow".toList
    let title : Title := ⟨dateText (← get) r none, r.title.getD []⟩
    let count := (texts.map List.length).foldl max 0
    if !texts.isEmpty then
      printAll (putParallel l title r.first r.last (count + 1) 1 r.firstNumber texts)
  else
    (inputs operands).forM fun path => do
      match ← source? name r path with
      | none => return ()
      | some (text, time) => do
        let pages := (text.length + l.body * l.columns - 1) / (l.body * l.columns)
        if r.first ≤ max 1 pages then
          let usual := if isStandard path then [] else path
          let title : Title := ⟨dateText (← get) r time, r.title.getD usual⟩
          printAll (putPages l title r.first r.last (text.length + 1) 1 r.firstNumber text)
        else
          report name ("starting page number ".toList ++ natText r.first ++
            " exceeds page count ".toList ++ natText pages)

end Pages

def pr : Tool := fun name arguments => do
  finish 0
  match readOptions false Pages.flags (2 * arguments.length + 1) (Pages.spreadDigits arguments) with
  | .error text => misuse 1 name text
  | .ok (options, operands) =>
    let request := options.foldlM (fun r (letter, value) => Pages.takeOption r letter value)
      ({} : Pages.Request)
    let pages (word : Octets) : Bool := word.head? == some '+' && (word[1]?).any Char.isDigit
    match request with
    | .error text => fail 1 name text
    | .ok r =>
      let r := match operands.find? pages with
        | some word => ((Pages.takeOption r '\x01' (word.drop 1)).toOption).getD r
        | none => r
      let operands := operands.filter fun word => !pages word
      if r.isParallel && r.columns.isSome then
        fail 1 name "cannot specify number of columns when printing in parallel".toList
      else if r.isParallel && r.isAcross then
        fail 1 name "cannot specify both printing across and printing in parallel".toList
      else Pages.pageAll name r operands

end NextRelease.Shell.Tool
