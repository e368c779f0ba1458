import NextRelease.Shell.Tool.Lines

/-!
Tools that work on columns: lines of several files side by side, lines folded at a width, and tabs
that stand for blanks.
-/

namespace NextRelease.Shell.Tool

/-! ## Side by side -/

def delimiters? : Octets → Option (List Octets)
  | [] => some []
  | ['\\'] => none
  | '\\' :: c :: cs =>
    let delimiter := match c with
      | '0' => []
      | 'n' => ['\n']
      | 't' => ['\t']
      | 'b' => [Char.ofNat 8]
      | 'f' => [Char.ofNat 12]
      | 'r' => ['\r']
      | 'v' => [Char.ofNat 11]
      | c => [c]
    (delimiters? cs).map (delimiter :: ·)
  | c :: cs => (delimiters? cs).map ([c] :: ·)

def joinInTurn (delimiters : List Octets) (fields : List Octets) : Octets :=
  fields.zipIdx.flatMap fun field =>
    let front := if field.2 = 0 then []
      else delimiters[(field.2 - 1) % delimiters.length]?.getD []
    front ++ field.1

def rowsOf : (fuel : Nat) → List (List Octets) → List (List Octets)
  | 0, _ => []
  | fuel + 1, columns =>
    if columns.all List.isEmpty then []
    else columns.map (fun column => column.head?.getD []) ::
      rowsOf fuel (columns.map (List.drop 1))

def shareOf {α : Type} (count taker : Nat) (items : List α) : List α :=
  (items.zipIdx.filter fun item => item.2 % count == taker).map (·.1)

def paste : Tool :=
  withOptions false
    [⟨'d', "delimiters", true⟩, ⟨'s', "serial", false⟩, ⟨'z', "zero-terminated", false⟩] 1
    fun name options operands => do
      let list := (options.value? 'd').getD ['\t']
      let ending := if options.has 'z' then '\x00' else '\n'
      match delimiters? list with
      | none =>
        fail 1 name ("delimiter list ends with an unescaped backslash: ".toList ++ list)
      | some delimiters =>
        let delimiters := if delimiters.isEmpty then [[]] else delimiters
        let paths := inputs operands
        let read (path : Octets) : Act (Option (List Octets)) := do
          match ← content path with
          | .ok text => return some (partsBefore ending text)
          | .error fault => do
            fail 1 name (quotedIfPeculiar path ++ ": ".toList ++ fault.text)
            return none
        if options.has 's' then
          paths.forM fun path => do
            match ← read path with
            | some fields => print (joinInTurn delimiters fields ++ [ending])
            | none => pure ()
        else
          let isOpen (path : Octets) : Act Bool := do
            match (descriptorAt? path).isSome, (← get).status? path with
            | false, .error fault => do
              fail 1 name (about path fault)
              return false
            | _, _ => return true
          let refused ← paths.filterM fun path => return !(← isOpen path)
          if refused.isEmpty then
            let shared ← if paths.any isStandard then read ['-'] else pure none
            let dashes := (paths.filter isStandard).length
            let columns ← paths.zipIdx.mapM fun entry => do
              if isStandard entry.1 then
                let taker := ((paths.take entry.2).filter isStandard).length
                return shareOf dashes taker (shared.getD [])
              else return (← read entry.1).getD []
            let most := (columns.map List.length).foldl max 0
            (rowsOf most columns).forM fun row => print (joinInTurn delimiters row ++ [ending])

/-! ## Widths -/

def columnAfter (column : Nat) (c : Char) : Nat :=
  if c = '\t' then column + 8 - column % 8
  else if c.toNat = 8 then column - 1
  else if c = '\r' then 0
  else column + 1

def columnsAfter (bytes : Bool) (start : Nat) (text : Octets) : Nat :=
  text.foldl (fun column c => if bytes then column + 1 else columnAfter column c) start

def keptPart (atBlanks : Bool) (part : Octets) : Octets :=
  let front := (part.reverse.dropWhile fun c => c != ' ' && c != '\t').reverse
  if atBlanks && !front.isEmpty then front else part

def foldedLine (bytes atBlanks : Bool) (width : Nat) :
    (fuel : Nat) → (part : Octets) → (column : Nat) → Octets → List Octets
  | 0, part, _, _ => [part.reverse]
  | _, part, _, [] => if part.isEmpty then [] else [part.reverse]
  | fuel + 1, part, column, c :: cs =>
    let next := if bytes then column + 1 else columnAfter column c
    if width < next && !part.isEmpty then
      let whole := part.reverse
      let kept := keptPart atBlanks whole
      let rest := whole.drop kept.length
      kept :: foldedLine bytes atBlanks width fuel rest.reverse
        (columnsAfter bytes 0 rest) (c :: cs)
    else foldedLine bytes atBlanks width fuel (c :: part) next cs

def fold : Tool := fun name arguments =>
  withOptions false
    [⟨'b', "bytes", false⟩, ⟨'s', "spaces", false⟩, ⟨'w', "width", true⟩] 1
    (fun name options operands => do
      let value := (options.value? 'w').getD "80".toList
      let width := readNat value
      if !isNumber value || width = 0 then
        let range := if isNumber value then ": Numerical result out of range" else ""
        fail 1 name ("invalid number of columns: ".toList ++ inQuotes value ++ range.toList)
      else
        (inputs operands).forM fun path => do
          match ← content path with
          | .ok text =>
            (lines text).forM fun line => do
              let bare := withoutBreak line
              let parts := foldedLine (options.has 'b') (options.has 's') width
                (2 * bare.length + 2) [] 0 bare
              print (List.intercalate ['\n'] parts ++ line.drop bare.length)
          | .error fault => fail 1 name (quotedIfPeculiar path ++ ": ".toList ++ fault.text))
    name (arguments.map fun word => match word with
      | '-' :: c :: cs => if c.isDigit then "-w".toList ++ c :: cs else word
      | _ => word)

/-! ## Tabs -/

structure TabStops where
  stops : List Nat := []
  distance : Nat := 0
  fromLast : Bool := false

def TabStops.after? (tabs : TabStops) (column : Nat) : Option Nat :=
  match tabs.stops.find? (column < ·) with
  | some stop => some stop
  | none =>
    if tabs.distance = 0 then none
    else
      let start := if tabs.fromLast then tabs.stops.getLast?.getD 0 else 0
      some (column + tabs.distance - (column - start) % tabs.distance)

def readTabStops (text : Octets) : Except Octets TabStops := do
  let words := (text.splitBy fun a b => !(a == ',' || isGap a) && !(b == ',' || isGap b)).filter
    fun word => !word.all fun c => c == ',' || isGap c
  let tabs ← words.foldlM
    (fun (tabs : TabStops) word => do
      let (sign, digits) := match word with
        | '/' :: digits => (some '/', digits)
        | '+' :: digits => (some '+', digits)
        | digits => (none, digits)
      if !isNumber digits then
        throw ("tab size contains invalid character(s): ".toList ++
          inQuotes (digits.dropWhile Char.isDigit))
      let size := readNat digits
      match sign with
      | some sign => return { tabs with distance := size, fromLast := sign == '+' }
      | none =>
        if size = 0 then throw "tab size cannot be 0".toList
        if (tabs.stops.getLast?.map fun last => decide (size ≤ last)).getD false then
          throw "tab sizes must be ascending".toList
        return { tabs with stops := tabs.stops ++ [size] })
    {}
  return match tabs.stops, tabs.distance with
    | [], 0 => { distance := 8 }
    | [size], 0 => { distance := size }
    | _, _ => tabs

def tabWords (words : List Octets) : List Octets :=
  words.map fun word => match word with
    | '-' :: c :: cs => if c.isDigit then "--tabs=".toList ++ c :: cs else word
    | _ => word

def expandLine (tabs : TabStops) (initialOnly : Bool) :
    (column : Nat) → (isInitial : Bool) → Octets → Octets
  | _, _, [] => []
  | column, isInitial, c :: cs =>
    if c = '\t' && (isInitial || !initialOnly) then
      let next := (tabs.after? column).getD (column + 1)
      List.replicate (next - column) ' ' ++ expandLine tabs initialOnly next isInitial cs
    else
      let next := if c.toNat = 8 then column - 1 else column + 1
      c :: expandLine tabs initialOnly next (isInitial && isGap c) cs

def mapLines (name : Octets) (operands : List Octets) (change : Octets → Octets) : Act Unit :=
  (inputs operands).forM fun path => do
    match ← content path with
    | .ok text =>
      (lines text).forM fun line =>
        let bare := withoutBreak line
        print (change bare ++ line.drop bare.length)
    | .error fault => fail 1 name (quotedIfPeculiar path ++ ": ".toList ++ fault.text)

def expand : Tool := fun name arguments =>
  withOptions false [⟨'t', "tabs", true⟩, ⟨'i', "initial", false⟩] 1
    (fun name options operands => do
      match readTabStops (Text.joinWith ',' (options.values 't')) with
      | .error reason => fail 1 name reason
      | .ok tabs => mapLines name operands (expandLine tabs (options.has 'i') 0 true))
    name (tabWords arguments)

/-- Writes runs of blanks as tabs where they reach a stop. The blanks that are pending stand in
front of the column; one of them alone in front of a stop stays as it is. -/
def unexpandLine (tabs : TabStops) (all : Bool) : (column : Nat) → (isInitial : Bool) →
    (pending : Octets) → Octets → Octets
  | _, _, pending, [] => pending
  | column, isInitial, pending, c :: cs =>
    let converts := isInitial || all
    if converts && c = ' ' then
      match tabs.after? column with
      | none => pending ++ c :: unexpandLine tabs all (column + 1) isInitial [] cs
      | some stop =>
        if column + 1 = stop then
          if pending.isEmpty && !(cs.head?.any isGap) then
            ' ' :: unexpandLine tabs all stop isInitial [] cs
          else '\t' :: unexpandLine tabs all stop isInitial [] cs
        else unexpandLine tabs all (column + 1) isInitial (pending ++ [c]) cs
    else if converts && c = '\t' then
      match tabs.after? column with
      | none => pending ++ c :: unexpandLine tabs all (column + 1) isInitial [] cs
      | some stop => '\t' :: unexpandLine tabs all stop isInitial [] cs
    else
      let next := if c.toNat = 8 then column - 1 else column + 1
      pending ++ c :: unexpandLine tabs all next false [] cs

def unexpand : Tool := fun name arguments =>
  withOptions false
    [⟨'t', "tabs", true⟩, ⟨'a', "all", false⟩, ⟨'f', "first-only", false⟩] 1
    (fun name options operands => do
      match readTabStops (Text.joinWith ',' (options.values 't')) with
      | .error reason => fail 1 name reason
      | .ok tabs =>
        let all := (options.has 'a' || options.has 't') && !options.has 'f'
        mapLines name operands (unexpandLine tabs all 0 true []))
    name (tabWords arguments)

end NextRelease.Shell.Tool
