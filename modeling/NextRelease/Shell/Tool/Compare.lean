import NextRelease.Shell.Tool.Lines
import NextRelease.Shell.Tool.Reading
import NextRelease.Shell.Tool.Values

/-!
Tools that hold two files against each other: what their sorted lines have in common, lines that are
joined by a field, and the first octet in which they differ.
-/

namespace NextRelease.Shell.Tool

inductive OrderCheck where
  | never
  | onceUnpaired
  | always
  deriving DecidableEq

def linesOrFail (status : Nat) (name : Octets) (ending : Char) (path : Octets) :
    Act (Option (List Octets)) := do
  match ← content path with
  | .ok text => return some (partsBefore ending text)
  | .error fault => do
    fail status name (quotedIfPeculiar path ++ ": ".toList ++ fault.text)
    return none

/-! ## Lines in common -/

namespace Common

structure Input where
  earlier : Option Octets := none
  last : Option Octets := none
  rest : List Octets
  isDisordered : Bool := false

structure State where
  left : Input
  right : Input
  unpaired : Bool := false
  counts : Nat × Nat × Nat := (0, 0, 0)

def check (order : OrderCheck) (unpaired : Bool) (number : Nat) (before now : Option Octets)
    (input : Input) : Input × Option Octets :=
  let isLooked := order == .always || (order == .onceUnpaired && unpaired)
  match before, now with
  | some before, some now =>
    if isLooked && !input.isDisordered && compare before now == .gt then
      ({ input with isDisordered := true },
        some ("file ".toList ++ natText number ++ " is not in sorted order".toList))
    else (input, none)
  | _, _ => (input, none)

def advance (order : OrderCheck) (unpaired : Bool) (number : Nat) (input : Input) :
    Input × Option Octets :=
  match input.rest with
  | [] => (input, none)
  | line :: rest =>
    let input : Input := { input with earlier := input.last, last := some line, rest }
    match rest with
    | [] => check order unpaired number input.earlier input.last input
    | next :: _ => check order unpaired number input.last (some next) input

/-- Compares lines from the heads of both inputs on; `say` is told each line with its column. -/
def run (order : OrderCheck) (say : Nat → Octets → Act Unit) (warn : Octets → Act Unit) :
    (fuel : Nat) → State → Act State
  | 0, s => return s
  | fuel + 1, s => do
    let ordering : Option Ordering := match s.left.rest, s.right.rest with
      | [], [] => none
      | [], _ => some .gt
      | _, [] => some .lt
      | a :: _, b :: _ => some (compare a b)
    match ordering with
    | none => return s
    | some ordering =>
      let (one, two, both) := s.counts
      let s := match ordering with
        | .lt => { s with unpaired := true, counts := (one + 1, two, both) }
        | .gt => { s with unpaired := true, counts := (one, two + 1, both) }
        | .eq => { s with counts := (one, two, both + 1) }
      match ordering with
      | .lt => say 1 (s.left.rest.head?.getD [])
      | .gt => say 2 (s.right.rest.head?.getD [])
      | .eq => say 3 (s.right.rest.head?.getD [])
      let (left, leftText) := if ordering == .gt then (s.left, none)
        else advance order s.unpaired 1 s.left
      let (right, rightText) := if ordering == .lt then (s.right, none)
        else advance order s.unpaired 2 s.right
      leftText.toList.forM warn
      rightText.toList.forM warn
      let isOver := order == .always && (left.isDisordered || right.isDisordered)
      if isOver then return { s with left, right }
      run order say warn fuel { s with left, right }

end Common

def comm : Tool :=
  withOptions false
    (plainFlags "123z" ++ [⟨'c', "check-order", false⟩, ⟨'n', "nocheck-order", false⟩,
      ⟨'d', "output-delimiter", true⟩, ⟨'t', "total", false⟩, ⟨'z', "zero-terminated", false⟩])
    1 fun name options operands => do
      withOperands 1 2 (some 2) name operands do
        let ending := if options.has 'z' then '\x00' else '\n'
        let order : OrderCheck := match options.last? "cn" with
          | some 'c' => .always
          | some _ => .never
          | none => .onceUnpaired
        let delimiter := match options.value? 'd' with
          | some text => if text.isEmpty then ['\x00'] else text
          | none => ['\t']
        let some left ← linesOrFail 1 name ending (operands.head?.getD []) | return
        let some right ← linesOrFail 1 name ending (operands.getLast?.getD []) | return
        let shows (column : Nat) : Bool := !options.has (Char.ofNat (48 + column))
        let say (column : Nat) (line : Octets) : Act Unit := do
          if shows column then
            let fronts := (List.range column).filter fun n => n != 0 && shows n
            print (fronts.flatMap (fun _ => delimiter) ++ line ++ [ending])
        let warn (text : Octets) : Act Unit :=
          if order == .always then fail 1 name text else report name text
        let final ← Common.run order say warn (left.length + right.length + 1)
          { left := { rest := left }, right := { rest := right } }
        let isDisordered := final.left.isDisordered || final.right.isDisordered
        if !(isDisordered && order == .always) then
          if options.has 't' then
            let (one, two, both) := final.counts
            print (List.intercalate delimiter
              [natText one, natText two, natText both, "total".toList] ++ [ending])
          if isDisordered then fail 1 name "input is not in sorted order".toList

/-! ## Joining lines -/

namespace Join

def fieldsOf (separator : Option Char) (line : Octets) : List Octets :=
  match separator with
  | some c => if line.isEmpty then [] else if c = '\n' then [line] else Text.splitOn c line
  | none =>
    let isBetween (c : Char) : Bool := isGap c || c == '\n'
    let text := line.dropWhile isBetween
    let runs := text.splitBy fun a b => isBetween a == isBetween b
    let fields := runs.filter fun run => !run.all isBetween
    if (text.getLast?.any isBetween) then fields ++ [[]] else fields

structure Record where
  text : Octets
  fields : List Octets

inductive Shown where
  | key
  | field (file index : Nat)

structure Rules where
  separator : Option Char
  leftKey : Nat
  rightKey : Nat
  ignoresCase : Bool
  filler : Option Octets
  shown : Option (List Shown)
  widths : Option (Nat × Nat) := none
  unpairedLeft : Bool
  unpairedRight : Bool
  pairs : Bool
  order : OrderCheck
  ending : Char

def Rules.key (rules : Rules) (number : Nat) (record : Record) : Octets :=
  record.fields[if number = 1 then rules.leftKey else rules.rightKey]?.getD []

def Rules.compareKeys (rules : Rules) (a b : Octets) : Ordering :=
  if rules.ignoresCase then compare (a.map Char.toUpper) (b.map Char.toUpper) else compare a b

def Rules.fieldText (rules : Rules) (record : Option Record) (index : Nat) : Octets :=
  let text := (record.bind fun r => r.fields[index]?).getD []
  if text.isEmpty then rules.filler.getD [] else text

def Rules.line (rules : Rules) (left right : Option Record) : Octets :=
  let separator := match rules.separator with
    | some '\n' | none => ' '
    | some c => c
  let key := match left with
    | some _ => rules.fieldText left rules.leftKey
    | none => rules.fieldText right rules.rightKey
  let others (record : Option Record) (keyIndex : Nat) (width : Option Nat) : List Octets :=
    let count := match record, width with
      | _, some width => width
      | some r, none => r.fields.length
      | none, none => 0
    ((List.range count).filter (· != keyIndex)).map (rules.fieldText record)
  let fields := match rules.shown with
    | some shown => shown.map fun
        | .key => key
        | .field file index => rules.fieldText (if file = 1 then left else right) index
    | none => key :: others left rules.leftKey (rules.widths.map (·.1)) ++
        others right rules.rightKey (rules.widths.map (·.2))
  Text.joinWith separator fields ++ [rules.ending]

structure Input where
  number : Nat
  path : Octets
  rest : List Record
  last : Option Record := none
  count : Nat := 0
  isDisordered : Bool := false

/-- Reads the next record, and looks at the order. -/
def Input.next (rules : Rules) (name : Octets) (unpaired : Bool) (input : Input) :
    Act (Option Record × Input) := do
  match input.rest with
  | [] => return (none, input)
  | record :: rest =>
    let now : Input := { input with rest, last := some record, count := input.count + 1 }
    let isLooked := rules.order == .always || (rules.order == .onceUnpaired && unpaired)
    let falls := match input.last with
      | some last =>
        rules.compareKeys (rules.key input.number last) (rules.key input.number record) == .gt
      | none => false
    if isLooked && !input.isDisordered && falls then
      report name (input.path ++ ':' :: natText now.count ++ ": is not sorted: ".toList ++
        record.text)
      if rules.order == .always then
        finish 1
        throw .exit
      return (some record, { now with isDisordered := true })
    else return (some record, now)

def Input.run (rules : Rules) (name : Octets) (unpaired : Bool) (key : Octets) :
    (fuel : Nat) → List Record → Input → Act (List Record × Option Record × Input)
  | 0, records, input => return (records.reverse, none, input)
  | fuel + 1, records, input => do
    let (found, input) ← input.next rules name unpaired
    match found with
    | none => return (records.reverse, none, input)
    | some record =>
      if rules.compareKeys (rules.key input.number record) key == .eq then
        Input.run rules name unpaired key fuel (record :: records) input
      else return (records.reverse, some record, input)

/-- Joins from the records on that were read last. -/
def run (rules : Rules) (name : Octets) : (fuel : Nat) → (unpaired : Bool) →
    (left right : Option Record) → (a b : Input) →
    Act (Bool × Option Record × Option Record × Input × Input)
  | 0, unpaired, left, right, a, b => return (unpaired, left, right, a, b)
  | fuel + 1, unpaired, some left, some right, a, b => do
    match rules.compareKeys (rules.key 1 left) (rules.key 2 right) with
    | .lt => do
      if rules.unpairedLeft then print (rules.line (some left) none)
      let (next, a) ← a.next rules name unpaired
      run rules name fuel true next (some right) a b
    | .gt => do
      if rules.unpairedRight then print (rules.line none (some right))
      let (next, b) ← b.next rules name unpaired
      run rules name fuel true (some left) next a b
    | .eq => do
      let (lefts, nextLeft, a) ← a.run rules name unpaired (rules.key 2 right)
        (a.rest.length + 1) [left]
      let (rights, nextRight, b) ← b.run rules name unpaired (rules.key 1 left)
        (b.rest.length + 1) [right]
      if rules.pairs then
        lefts.forM fun l => rights.forM fun r => print (rules.line (some l) (some r))
      run rules name fuel unpaired nextLeft nextRight a b
  | _, unpaired, left, right, a, b => return (unpaired, left, right, a, b)

def runRest (rules : Rules) (name : Octets) (unpaired shows : Bool) (line : Record → Octets) :
    (fuel : Nat) → Input → Act Input
  | 0, input => return input
  | fuel + 1, input => do
    if input.isDisordered && !shows then return input
    let (found, input) ← input.next rules name unpaired
    match found with
    | none => return input
    | some record => do
      if shows then print (line record)
      runRest rules name unpaired shows line fuel input

def fieldNumber? (text : Octets) : Option Nat :=
  if isNumber text && readNat text != 0 then some (readNat text - 1) else none

def readShown (text : Octets) : Except Octets (List Shown) :=
  let words := (text.map fun c => if c = ',' then ' ' else c).splitBy
    fun a b => isGap a == isGap b
  (words.filter fun word => !word.all isGap).mapM fun word =>
    match word with
    | ['0'] => .ok .key
    | c :: '.' :: digits =>
      if c = '1' || c = '2' then
        match fieldNumber? digits with
        | some n => .ok (.field (c.toNat - 48) n)
        | none => .error ("invalid field number: ".toList ++ inQuotes digits)
      else .error ("invalid file number in field spec: ".toList ++ inQuotes word)
    | '0' :: _ => .error ("invalid field specifier: ".toList ++ inQuotes word)
    | c :: _ =>
      if c = '1' || c = '2' then .error ("invalid field specifier: ".toList ++ inQuotes word)
      else .error ("invalid file number in field spec: ".toList ++ inQuotes word)
    | [] => .error []

def readSeparator (text : Octets) : Except Octets Char :=
  match text with
  | [] => .ok '\n'
  | [c] => .ok c
  | ['\\', '0'] => .ok '\x00'
  | text =>
    if (characters text).length = 1 then .ok (text.head?.getD '\n')
    else .error ("multi-character tab ".toList ++ inQuotes text)

def readFileNumber (text : Octets) : Except Octets Nat :=
  if text = ['1'] then .ok 1
  else if text = ['2'] then .ok 2
  else .error ("invalid field number: ".toList ++ inQuotes text)

def readKey (text : Octets) : Except Octets Nat :=
  match fieldNumber? text with
  | some n => .ok n
  | none => .error ("invalid field number: ".toList ++ inQuotes text)

def readRules (options : Options) : Except Octets Rules := do
  let separator ← (options.value? 't').mapM readSeparator
  let key (letter : Char) : Option Octets :=
    (options.filter fun o => o.1 == letter || o.1 == 'j').getLast?.map (·.2)
  let leftKey ← (key '1').mapM readKey
  let rightKey ← (key '2').mapM readKey
  let unpaired ← (options.values 'a').mapM readFileNumber
  let only ← (options.values 'v').mapM readFileNumber
  let isAutomatic := options.value? 'o' == some "auto".toList
  let shown ← if isAutomatic || !options.has 'o' then pure none
    else some <$> readShown (Text.joinWith ' ' (options.values 'o'))
  return { separator, leftKey := leftKey.getD 0, rightKey := rightKey.getD 0
           ignoresCase := options.has 'i', filler := options.value? 'e', shown
           unpairedLeft := (unpaired ++ only).contains 1
           unpairedRight := (unpaired ++ only).contains 2
           pairs := only.isEmpty
           order := match options.last? "CN" with
             | some 'C' => .always
             | some _ => .never
             | none => .onceUnpaired
           ending := if options.has 'z' then '\x00' else '\n' }

end Join

def join : Tool :=
  withOptions false
    (valueFlags "aejotv12" ++ plainFlags "iz" ++
      [⟨'i', "ignore-case", false⟩, ⟨'C', "check-order", false⟩, ⟨'N', "nocheck-order", false⟩,
        ⟨'z', "zero-terminated", false⟩, ⟨'H', "header", false⟩])
    1 fun name options operands => do
      match Join.readRules options with
      | .error reason => fail 1 name reason
      | .ok rules =>
        if let some extra := operands[2]? then
          misuse 1 name ("extra operand ".toList ++ shellQuoted extra)
          return
        withOperands 1 2 none name operands do
          let leftPath := operands.head?.getD []
          let rightPath := operands.getLast?.getD []
          if isStandard leftPath && isStandard rightPath then
            fail 1 name "both files cannot be standard input: No such file or directory".toList
            return
          let some left ← linesOrFail 1 name rules.ending leftPath | return
          let some right ← linesOrFail 1 name rules.ending rightPath | return
          let record (line : Octets) : Join.Record := ⟨line, Join.fieldsOf rules.separator line⟩
          let width (texts : List Octets) : Nat :=
            (texts.head?.map fun line => (record line).fields.length).getD 0
          let rules := if options.value? 'o' == some "auto".toList then
            { rules with widths := some (width left, width right) } else rules
          let (left, right) ← if options.has 'H' then do
              let line := rules.line (left.head?.map record) (right.head?.map record)
              if !(left.isEmpty && right.isEmpty) then print line
              pure (left.drop 1, right.drop 1)
            else pure (left, right)
          let start (number : Nat) (path : Octets) (texts : List Octets) : Join.Input :=
            { number, path, rest := texts.map record
              count := if options.has 'H' then 1 else 0 }
          let work : Act Unit := do
            let (firstLeft, a) ← (start 1 leftPath left).next rules name false
            let (firstRight, b) ← (start 2 rightPath right).next rules name false
            let (unpaired, restLeft, restRight, a, b) ← Join.run rules name
              (left.length + right.length + 2) false firstLeft firstRight a b
            let looks := rules.order != .never && !(a.isDisordered && b.isDisordered)
            let (unpaired, a) ← match restLeft with
              | some record =>
                if rules.unpairedLeft || looks then do
                  if rules.unpairedLeft then print (rules.line (some record) none)
                  let unpaired := unpaired || restRight.isSome
                  let a ← Join.runRest rules name unpaired rules.unpairedLeft
                    (fun record => rules.line (some record) none) (a.rest.length + 1) a
                  pure (unpaired, a)
                else pure (unpaired, a)
              | none => pure (unpaired, a)
            let b ← match restRight with
              | some record =>
                if rules.unpairedRight || looks then do
                  if rules.unpairedRight then print (rules.line none (some record))
                  Join.runRest rules name (unpaired || restLeft.isSome) rules.unpairedRight
                    (fun record => rules.line none (some record)) (b.rest.length + 1) b
                else pure b
              | none => pure b
            if a.isDisordered || b.isDisordered then
              fail 1 name "input is not in sorted order".toList
          match ← work.attempt with
          | .ok () | .error .exit => pure ()
          | .error stop => throw stop

/-! ## Single octets -/

structure Window where
  left : Nat := 0
  right : Nat := 0
  most : Option Nat := none

def octalText (c : Char) : Octets :=
  let digits := Nat.toDigits 8 c.toNat
  List.replicate (3 - digits.length) ' ' ++ digits

def shownOctet (c : Char) : Octets :=
  let low (n : Nat) : Octets :=
    if n < 32 then ['^', Char.ofNat (n + 64)] else if n = 127 then "^?".toList else [Char.ofNat n]
  if c.toNat < 128 then low c.toNat else "M-".toList ++ low (c.toNat - 128)

def differences (left right : Octets) : List (Nat × Char × Char) :=
  ((left.zip right).zipIdx 1).filterMap fun e =>
    if e.1.1 == e.1.2 then none else some (e.2, e.1.1, e.1.2)

def readWindow (options : Options) (operands : List Octets) : Except Octets Window := do
  let number (kind : String) (text : Octets) : Except Octets Nat :=
    match if text.head?.any Char.isDigit then count? text else none with
    | some n => .ok n
    | none => .error ("invalid --".toList ++ kind.toList ++ " value '".toList ++ text ++ ['\x27'])
  let both ← match options.value? 'i' with
    | none => pure (0, 0)
    | some text =>
      match Text.cut ':' text with
      | (left, some right) =>
        pure (← number "ignore-initial" left, ← number "ignore-initial" right)
      | (all, none) => do
        let n ← number "ignore-initial" all
        pure (n, n)
  let left ← (operands[2]?).mapM (number "ignore-initial")
  let right ← (operands[3]?).mapM (number "ignore-initial")
  return { left := left.getD both.1, right := right.getD both.2
           most := ← (options.value? 'n').mapM (number "bytes") }

def cannotCompare (name text : Octets) : Act Unit := do
  fail 2 name text
  report name ("Try '".toList ++ name ++ " --help' for more information.".toList)

def withComparison (flags : List Flag) (work : Octets → Options → List Octets → Act Unit) : Tool :=
  fun name arguments => do
    finish 0
    match readOptions false flags (arguments.length + 1) arguments with
    | .error text => cannotCompare name text
    | .ok (options, operands) => work name options operands

def cmp : Tool :=
  withComparison
    [⟨'b', "print-bytes", false⟩, ⟨'i', "ignore-initial", true⟩, ⟨'l', "verbose", false⟩,
      ⟨'n', "bytes", true⟩, ⟨'s', "silent", false⟩, ⟨'s', "quiet", false⟩]
    fun name options operands => do
      let wrong := cannotCompare name
      match operands[0]?, readWindow options operands, operands[4]? with
      | none, _, _ => wrong ("missing operand after '".toList ++ name ++ ['\x27'])
      | _, .error reason, _ => wrong reason
      | _, _, some extra => wrong ("extra operand '".toList ++ extra ++ ['\x27'])
      | some leftPath, .ok window, none =>
        if options.has 'l' && options.has 's' then
          wrong "options -l and -s are incompatible".toList
          return
        let rightPath := operands[1]?.getD ['-']
        let read (path : Octets) : Act (Option Octets) := do
          match ← content path with
          | .ok text => return some text
          | .error fault => do
            if !options.has 's' then report name (path ++ ": ".toList ++ fault.text)
            finish 2
            return none
        let some left ← read leftPath | return
        let some right ← if leftPath == rightPath then pure (some left) else read rightPath | return
        let part (skipped : Nat) (text : Octets) : Octets :=
          match window.most with
          | some most => (text.drop skipped).take most
          | none => text.drop skipped
        let (left, right) := (part window.left left, part window.right right)
        let found := differences left right
        let common := min left.length right.length
        let shownPair (a b : Char) : Octets × Octets :=
          if options.has 'b' then
            (octalText a ++ ' ' :: shownOctet a, octalText b ++ ' ' :: shownOctet b)
          else (octalText a, octalText b)
        if options.has 'l' then
          let width := (natText common).length
          found.forM fun e => do
            let (a, b) := shownPair e.2.1 e.2.2
            let a := if options.has 'b' then padRight 8 a else a
            print (padLeft width (natText e.1) ++ ' ' :: a ++ ' ' :: b ++ ['\n'])
        else if !options.has 's' then
          (found.take 1).forM fun e => do
            let number := ((left.take (e.1 - 1)).count '\n') + 1
            let (a, b) := shownPair e.2.1 e.2.2
            let bytes := if options.has 'b' then " is ".toList ++ a ++ ' ' :: b else []
            print (leftPath ++ ' ' :: rightPath ++ " differ: byte ".toList ++ natText e.1 ++
              ", line ".toList ++ natText number ++ bytes ++ ['\n'])
        let isFirstOnly := !options.has 'l'
        if !found.isEmpty then finish 1
        if left.length != right.length && (found.isEmpty || !isFirstOnly) then
          let (path, shorter) := if left.length < right.length then (leftPath, left)
            else (rightPath, right)
          let place : Octets :=
            if shorter.isEmpty then " which is empty".toList
            else
              let breaks := shorter.count '\n'
              " after byte ".toList ++ natText shorter.length ++
                if options.has 'l' then []
                else if shorter.getLast? == some '\n' then ", line ".toList ++ natText breaks
                else ", in line ".toList ++ natText (breaks + 1)
          if !options.has 's' then report name ("EOF on ".toList ++ path ++ place)
          finish 1

end NextRelease.Shell.Tool
