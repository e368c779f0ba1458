import NextRelease.Shell.Format
import NextRelease.Shell.Pattern
import NextRelease.Shell.Tool.Basic

/-!
Exchanging, squeezing and deleting single characters. The characters are given as sets, which are
written as lists of parts: single characters, ranges, classes and repetitions.
-/

namespace NextRelease.Shell.Tool

inductive SetPart where
  | chars (cs : Octets)
  | named (name : String) (cs : Octets)
  | equal (c : Char)
  | filling (c : Char)

namespace SetPart

def members (lacking : Nat) : SetPart → Octets
  | chars cs | named _ cs => cs
  | equal c => [c]
  | filling c => List.replicate lacking c

def isFilling : SetPart → Bool
  | filling _ => true
  | _ => false

def isEqual : SetPart → Bool
  | equal _ => true
  | _ => false

def isNamed : SetPart → Bool
  | named _ _ => true
  | _ => false

def isCase : SetPart → Bool
  | named name _ => name = "upper" || name = "lower"
  | _ => false

def allMembers (parts : List SetPart) (length : Nat) : Octets :=
  parts.flatMap (members (length - (parts.flatMap (members 0)).length))

def caseStarts (parts : List SetPart) (length : Nat) : List Nat :=
  let lacking := length - (parts.flatMap (members 0)).length
  parts.zipIdx.filterMap fun e =>
    if e.1.isCase then some ((parts.take e.2).flatMap (members lacking)).length else none

end SetPart

def classMembers (name : String) : Octets :=
  ((List.range 256).map Char.ofNat).filter fun c => Range.has c (.named name)

def setChars : (fuel : Nat) → Octets → Marked
  | 0, _ => []
  | _, [] => []
  | _, ['\\'] => [('\\', false)]
  | fuel + 1, '\\' :: c :: cs =>
    match octalValue? c with
    | some _ =>
      let (long, rest) := takeOctal 3 0 (c :: cs)
      let (value, rest) := if long < 256 then (long, rest) else takeOctal 2 0 (c :: cs)
      (Char.ofNat value, true) :: setChars fuel rest
    | none =>
      let d := if c = 'e' then c else (takeEscape? [c]).elim c Prod.fst
      (d, true) :: setChars fuel cs
  | fuel + 1, c :: cs => (c, false) :: setChars fuel cs

def escapeWarnings : (fuel : Nat) → Octets → List Octets
  | 0, _ => []
  | _, [] => []
  | _, ['\\'] => ["an unescaped backslash at end of string is not portable".toList]
  | fuel + 1, '\\' :: c :: cs =>
    match c :: cs with
    | a :: b :: c :: rest =>
      let (long, left) := takeOctal 3 0 [a, b, c]
      if left.isEmpty && 256 ≤ long then
        ("the ambiguous octal escape \\".toList ++ [a, b, c] ++
          " is being\n\tinterpreted as the 2-byte sequence \\0".toList ++ [a, b] ++
          ", ".toList ++ [c]) :: escapeWarnings fuel rest
      else escapeWarnings fuel (b :: c :: rest)
    | _ => escapeWarnings fuel cs
  | fuel + 1, _ :: cs => escapeWarnings fuel cs

def shownChar (c : Char) : Octets :=
  if 32 ≤ c.toNat && c.toNat < 127 then [c]
  else
    let digits := Nat.toDigits 8 c.toNat
    '\\' :: List.replicate (3 - digits.length) '0' ++ digits

def cutBefore? (sign : Char) : Marked → Option (Octets × Marked)
  | [] => none
  | (c, quoted) :: cs =>
    let isEnd := c == sign && !quoted && cs.head? == some (']', false)
    if isEnd then some ([], cs.drop 1)
    else (cutBefore? sign cs).map fun (text, rest) => (c :: text, rest)

abbrev PartRead := Except Octets (SetPart × Marked)

def repetition? : Marked → Option PartRead
  | (c, _) :: ('*', false) :: cs =>
    let count := cs.takeWhile fun e => !e.2 && e.1 != ']'
    match cs.drop count.length with
    | (']', false) :: rest =>
      let digits := plain count
      let base := if digits.head? == some '0' then 8 else 10
      if digits.all fun d => d.isDigit && d.toNat - 48 < base then
        let times := digits.foldl (fun n d => base * n + (d.toNat - 48)) 0
        some (.ok (if times = 0 then .filling c else .chars (List.replicate times c), rest))
      else
        some (.error ("invalid repeat count ".toList ++ inQuotes digits ++
          " in [c*n] construct".toList))
    | _ => none
  | _ => none

def looksRepeated : Marked → Bool
  | ('*', false) :: cs => (cs.dropWhile fun e => e.1.isDigit).head? == some (']', false)
  | _ => false

/-- Reads a part behind its bracket; `none` if the bracket stands for itself. -/
def bracketed? (cs : Marked) : Option PartRead :=
  match cs with
  | (sign, false) :: inner =>
    if sign != ':' && sign != '=' then repetition? cs
    else
      match cutBefore? sign inner with
      | none => repetition? cs
      | some ([], _) =>
        let kind := if sign = ':' then "class name" else "equivalence class character"
        let kind := if sign = ':' then "character " ++ kind else kind
        some (.error ("missing ".toList ++ kind.toList ++ " '[".toList ++ [sign, sign] ++
          "]'".toList))
      | some (text, rest) =>
        let name := String.ofList text
        let found := classMembers name
        if sign = ':' && !found.isEmpty then some (.ok (.named name found, rest))
        else
          match if sign = '=' then text else [] with
          | [c] => some (.ok (.equal c, rest))
          | _ =>
            if looksRepeated inner then repetition? cs
            else if sign = ':' then
              some (.error ("invalid character class ".toList ++ inQuotes text))
            else
              some (.error (text ++
                ": equivalence class operand must be a single character".toList))
  | _ => repetition? cs

def charsBetween (first last : Char) : Octets :=
  (List.range (last.toNat + 1 - first.toNat)).map fun n => Char.ofNat (first.toNat + n)

def setParts : (fuel : Nat) → Marked → Except Octets (List SetPart)
  | 0, _ => .ok []
  | _, [] => .ok []
  | fuel + 1, (c, quoted) :: cs => do
    match if c = '[' && !quoted && 2 ≤ cs.length then bracketed? cs else none with
    | some read =>
      let (part, rest) ← read
      return part :: (← setParts fuel rest)
    | none =>
      match cs with
      | ('-', false) :: (last, _) :: rest =>
        if last.toNat < c.toNat then
          .error ("range-endpoints of '".toList ++ shownChar c ++ '-' :: shownChar last ++
            "' are in reverse collating sequence order".toList)
        else return .chars (charsBetween c last) :: (← setParts fuel rest)
      | _ => return .chars [c] :: (← setParts fuel cs)

def readSet (name text : Octets) : Act (Option (List SetPart)) := do
  (escapeWarnings (text.length + 1) text).forM fun warning =>
    report name ("warning: ".toList ++ warning)
  match setParts (text.length + 1) (setChars (text.length + 1) text) with
  | .ok parts => return some parts
  | .error reason => do
    fail 1 name reason
    return none

def squeeze (squeezed : Char → Bool) : Octets → Octets
  | [] => []
  | c :: cs =>
    match squeeze squeezed cs with
    | [] => [c]
    | d :: ds => if c = d && squeezed c then d :: ds else c :: d :: ds

def exchanged (first second : Octets) (c : Char) : Char :=
  match ((first.zip second).filter fun e => e.1 == c).getLast? with
  | some (_, d) => d
  | none => c

structure Exchange where
  first : List SetPart
  second : List SetPart
  complement : Bool
  cuts : Bool

namespace Exchange

def source (x : Exchange) : Octets :=
  let named := SetPart.allMembers x.first 0
  if x.complement then ((List.range 256).map Char.ofNat).filter fun c => !named.contains c
  else named

def shortGoal (x : Exchange) : Octets := SetPart.allMembers x.second x.source.length

def goal (x : Exchange) : Octets :=
  let short := x.shortGoal
  if x.cuts then short
  else short ++ List.replicate (x.source.length - short.length) (short.getLast?.getD ' ')

/-- Why there can be no exchange between two sets. -/
def refusal? (x : Exchange) : Option String :=
  let (source, short) := (x.source, x.shortGoal)
  let isAligned := (SetPart.caseStarts x.second source.length).all fun n =>
    source.length ≤ n || (SetPart.caseStarts x.first 0).contains n
  if x.second.any SetPart.isEqual then
    some "[=c=] expressions may not appear in string2 when translating"
  else if x.second.any fun part => part.isNamed && !part.isCase then
    some ("when translating, the only character classes that may appear in\n" ++
      "string2 are 'upper' and 'lower'")
  else if !x.complement && !isAligned then
    some "misaligned [:upper:] and/or [:lower:] construct"
  else if !x.cuts && short.length < source.length && short.isEmpty then
    some "when not truncating set1, string2 must be non-empty"
  else if !x.cuts && short.length < source.length &&
      (x.second.getLast?.map SetPart.isNamed).getD false then
    some ("when translating with string1 longer than string2,\n" ++
      "the latter string must not end with a character class")
  else if x.complement && x.first.any SetPart.isNamed &&
      !(x.goal.length == source.length && x.goal.all fun c => some c == x.goal.head?) then
    some ("when translating with complemented character classes,\n" ++
      "string2 must map all characters in the domain to one")
  else none

end Exchange

def tr : Tool :=
  withOptions true
    [⟨'c', "complement", false⟩, ⟨'C', "", false⟩, ⟨'d', "delete", false⟩,
      ⟨'s', "squeeze-repeats", false⟩, ⟨'t', "truncate-set1", false⟩]
    1 fun name options operands => do
      let (deletes, squeezes) := (options.has 'd', options.has 's')
      let complement := options.has 'c' || options.has 'C'
      let misusedWith (text : Octets) (rule : String) : Act Unit := do
        report name text
        printError (rule ++ "\n").toList
        printError (helpHint name)
        finish 1
      match operands with
      | [] => misuse 1 name "missing operand".toList
      | first :: rest =>
        let missing := "missing operand after ".toList ++ inQuotes first
        let isSingle := deletes != squeezes
        match rest with
        | [] =>
          if !isSingle then
            misusedWith missing (if deletes then
                "Two strings must be given when both deleting and squeezing repeats."
              else "Two strings must be given when translating.")
          else
            let some parts ← readSet name first | return
            if parts.any SetPart.isFilling then
              fail 1 name "the [c*] repeat construct may not appear in string1".toList
            else
              let set := SetPart.allMembers parts 0
              let isIn (c : Char) : Bool := set.contains c != complement
              let text ← readAll 0
              print (if deletes then text.filter fun c => !isIn c else squeeze isIn text)
        | second :: rest =>
          if deletes && !squeezes then
            let extra := "extra operand ".toList ++ inQuotes second
            if rest.isEmpty then
              misusedWith extra
                "Only one string may be given when deleting without squeezing repeats."
            else misuse 1 name extra
          else if let third :: _ := rest then
            misuse 1 name ("extra operand ".toList ++ inQuotes third)
          else
            let some first ← readSet name first | return
            let some second ← readSet name second | return
            let x : Exchange := ⟨first, second, complement, options.has 't'⟩
            if first.any SetPart.isFilling then
              fail 1 name "the [c*] repeat construct may not appear in string1".toList
            else if 1 < (second.filter SetPart.isFilling).length then
              fail 1 name "only one [c*] repeat construct may appear in string2".toList
            else if deletes then
              if second.any SetPart.isFilling then
                fail 1 name
                  "the [c*] construct may appear in string2 only when translating".toList
              else
                let set := SetPart.allMembers first 0
                let text := (← readAll 0).filter fun c => set.contains c == complement
                print (squeeze (SetPart.allMembers second 0).contains text)
            else
              match x.refusal? with
              | some reason => fail 1 name reason.toList
              | none =>
                let text := (← readAll 0).map (exchanged x.source x.goal)
                print (if squeezes then squeeze x.goal.contains text else text)

end NextRelease.Shell.Tool
