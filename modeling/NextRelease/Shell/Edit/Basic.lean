import NextRelease.Shell.Tool.Regex

/-!
Scripts that edit lines: commands, each for the lines that its addresses choose.
-/

namespace NextRelease.Shell.Edit

structure Expression where
  regex : Regex
  manner : Regex.Manner
  isBare : Bool := false

inductive Address where
  | line (n : Nat)
  | last
  | holds (expression : Option Expression)
  | every (first step : Nat)
  | after (count : Nat)
  | multiple (factor : Nat)

structure Choice where
  start : Option Address := none
  stop : Option Address := none
  negated : Bool := false

inductive LetterCase where
  | small
  | large

def LetterCase.apply (letters : LetterCase) (c : Char) : Char :=
  match letters with
  | small => Wide.lower c
  | large => Wide.upper c

structure Casing where
  first : Option LetterCase := none
  rest : Option LetterCase := none

def Casing.apply (casing : Casing) (text : List Char) : List Char :=
  let change (letters : Option LetterCase) (c : Char) : Char :=
    match letters with
    | some letters => letters.apply c
    | none => c
  match text with
  | [] => []
  | c :: cs => change (casing.first.or casing.rest) c :: cs.map (change casing.rest)

structure Piece where
  text : List Char
  casing : Casing := {}
  group : Option Nat := none

inductive Printing where
  | never
  | beforeRun
  | afterRun
  deriving DecidableEq

structure Substitution where
  expression : Option Expression := none
  pieces : List Piece
  all : Bool := false
  first : Option Nat := none
  prints : Printing := .never
  runs : Bool := false
  target : Option Octets := none

inductive JumpKind where
  | always
  | ifReplaced
  | unlessReplaced
  deriving DecidableEq

inductive Action where
  | opening
  | closing
  | delete
  | deleteFirst
  | print
  | printFirst
  | quit (prints : Bool) (status : Nat)
  | lineNumber
  | fileName
  | list (width : Option Nat)
  | substitute (s : Substitution)
  | exchange (source goal : List Char)
  | append (text : Octets)
  | insert (text : Octets)
  | change (text : Octets)
  | run (command : Option Octets)
  | next
  | join
  | hold (appends : Bool)
  | recall (appends : Bool)
  | swap
  | clear
  | label (name : Octets)
  | jump (kind : JumpKind) (name : Octets)
  | readFile (path : Octets) (isFirst : Bool)
  | readLine (path : Octets)
  | write (path : Octets) (onlyFirst : Bool)

structure Command where
  choice : Choice
  action : Action

def Action.withText (action : Action) (text : Octets) : Action :=
  match action with
  | append _ => .append text
  | insert _ => .insert text
  | change _ => .change text
  | run _ => .run (some text)
  | action => action

structure Source where
  file : Option Octets := none
  number : Nat := 0
  text : Octets

def Source.place (source : Source) (left : Nat) : Octets :=
  let taken := source.text.take (source.text.length - left)
  match source.file with
  | some file =>
    "file ".toList ++ file ++ " line ".toList ++ natText (taken.count '\n' + 1) ++ ": ".toList
  | none =>
    "-e expression #".toList ++ natText source.number ++ ", char ".toList ++
      natText taken.length ++ ": ".toList

inductive Mistake where
  | fault (source : Source) (left : Nat) (reason : Octets)
  | failure (reason : Octets)

def Mistake.text : Mistake → Octets
  | fault source left reason => source.place left ++ reason
  | failure reason => reason

def Mistake.status : Mistake → Nat
  | fault _ _ _ => 1
  | failure _ => 4

/-! ## Escapes -/

def valueIn (base : Nat) (digits : Octets) : Nat :=
  digits.foldl (fun n c =>
    let digit := if c.isDigit then c.toNat - 48 else c.toLower.toNat - 87
    n * base + digit) 0

def isDigitIn (base : Nat) (c : Char) : Bool :=
  if base = 16 then c.isDigit || ('a' ≤ c.toLower && c.toLower ≤ 'f')
  else 48 ≤ c.toNat && c.toNat < 48 + base

/-- The octet that an escape stands for, and what follows it; the backslash was taken. -/
def escaped? : Octets → Option (Char × Octets)
  | 'a' :: rest => some ('\x07', rest)
  | 'f' :: rest => some ('\x0c', rest)
  | 'n' :: rest => some ('\n', rest)
  | 'r' :: rest => some ('\r', rest)
  | 't' :: rest => some ('\t', rest)
  | 'v' :: rest => some ('\x0b', rest)
  | 'c' :: '\\' :: '\\' :: rest => some ('\x1c', rest)
  | 'c' :: '\\' :: _ => none
  | ['c'] => some ('\\', [])
  | 'c' :: c :: rest => some (Char.ofNat (Nat.xor c.toUpper.toNat 64), rest)
  | c :: rest =>
    let number (base most : Nat) : Option (Char × Octets) :=
      let digits := (rest.take most).takeWhile (isDigitIn base)
      if digits.isEmpty then none
      else some (Char.ofNat (valueIn base digits % 256), rest.drop digits.length)
    match c with
    | 'd' => number 10 3
    | 'o' => number 8 3
    | 'x' => number 16 2
    | _ => none
  | [] => none

def resolved (keepsOthers : Bool) : (fuel : Nat) → Octets → Octets
  | 0, cs => cs
  | _, [] => []
  | fuel + 1, '\\' :: cs =>
    match escaped? cs, cs with
    | some (c, rest), _ => c :: resolved keepsOthers fuel rest
    | none, c :: rest =>
      (if keepsOthers then ['\\', c] else [c]) ++ resolved keepsOthers fuel rest
    | none, [] => ['\\']
  | fuel + 1, c :: cs => c :: resolved keepsOthers fuel cs

def plainText (cs : Octets) : Octets := resolved false (cs.length + 1) cs

def expressionText (cs : Octets) : Octets := resolved true (cs.length + 1) cs

/-! ## Replacements -/

/-- Reads the pieces of a replacement; `text` holds what stands in front, the last character first,
`casing` is for the piece that is being read, and `lasting` for those that follow. -/
def readPieces : (fuel : Nat) → (text : Octets) → (casing : Casing) →
  (lasting : Option LetterCase) →
    Octets → List Piece
  | 0, _, _, _, _ => []
  | _, text, casing, _, [] =>
    if text.isEmpty then [] else [{ text := Wide.ofOctets text.reverse, casing }]
  | fuel + 1, text, casing, lasting, c :: cs =>
    let piece (text : Octets) (group : Option Nat) : Piece :=
      { text := Wide.ofOctets text.reverse, casing, group }
    let after : Casing := { rest := lasting }
    if c = '&' then piece text (some 0) :: readPieces fuel [] after lasting cs
    else if c != '\\' then readPieces fuel (c :: text) casing lasting cs
    else
      match escaped? cs, cs with
      | some (c, rest), _ => readPieces fuel (c :: text) casing lasting rest
      | none, [] => [piece ('\\' :: text) none]
      | none, d :: rest =>
        let front := piece text none
        match d with
        | 'L' => front :: readPieces fuel [] { rest := some .small } (some .small) rest
        | 'U' => front :: readPieces fuel [] { rest := some .large } (some .large) rest
        | 'E' => front :: readPieces fuel [] {} none rest
        | 'l' => front :: readPieces fuel [] { after with first := some .small } lasting rest
        | 'u' => front :: readPieces fuel [] { after with first := some .large } lasting rest
        | d =>
          if d.isDigit then
            piece text (some (d.toNat - 48)) :: readPieces fuel [] after lasting rest
          else piece (d :: text) none :: readPieces fuel [] after lasting rest

def piecesOf (cs : Octets) : List Piece := readPieces (cs.length + 1) [] {} none cs

def replacement (found : Regex.Found) : (waiting : Option LetterCase) → List Piece → List Char
  | _, [] => []
  | waiting, piece :: pieces =>
    let first := piece.casing.first.or waiting
    let casing := { piece.casing with first }
    let front := casing.apply piece.text
    match piece.group with
    | none => front ++ replacement found none pieces
    | some number =>
      let group := if number = 0 then found.text else (found.groups.lookup number).getD []
      let left := if piece.text.isEmpty then casing else { casing with first := none }
      let waiting := if group.isEmpty && piece.casing.first.isSome then left.first else none
      front ++ left.apply group ++ replacement found waiting pieces

def mostGroup (pieces : List Piece) : Nat :=
  (pieces.filterMap Piece.group).foldl max 0

end NextRelease.Shell.Edit
