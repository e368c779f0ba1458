import NextRelease.Shell.Test
import NextRelease.Shell.Tool.Basic
import NextRelease.Shell.Tool.Regex

/-!
Lines with numbers in front of them. Pages have a head, a body and a foot, of which each has its own
rule for the lines that are numbered; marks on lines of their own part them.
-/

namespace NextRelease.Shell.Tool

inductive Numbered where
  | all
  | filled
  | none
  | matching (regex : Regex)

inductive PagePart where
  | head
  | body
  | foot
  deriving DecidableEq

inductive NumberPlace where
  | left
  | right
  | rightWithZeros

namespace Numbering

structure Style where
  head : Numbered := .none
  body : Numbered := .filled
  foot : Numbered := .none
  place : NumberPlace := .right
  width : Nat := 6
  separator : Octets := ['\t']
  start : Int := 1
  step : Int := 1
  group : Nat := 1
  startsAnew : Bool := true
  mark : Octets := "\\:".toList

def Style.of (style : Style) : PagePart → Numbered
  | .head => style.head
  | .body => style.body
  | .foot => style.foot

structure Position where
  part : PagePart := .body
  number : Int
  emptyLines : Nat := 0

def Style.partAt? (style : Style) (line : Octets) : Option PagePart :=
  if style.mark.length < 2 then none
  else if line = style.mark ++ style.mark ++ style.mark then some .head
  else if line = style.mark ++ style.mark then some .body
  else if line = style.mark then some .foot
  else none

def Style.shownNumber (style : Style) (n : Int) : Octets :=
  match style.place with
  | .left => padRight style.width (intText n)
  | .right => padLeft style.width (intText n)
  | .rightWithZeros =>
    let digits := natText n.natAbs
    let sign := if n < 0 then ['-'] else []
    sign ++ List.replicate (style.width - sign.length - digits.length) '0' ++ digits

def Style.showLine (style : Style) (p : Position) (line : Octets) : Octets × Position :=
  match style.partAt? line with
  | some part =>
    (['\n'], { p with part, number := if style.startsAnew then style.start else p.number })
  | none =>
    let isEmpty := line.isEmpty
    let emptyLines := if isEmpty then p.emptyLines + 1 else p.emptyLines
    let counts := match style.of p.part with
      | .all => style.group ≤ 1 || !isEmpty || emptyLines == style.group
      | .filled => !isEmpty
      | .none => false
      | .matching regex => (Regex.find? {} regex line none).isSome
    if counts then
      (style.shownNumber p.number ++ style.separator ++ line ++ ['\n'],
        { p with number := p.number + style.step, emptyLines := 0 })
    else
      (List.replicate (style.width + style.separator.length) ' ' ++ line ++ ['\n'],
        { p with emptyLines })

def Style.showLines (style : Style) : Position → List Octets → Octets × Position
  | p, [] => ([], p)
  | p, line :: lines =>
    let (text, p) := style.showLine p (withoutBreak line)
    let (more, p) := style.showLines p lines
    (text ++ more, p)

def numbered? (word : Octets) : Option (Except String Numbered) :=
  match word with
  | ['a'] => some (.ok .all)
  | ['t'] => some (.ok .filled)
  | ['n'] => some (.ok .none)
  | 'p' :: pattern => some ((Regex.read .basic pattern).map .matching)
  | _ => none

def numberValue (subject : String) (least most : Int) (word : Octets) : Except Octets Int :=
  let refused (more : String) : Except Octets Int :=
    .error (("invalid " ++ subject ++ ": ").toList ++ inQuotes word ++ more.toList)
  let isRead := (word.filter (!Sum.isSpace ·)).length == word.length
  match Test.number word with
  | .ok n =>
    if !isRead then refused ""
    else if n < least || most < n then refused ": Numerical result out of range"
    else .ok n
  | .error _ => refused ""

structure Chosen where
  style : Style := {}
  mistakes : List Octets := []

/-- Takes one option into account; some that are wrong are reported together at the end. -/
def Chosen.take (chosen : Chosen) (option : Char × Octets) : Except Octets Chosen := do
  let style := chosen.style
  let word := option.2
  let set (style : Style) : Except Octets Chosen := return { chosen with style }
  let wrong (subject : String) : Except Octets Chosen :=
    return { chosen with
      mistakes := chosen.mistakes ++ [("invalid " ++ subject ++ ": ").toList ++ inQuotes word] }
  let lines (subject : String) (use : Numbered → Style) : Except Octets Chosen :=
    match numbered? word with
    | some (.ok numbered) => set (use numbered)
    | some (.error reason) => throw reason.toList
    | none => wrong subject
  match option.1 with
  | 'h' => lines "header numbering style" fun head => { style with head }
  | 'b' => lines "body numbering style" fun body => { style with body }
  | 'f' => lines "footer numbering style" fun foot => { style with foot }
  | 'v' => set { style with
      start := ← numberValue "starting line number" (-Sum.largest - 1) Sum.largest word }
  | 'i' => set { style with
      step := ← numberValue "line number increment" (-Sum.largest - 1) Sum.largest word }
  | 'l' => set { style with
      group := (← numberValue "line number of blank lines" 1 Sum.largest word).toNat }
  | 'w' => set { style with
      width := (← numberValue "line number field width" 1 2147483647 word).toNat }
  | 's' => set { style with separator := word }
  | 'p' => set { style with startsAnew := false }
  | 'n' =>
    match word with
    | ['l', 'n'] => set { style with place := .left }
    | ['r', 'n'] => set { style with place := .right }
    | ['r', 'z'] => set { style with place := .rightWithZeros }
    | _ => wrong "line numbering format"
  | _ => set { style with mark := if word.length = 1 then word ++ [':'] else word }

end Numbering

def nl : Tool :=
  withOptions false
    [⟨'h', "header-numbering", true⟩, ⟨'b', "body-numbering", true⟩,
      ⟨'f', "footer-numbering", true⟩, ⟨'v', "starting-line-number", true⟩,
      ⟨'i', "line-increment", true⟩, ⟨'p', "no-renumber", false⟩,
      ⟨'l', "join-blank-lines", true⟩, ⟨'s', "number-separator", true⟩,
      ⟨'w', "number-width", true⟩, ⟨'n', "number-format", true⟩, ⟨'d', "section-delimiter", true⟩]
    1 fun name options operands => do
      match options.foldlM Numbering.Chosen.take {} with
      | .error reason => fail 1 name reason
      | .ok chosen =>
        if !chosen.mistakes.isEmpty then
          chosen.mistakes.forM (fail 1 name)
          printError (helpHint name)
        else
          let style := chosen.style
          let _ ← (inputs operands).foldlM
            (fun p path => do
              match ← content path with
              | .ok text =>
                let (text, p) := style.showLines p (lines text)
                print text
                return p
              | .error fault => do
                fail 1 name (quotedIfPeculiar path ++ ": ".toList ++ fault.text)
                return p)
            ({ number := style.start } : Numbering.Position)
          complainIfClosed name operands ['-']

end NextRelease.Shell.Tool
