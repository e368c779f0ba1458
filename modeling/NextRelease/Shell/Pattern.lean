import NextRelease.Shell.Octets

/-!
Patterns for texts and for file names. A pattern comes as characters that are quoted or not; what is
quoted stands for itself.
-/

namespace NextRelease.Shell

abbrev Marked := List (Char × Bool)

def marked (quoted : Bool) (cs : Octets) : Marked := cs.map (·, quoted)

def plain (cs : Marked) : Octets := cs.map (·.1)

inductive Range where
  | chars (first last : Char)
  | named (name : String)
  deriving DecidableEq

def Range.has (c : Char) : Range → Bool
  | chars first last => first ≤ c && c ≤ last
  | named name =>
    match name with
    | "alpha" => c.isAlpha
    | "digit" => c.isDigit
    | "alnum" => c.isAlphanum
    | "upper" => c.isUpper
    | "lower" => c.isLower
    | "space" => " \t\n\r".toList.contains c || c.toNat == 11 || c.toNat == 12
    | "blank" => c == ' ' || c == '\t'
    | "punct" => 32 < c.toNat && c.toNat < 127 && !c.isAlphanum
    | "print" => 32 ≤ c.toNat && c.toNat < 127
    | "graph" => 32 < c.toNat && c.toNat < 127
    | "cntrl" => c.toNat < 32 || c.toNat == 127
    | "xdigit" => c.isDigit || "abcdefABCDEF".toList.contains c
    | _ => false

inductive Atom where
  | char (c : Char)
  | any
  | many
  | oneOf (negated : Bool) (ranges : List Range)
  deriving DecidableEq

def Atom.accepts (c : Char) : Atom → Bool
  | char d => c == d
  | any => true
  | many => false
  | oneOf negated ranges => ranges.any (Range.has c) != negated

def cutClassName (cs : Marked) : Option (String × Marked) :=
  let name := cs.takeWhile fun c => c.1.isAlpha
  match cs.drop name.length with
  | (':', _) :: (']', _) :: rest => some (String.ofList (plain name), rest)
  | _ => none

def readRanges : (fuel : Nat) → (isFirst : Bool) → Marked → Option (List Range × Marked)
  | 0, _, _ => none
  | _, _, [] => none
  | fuel + 1, isFirst, (c, quoted) :: cs =>
    if c = ']' ∧ quoted = false ∧ isFirst = false then some ([], cs)
    else
      let named := match c, cs with
        | '[', (':', _) :: rest => if quoted then none else cutClassName rest
        | _, _ => none
      match named, cs with
      | some (name, rest), _ =>
        (readRanges fuel false rest).map fun (ranges, rest) => (.named name :: ranges, rest)
      | none, ('-', false) :: (last, lastQuoted) :: rest =>
        if last = ']' ∧ lastQuoted = false then
          (readRanges fuel false cs).map fun (ranges, rest) => (.chars c c :: ranges, rest)
        else (readRanges fuel false rest).map fun (ranges, rest) => (.chars c last :: ranges, rest)
      | none, _ =>
        (readRanges fuel false cs).map fun (ranges, rest) => (.chars c c :: ranges, rest)

/-- Reads a pattern. A bracket that is never closed stands for itself, and an unquoted backslash
quotes the character behind it. -/
def readAtoms : (fuel : Nat) → Marked → List Atom
  | 0, _ => []
  | _, [] => []
  | fuel + 1, (c, true) :: cs => .char c :: readAtoms fuel cs
  | fuel + 1, (c, false) :: cs =>
    match c, cs with
    | '*', _ => .many :: readAtoms fuel cs
    | '?', _ => .any :: readAtoms fuel cs
    | '\\', (d, _) :: cs => .char d :: readAtoms fuel cs
    | '[', _ =>
      let (negated, inner) := match cs with
        | ('!', false) :: rest => (true, rest)
        | ('^', false) :: rest => (true, rest)
        | _ => (false, cs)
      match readRanges (cs.length + 1) true inner with
      | some (ranges, rest) => .oneOf negated ranges :: readAtoms fuel rest
      | none => .char '[' :: readAtoms fuel cs
    | _, _ => .char c :: readAtoms fuel cs

def suffixes : Octets → List Octets
  | [] => [[]]
  | c :: cs => (c :: cs) :: suffixes cs

def matchAtoms : List Atom → Octets → Bool
  | [], cs => cs.isEmpty
  | .many :: atoms, cs => (suffixes cs).any (matchAtoms atoms)
  | atom :: atoms, c :: cs => atom.accepts c && matchAtoms atoms cs
  | _ :: _, [] => false

def matchesPattern (pattern : Marked) (cs : Octets) : Bool :=
  matchAtoms (readAtoms (pattern.length + 1) pattern) cs

def isPattern (pattern : Marked) : Bool :=
  pattern.any fun c => !c.2 && (c.1 == '*' || c.1 == '?' || c.1 == '[')

def dropFront (longest : Bool) (pattern : Marked) (cs : Octets) : Octets :=
  let counts := List.range (cs.length + 1)
  let counts := if longest then counts.reverse else counts
  match counts.find? fun n => matchesPattern pattern (cs.take n) with
  | some n => cs.drop n
  | none => cs

def dropBack (longest : Bool) (pattern : Marked) (cs : Octets) : Octets :=
  let counts := List.range (cs.length + 1)
  let counts := if longest then counts else counts.reverse
  match counts.find? fun n => matchesPattern pattern (cs.drop n) with
  | some n => cs.take n
  | none => cs

end NextRelease.Shell
