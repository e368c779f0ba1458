import NextRelease.Text.Basic

/-!
Versions: three numbers, pre-release identifiers and build identifiers, and their written form
`major.minor.patch-pre.release+build`. The identifiers carry the proof that they can be written.
-/

namespace NextRelease

namespace Version

def isIdentifierChar (c : Char) : Bool := c.isAlphanum || c == '-'

def isWord (cs : List Char) : Bool := cs.all isIdentifierChar && cs.any fun c => !c.isDigit

def isBuildWord (cs : List Char) : Bool := !cs.isEmpty && cs.all isIdentifierChar

/-- A pre-release identifier: a number or a word. -/
inductive PreIdentifier where
  | number (value : Nat)
  | word (chars : List Char) (valid : isWord chars = true)
  deriving DecidableEq

def PreIdentifier.render : PreIdentifier → List Char
  | number n => Nat.toDigits 10 n
  | word cs _ => cs

def PreIdentifier.read? (cs : List Char) : Option PreIdentifier :=
  if h : isWord cs = true then some (word cs h)
  else if Text.isNumeral cs then some (number (Nat.ofDigitChars 10 cs 0))
  else none

/-- A build identifier: digits may have leading zeros. -/
structure BuildIdentifier where
  chars : List Char
  valid : isBuildWord chars = true
  deriving DecidableEq

def BuildIdentifier.read? (cs : List Char) : Option BuildIdentifier :=
  if h : isBuildWord cs = true then some ⟨cs, h⟩ else none

end Version

/-- A version; one without pre-release identifiers is a release. -/
structure Version where
  major : Nat
  minor : Nat
  patch : Nat
  pre : List Version.PreIdentifier := []
  build : List Version.BuildIdentifier := []
  deriving DecidableEq

namespace Version

def preChars (v : Version) : List Char := Text.joinWith '.' (v.pre.map PreIdentifier.render)

def buildChars (v : Version) : List Char := Text.joinWith '.' (v.build.map BuildIdentifier.chars)

def render (v : Version) : List Char :=
  Nat.toDigits 10 v.major ++ '.' :: (Nat.toDigits 10 v.minor ++ '.' :: Nat.toDigits 10 v.patch) ++
    (if v.pre.isEmpty then [] else '-' :: v.preChars) ++
    (if v.build.isEmpty then [] else '+' :: v.buildChars)

/-- Whether the three numbers are short enough to be written. -/
def isPrintable (v : Version) : Bool :=
  Text.hasNumeral v.major && Text.hasNumeral v.minor && Text.hasNumeral v.patch

/-- The written form, if the numbers are short enough. -/
def print? (v : Version) : Option String :=
  if v.isPrintable then some (String.ofList v.render) else none

end Version

end NextRelease

/-! ## Reading

Reading versions. The strict form is the written form; around it blanks are allowed, and one `v` or
`=` in front of it.
-/

namespace NextRelease.Version

def readIdentifiers? {α : Type} (read? : List Char → Option α) : Option (List Char) →
    Option (List α)
  | none => some []
  | some cs => (Text.splitOn '.' cs).mapM read?

def read? (cs : List Char) : Option Version :=
  let (front, build) := Text.cut '+' cs
  let (core, pre) := Text.cut '-' front
  match Text.splitOn '.' core with
  | [major, minor, patch] => do
    let major ← Text.readNumeral? major
    let minor ← Text.readNumeral? minor
    let patch ← Text.readNumeral? patch
    let pre ← readIdentifiers? PreIdentifier.read? pre
    let build ← readIdentifiers? BuildIdentifier.read? build
    return { major, minor, patch, pre, build }
  | _ => none

def dropMark : List Char → List Char
  | c :: cs => if c = 'v' ∨ c = '=' then cs else c :: cs
  | [] => []

def parse? (s : String) : Option Version := read? (dropMark (Text.trimChars s.toList))

/-! ## Precedence

Precedence of versions. Build identifiers do not count; a release stands above its pre-releases;
numbers stand below words and compare by value, words by code point.
-/

def PreIdentifier.precedence : PreIdentifier → PreIdentifier → Ordering
  | number m, number n => compare m n
  | number _, word _ _ => .lt
  | word _ _, number _ => .gt
  | word v _, word w _ => compare v w

instance : Ord PreIdentifier := ⟨PreIdentifier.precedence⟩

def prePrecedence : List PreIdentifier → List PreIdentifier → Ordering
  | [], [] => .eq
  | [], _ :: _ => .gt
  | _ :: _, [] => .lt
  | p :: ps, q :: qs => compare (p :: ps) (q :: qs)

def precedence (v w : Version) : Ordering :=
  (compare v.major w.major).then <| (compare v.minor w.minor).then <|
    (compare v.patch w.patch).then (prePrecedence v.pre w.pre)

def isBelow (v w : Version) : Bool := (precedence v w).isLT

def isLevelWith (v w : Version) : Bool := (precedence v w).isEq

/-- The later of two versions; the first one if neither is later. -/
def latest (v : Version) : Option Version → Version
  | none => v
  | some w => if isBelow v w then w else v

def firstMaximal? {α : Type} : List (Version × α) → Option (Version × α)
  | [] => none
  | pair :: pairs =>
    some (pairs.foldl (fun best next => if isBelow best.1 next.1 then next else best) pair)

end NextRelease.Version
