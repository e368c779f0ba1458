import NextRelease.Shell.Pattern
import NextRelease.Shell.Octets

/-!
Regular expressions, basic and extended. A match is looked for from left to right; of several that
start at one place, repetitions take as much as they can.
-/

namespace NextRelease.Shell

inductive Edge where
  | textStart
  | textEnd
  | wordStart
  | wordEnd
  | word
  | noWord

inductive Regex where
  | empty
  | atom (atom : Atom)
  | start
  | finish
  | edge (edge : Edge)
  | sequence (first second : Regex)
  | choice (first second : Regex)
  | group (number : Nat) (inner : Regex)
  | again (number : Nat)
  | repeated (least : Nat) (most : Option Nat) (inner : Regex)

namespace Regex

/-! ## Reading -/

inductive Orphan where
  | ordinary
  | passed
  | refused
  deriving DecidableEq

structure Dialect where
  isExtended : Bool
  orphan : Orphan := .ordinary
  hasLooseParens : Bool := false
  hasLooseBounds : Bool := false
  refusesColons : Bool := false

namespace Dialect

def basic : Dialect := { isExtended := false }

def strictBasic : Dialect := { isExtended := false, orphan := .refused }

def extended : Dialect := { isExtended := true, orphan := .refused }

def loose : Dialect :=
  { isExtended := true, orphan := .passed, hasLooseParens := true, hasLooseBounds := true }

end Dialect

structure Reading where
  text : Octets
  groups : Nat := 0
  closed : List Nat := []
  orphans : List String := []

inductive Sign where
  | opening
  | closing
  | bar
  | star
  | plus
  | question
  | brace
  deriving DecidableEq

def signOf? : Char → Option Sign
  | '(' => some .opening
  | ')' => some .closing
  | '|' => some .bar
  | '+' => some .plus
  | '?' => some .question
  | '\x7b' => some .brace
  | _ => none

def sign? (extended : Bool) : Octets → Option (Sign × Octets)
  | '*' :: cs => some (.star, cs)
  | '\\' :: c :: cs => if extended then none else (signOf? c).map (·, cs)
  | c :: cs => if extended then (signOf? c).map (·, cs) else none
  | [] => none

inductive Bounds where
  | bounds (least : Nat) (most : Option Nat) (rest : Octets)
  | mistaken (reason : String)
  | loose

def mostRepeats : Nat := 32767

/-- Reads the bounds of a repetition and the brace behind them. -/
def readBounds (dialect : Dialect) (cs : Octets) : Bounds :=
  let least := cs.takeWhile Char.isDigit
  let rest := cs.drop least.length
  let (most, behind) := match rest with
    | ',' :: rest =>
      let most := rest.takeWhile Char.isDigit
      (if most.isEmpty then none else some (readNat most), rest.drop most.length)
    | rest => (some (readNat least), rest)
  let closing : Octets := if dialect.isExtended then ['\x7d'] else ['\\', '\x7d']
  let isClosed := closing.isPrefixOf behind
  if isClosed && least.isEmpty && rest.head? != some ',' then
    .mistaken "Invalid content of \\\x7b\\\x7d"
  else if !isClosed then
    if dialect.hasLooseBounds then .loose
    else if behind.isEmpty then .mistaken "Unmatched \\\x7b"
    else .mistaken "Invalid content of \\\x7b\\\x7d"
  else if most.any fun most => most < readNat least then
    .mistaken "Invalid content of \\\x7b\\\x7d"
  else if mostRepeats < most.getD (readNat least) then .mistaken "Regular expression too big"
  else .bounds (readNat least) most (behind.drop closing.length)

def class? : Char → Option Regex
  | 'w' => some (.atom (.oneOf false [.named "alnum", .chars '_' '_']))
  | 'W' => some (.atom (.oneOf true [.named "alnum", .chars '_' '_']))
  | 's' => some (.atom (.oneOf false [.named "space"]))
  | 'S' => some (.atom (.oneOf true [.named "space"]))
  | 'b' => some (.edge .word)
  | 'B' => some (.edge .noWord)
  | '<' => some (.edge .wordStart)
  | '>' => some (.edge .wordEnd)
  | '\x27' => some (.edge .textEnd)
  | c => if isBackquote c then some (.edge .textStart) else none

abbrev Read := Except String (Regex × Reading)

def classNames : List String :=
  ["alpha", "digit", "alnum", "upper", "lower", "space", "blank", "punct", "print", "graph",
    "cntrl", "xdigit"]

def openBracket : String := "Unmatched [, [^, [:, [., or [="

inductive Member where
  | named (name : String)
  | char (c : Char)

def hasOrder (c : Char) : Bool := c.toNat < 128

def noOrder : String := "Invalid collation character"

def readMember : Octets → Except String (Member × Octets)
  | [] => .error openBracket
  | '[' :: mark :: rest =>
    if mark = ':' || mark = '.' || mark = '=' then
      let name := rest.takeWhile (· != mark)
      match rest.drop name.length with
      | _ :: ']' :: behind =>
        if mark = ':' then
          let name := String.ofList name
          if classNames.contains name then .ok (.named name, behind)
          else .error "Invalid character class name"
        else
          match name with
          | [c] => if hasOrder c then .ok (.char c, behind) else .error noOrder
          | _ => .error noOrder
      | _ => if mark = ':' then .ok (.char '[', mark :: rest) else .error openBracket
    else .ok (.char '[', mark :: rest)
  | c :: rest => .ok (.char c, rest)

def readMembers : (fuel : Nat) → (isFirst : Bool) → Octets → Except String (List Range × Octets)
  | 0, _, _ => .error openBracket
  | fuel + 1, isFirst, cs => do
    match isFirst, cs with
    | false, ']' :: rest => return ([], rest)
    | _, cs =>
      let (member, rest) ← readMember cs
      let isRange := match rest with
        | '-' :: ']' :: _ | ['-'] => false
        | '-' :: _ => true
        | _ => false
      let (range, rest) ← match member, isRange with
        | .named name, false => pure (Range.named name, rest)
        | .char c, false => pure (.chars c c, rest)
        | .named _, true => throw "Invalid range end"
        | .char c, true => do
          match ← readMember (rest.drop 1) with
          | (.char d, rest) =>
            if !hasOrder c || !hasOrder d then throw noOrder
            if d < c then throw "Invalid range end"
            pure (.chars c d, rest)
          | _ => throw "Invalid range end"
      let (ranges, rest) ← readMembers fuel false rest
      return (range :: ranges, rest)

def readRepeats (dialect : Dialect) : (fuel : Nat) → Regex → Octets →
    Except String (Regex × Octets)
  | 0, inner, cs => .ok (inner, cs)
  | fuel + 1, inner, cs =>
    match sign? dialect.isExtended cs with
    | some (.star, rest) => readRepeats dialect fuel (.repeated 0 none inner) rest
    | some (.plus, rest) => readRepeats dialect fuel (.repeated 1 none inner) rest
    | some (.question, rest) => readRepeats dialect fuel (.repeated 0 (some 1) inner) rest
    | some (.brace, rest) =>
      match readBounds dialect rest with
      | .bounds least most rest => readRepeats dialect fuel (.repeated least most inner) rest
      | .mistaken reason => .error reason
      | .loose => .ok (inner, cs)
    | _ => .ok (inner, cs)

def colonsReason : String := "character class syntax is [[:space:]], not [:space:]"

def looksNamed (ranges : List Range) (inner : Octets) (size : Nat) : Bool :=
  let written := inner.take (size - 1)
  let isSingle : Range → Bool
    | .chars c d => c == d
    | .named _ => false
  written.head? == some ':' && written.getLast? == some ':' && 2 < written.length &&
    ranges.all isSingle

/-- Reads one item without the repetitions behind it. -/
def readItem (dialect : Dialect) (atStart : Bool) (closed : List Nat) (cs : Octets) :
    Except String (Regex × Octets) :=
  let extended := dialect.isExtended
  match cs with
  | [] => .ok (.empty, [])
  | '\\' :: [] => .error "Trailing backslash"
  | '\\' :: c :: rest =>
    if c.isDigit && c != '0' then
      let number := c.toNat - 48
      if closed.contains number then .ok (.again number, rest) else .error "Invalid back reference"
    else
      match class? c with
      | some item => .ok (item, rest)
      | none => .ok (.atom (.char c), rest)
  | '.' :: rest => .ok (.atom .any, rest)
  | '[' :: rest => do
    let (negated, inner) := match rest with
      | '^' :: inner => (true, inner)
      | inner => (false, inner)
    if inner.isEmpty && !dialect.refusesColons then throw "Invalid regular expression"
    let (ranges, rest) ← readMembers (inner.length + 1) true inner
    if dialect.refusesColons && looksNamed ranges inner (inner.length - rest.length) then
      throw colonsReason
    return (.atom (.oneOf negated ranges), rest)
  | '^' :: rest => .ok (if extended || atStart then .start else .atom (.char '^'), rest)
  | '$' :: rest =>
    let atEnd := rest.isEmpty || (!extended && (sign? false rest).any fun s =>
      s.1 == .closing || s.1 == .bar)
    .ok (if extended || atEnd then .finish else .atom (.char '$'), rest)
  | c :: rest => .ok (.atom (.char c), rest)

def isAnchor : Regex → Bool
  | .start | .finish | .edge _ => true
  | _ => false

def Sign.mark? : Sign → Option String
  | star => some "*"
  | plus => some "+"
  | question => some "?"
  | brace => some "\x7b...\x7d"
  | _ => none

inductive Head where
  | absent
  | literal (c : Char) (rest : Octets)
  | passed (mark : String) (rest : Octets)

def readHead (dialect : Dialect) (cs : Octets) : Except String Head :=
  match sign? dialect.isExtended cs with
  | some (sign, rest) =>
    match sign.mark? with
    | none => .ok .absent
    | some mark =>
      let c := (cs.dropWhile (· == '\\')).head?.getD '*'
      let isLoose := sign = .brace && dialect.hasLooseBounds && match readBounds dialect rest with
        | .loose => true
        | _ => false
      if isLoose then .ok .absent
      else
        match dialect.orphan with
        | .ordinary => .ok (.literal c rest)
        | .passed => .ok (.passed mark rest)
        | .refused =>
          if dialect.isExtended || sign = .brace then .error "Invalid preceding regular expression"
          else .ok (.literal c rest)
  | none => .ok .absent

mutual

def readChoice (dialect : Dialect) : (fuel : Nat) → Reading → Read
  | 0, _ => .error "out of fuel"
  | fuel + 1, r => do
    let (first, r) ← readSequence dialect fuel true r
    match sign? dialect.isExtended r.text with
    | some (.bar, rest) => do
      let (second, r) ← readChoice dialect fuel { r with text := rest }
      return (.choice first second, r)
    | _ => return (first, r)

def readSequence (dialect : Dialect) : (fuel : Nat) → (atStart : Bool) → Reading → Read
  | 0, _, _ => .error "out of fuel"
  | fuel + 1, atStart, r => do
    match r.text, sign? dialect.isExtended r.text with
    | [], _ | _, some (.bar, _) => return (.empty, r)
    | _, some (.opening, rest) => do
      let number := r.groups + 1
      let (inner, r) ← readChoice dialect fuel { r with text := rest, groups := number }
      match sign? dialect.isExtended r.text with
      | some (.closing, rest) => do
        let (first, rest) ← readRepeats dialect (rest.length + 1) (.group number inner) rest
        let (second, r) ← readSequence dialect fuel false
          { r with text := rest, closed := number :: r.closed }
        return (.sequence first second, r)
      | _ => throw "Unmatched ( or \\("
    | text, sign => do
      let isClosing := match sign with
        | some (.closing, _) => true
        | _ => false
      if isClosing && !(dialect.hasLooseParens && r.closed.length = r.groups) then
        return (.empty, r)
      let head ← if atStart then readHead dialect text else pure Head.absent
      match head with
      | .passed mark rest =>
        readSequence dialect fuel true { r with text := rest, orphans := r.orphans ++ [mark] }
      | head => do
        let (item, rest) ← match head with
          | .literal c rest => pure (Regex.atom (.char c), rest)
          | _ =>
            if isClosing then pure (Regex.atom (.char ')'), text.drop 1)
            else readItem dialect atStart r.closed text
        let (first, rest) ← if isAnchor item then pure (item, rest)
          else readRepeats dialect (rest.length + 1) item rest
        let (second, r) ← readSequence dialect fuel (isAnchor item) { r with text := rest }
        return (.sequence first second, r)

end

def readWith (dialect : Dialect) (text : Octets) : Except String (Regex × List String) := do
  let (regex, r) ← readChoice dialect (4 * text.length + 4) { text }
  if r.text.isEmpty then return (regex, r.orphans) else throw "Unmatched ) or \\)"

def read (dialect : Dialect) (text : Octets) : Except String Regex :=
  (readWith dialect text).map (·.1)

def literal (text : Octets) : Regex :=
  text.foldr (fun c rest => .sequence (.atom (.char c)) rest) .empty

/-! ## Matching -/

structure Manner where
  ignoresCase : Bool := false
  isByLine : Bool := false
  isWide : Bool := false

instance : Coe Bool Manner := ⟨fun ignoresCase => { ignoresCase }⟩

abbrev Groups := List (Nat × Octets)

structure Place where
  rest : Octets
  last : Option Char
  taken : Nat := 0
  groups : Groups := []

def lowerIn (manner : Manner) (c : Char) : Char :=
  if manner.isWide then Wide.lower c else c.toLower

def upperIn (manner : Manner) (c : Char) : Char :=
  if manner.isWide then Wide.upper c else c.toUpper

def sameChar (manner : Manner) (c d : Char) : Bool :=
  c == d || (manner.ignoresCase && lowerIn manner c == lowerIn manner d)

def wideClassHas (name : String) (c : Char) : Bool :=
  match name with
  | "alpha" | "alnum" => Wide.isLetter c
  | "lower" => Wide.isLetter c && Wide.upper c != c
  | "upper" => Wide.isLetter c && Wide.lower c != c
  | "punct" => !Wide.isLetter c && 0xa0 < c.toNat
  | "print" | "graph" => 0xa0 < c.toNat
  | _ => false

def atomAccepts (manner : Manner) (c : Char) (atom : Atom) : Bool :=
  if !manner.isWide || c.toNat < 128 then atom.accepts c
  else if Wide.isStray c then atom == .char c
  else
    match atom with
    | .oneOf negated ranges =>
      (ranges.any fun range => match range with
        | .named name => wideClassHas name c
        | range => range.has c) != negated
    | atom => atom.accepts c

def isOpen : Atom → Bool
  | .any => true
  | .oneOf negated _ => negated
  | _ => false

def accepts (manner : Manner) (atom : Atom) (c : Char) : Bool :=
  !(manner.isByLine && c == '\n' && isOpen atom) &&
    (atomAccepts manner c atom ||
      (manner.ignoresCase && (atomAccepts manner (lowerIn manner c) atom ||
        atomAccepts manner (upperIn manner c) atom)))

def isWordChar (manner : Manner) (c : Char) : Bool :=
  c.isAlphanum || c == '_' || (manner.isWide && 128 ≤ c.toNat && Wide.isLetter c)

def edgeHolds (manner : Manner) (p : Place) (edge : Edge) : Bool :=
  let before := p.last.any (isWordChar manner)
  let behind := p.rest.head?.any (isWordChar manner)
  match edge with
  | .textStart => p.last.isNone
  | .textEnd => p.rest.isEmpty
  | .wordStart => !before && behind
  | .wordEnd => before && !behind
  | .word => before != behind
  | .noWord => before == behind

def Place.pass (p : Place) (count : Nat) : Place :=
  { p with
    rest := p.rest.drop count
    last := (p.rest.take count).getLast?.or p.last
    taken := p.taken + count }

/-- The places behind all matches from a place on, the preferred ones first. -/
def places (manner : Manner) : (fuel : Nat) → Regex → Place → List Place
  | 0, _, _ => []
  | fuel + 1, regex, p =>
    match regex with
    | empty => [p]
    | atom a =>
      match p.rest with
      | c :: rest =>
        if accepts manner a c then [{ p with rest, last := some c, taken := p.taken + 1 }] else []
      | [] => []
    | start =>
      if p.last.isNone || (manner.isByLine && p.last == some '\n') then [p] else []
    | finish =>
      if p.rest.isEmpty || (manner.isByLine && p.rest.head? == some '\n') then [p] else []
    | edge e => if edgeHolds manner p e then [p] else []
    | sequence first second =>
      (places manner fuel first p).flatMap (places manner fuel second)
    | choice first second => places manner fuel first p ++ places manner fuel second p
    | group number inner =>
      (places manner fuel inner p).map fun q =>
        { q with groups := (number, p.rest.take (q.taken - p.taken)) :: q.groups }
    | again number =>
      match p.groups.lookup number with
      | none => []
      | some text =>
        let isThere := text.length ≤ p.rest.length &&
          (text.zip p.rest).all fun cs => sameChar manner cs.1 cs.2
        if isThere then [p.pass text.length] else []
    | repeated least most inner =>
      let more : List Place :=
        if most = some 0 then []
        else
          (places manner fuel inner p).flatMap fun q =>
            if q.taken = p.taken && least = 0 then []
            else places manner fuel (repeated (least - 1) (most.map (· - 1)) inner) q
      if least = 0 then more ++ [p] else more

structure Found where
  before : Octets
  text : Octets
  after : Octets
  groups : Groups

def stepsFor (cs : Octets) : Nat := 64 * cs.length + 4096

def matchHead? (manner : Manner) (regex : Regex) (steps : Nat) (cs : Octets)
    (last : Option Char) : Option Found :=
  let longest := (places manner steps regex { rest := cs, last }).foldl
    (fun best p =>
      match best with
      | none => some p
      | some (q : Place) => if q.taken < p.taken then some p else some q)
    none
  longest.map fun p => ⟨[], cs.take p.taken, p.rest, p.groups⟩

def matchAt? (manner : Manner) (regex : Regex) (before cs : Octets) : Option Found :=
  (matchHead? manner regex (stepsFor cs) cs before.getLast?).map fun found => { found with before }

def findBehind? (manner : Manner) (regex : Regex) (steps : Nat) :
    (passed cs : Octets) → (last : Option Char) → Option Found
  | passed, [], last =>
    (matchHead? manner regex steps [] last).map fun found => { found with before := passed.reverse }
  | passed, c :: cs, last =>
    match matchHead? manner regex steps (c :: cs) last with
    | some found => some { found with before := passed.reverse }
    | none => findBehind? manner regex steps (c :: passed) cs (some c)

def find? (manner : Manner) (regex : Regex) (cs : Octets) (last : Option Char) : Option Found :=
  findBehind? manner regex (stepsFor cs) [] cs last

/-- All matches in a text, one behind the other. An empty one is dropped where a match has just
ended. -/
def findAll (manner : Manner) (regex : Regex) : (fuel : Nat) → (cs : Octets) →
    (last : Option Char) → (afterMatch : Bool) → List Found
  | 0, _, _, _ => []
  | fuel + 1, cs, last, afterMatch =>
    match find? manner regex cs last with
    | none => []
    | some found =>
      if found.text.isEmpty then
        let here := if afterMatch && found.before.isEmpty then [] else [found]
        match found.after with
        | [] => here
        | c :: after =>
          let more := findAll manner regex fuel after (some c) false
          match more with
          | next :: rest => here ++ { next with before := c :: next.before } :: rest
          | [] => here
      else found :: findAll manner regex fuel found.after found.text.getLast? true

end Regex

end NextRelease.Shell
