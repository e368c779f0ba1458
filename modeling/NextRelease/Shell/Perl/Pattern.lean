import NextRelease.Shell.Format
import NextRelease.Shell.Octets

/-!
The regular expressions of scripts: what they are made of, and how they are read. Alternatives are
tried in the order in which they are written, repetitions take as much as they can or as little, and
groups remember what they matched.
-/

namespace NextRelease.Shell.Perl

inductive Member where
  | chars (first last : Char)
  | digit (negated : Bool)
  | word (negated : Bool)
  | space (negated : Bool)
  | named (name : String) (negated : Bool)
  | property (name : String) (negated : Bool)
  deriving DecidableEq

inductive Greed where
  | greedy
  | lazy
  | possessive
  deriving DecidableEq

inductive Pattern where
  | empty
  | char (ignoreCase : Bool) (c : Char)
  | any (breaks : Bool)
  | oneOf (ignoreCase negated : Bool) (members : List Member)
  | textStart
  | textEnd
  | lastBreak
  | lineStart
  | lineEnd
  | searchStart
  | wordEdge (negated : Bool)
  | keep
  | sequence (first second : Pattern)
  | choice (first second : Pattern)
  | group (number : Nat) (inner : Pattern)
  | again (ignoreCase : Bool) (number : Nat)
  | recursion (number : Nat)
  | repeated (least : Nat) (most : Option Nat) (greed : Greed) (inner : Pattern)
  | look (ahead negated : Bool) (inner : Pattern)
  | atomic (inner : Pattern)
  | ifGroup (number : Nat) (yes no : Pattern)
  | ifLook (condition yes no : Pattern)
  | definition (inner : Pattern)

namespace Pattern

def ofGroup? (number : Nat) : Pattern → Option Pattern
  | group n inner => if n = number then some inner else inner.ofGroup? number
  | sequence a b | choice a b | ifGroup _ a b =>
    match a.ofGroup? number with
    | some found => some found
    | none => b.ofGroup? number
  | ifLook c a b =>
    match c.ofGroup? number with
    | some found => some found
    | none =>
      match a.ofGroup? number with
      | some found => some found
      | none => b.ofGroup? number
  | repeated _ _ _ inner | look _ _ inner | atomic inner | definition inner =>
    inner.ofGroup? number
  | _ => none

def longest? : Pattern → Option Nat
  | char _ _ | any _ | oneOf _ _ _ => some 1
  | sequence a b => do return (← a.longest?) + (← b.longest?)
  | choice a b | ifGroup _ a b | ifLook _ a b => do return max (← a.longest?) (← b.longest?)
  | group _ inner | atomic inner => inner.longest?
  | repeated _ most _ inner => do return (← most) * (← inner.longest?)
  | again _ _ | recursion _ => none
  | _ => some 0

end Pattern

/-! ## Characters -/

def isWordChar (c : Char) : Bool := c.isAlphanum || c == '_'

def isDigitChar (c : Char) : Bool := c.isDigit

def isSpaceChar (c : Char) : Bool := c == ' ' || (9 ≤ c.toNat && c.toNat ≤ 13)

def classNames : List String :=
  ["alpha", "digit", "alnum", "upper", "lower", "space", "blank", "punct", "print", "graph",
    "cntrl", "xdigit", "word", "ascii"]

def classHas (name : String) (c : Char) : Bool :=
  match name with
  | "alpha" => c.isAlpha
  | "digit" => c.isDigit
  | "alnum" => c.isAlphanum
  | "upper" => c.isUpper
  | "lower" => c.isLower
  | "space" => isSpaceChar c
  | "blank" => c == ' ' || c == '\t'
  | "punct" => 32 < c.toNat && c.toNat < 127 && !c.isAlphanum
  | "print" => 32 ≤ c.toNat && c.toNat < 127
  | "graph" => 32 < c.toNat && c.toNat < 127
  | "cntrl" => c.toNat < 32 || c.toNat == 127
  | "xdigit" => c.isDigit || "abcdefABCDEF".toList.contains c
  | "word" => isWordChar c
  | "ascii" => c.toNat < 128
  | "vertical" => (10 ≤ c.toNat && c.toNat ≤ 13) || c.toNat == 0x85
  | _ => false

def isLetter (c : Char) : Bool := c.isAlpha || Wide.isLetter c

/-- The characters that have a property, by its name in small letters; `none` if there is no such
property. -/
def property? (name : String) : Option (Char → Bool) :=
  let isUpper (c : Char) : Bool := c.isUpper || (Wide.isLetter c && Wide.lower c != c)
  let isLower (c : Char) : Bool := c.isLower || (Wide.isLetter c && Wide.upper c != c)
  let isSign (c : Char) : Bool := "$+<=>^|~".toList.contains c || c.toNat = 96
  let isPunctuation (c : Char) : Bool := classHas "punct" c && !isSign c
  let within (first last : Nat) (c : Char) : Bool := first ≤ c.toNat && c.toNat ≤ last
  match name with
  | "l" | "letter" | "alpha" | "alphabetic" | "xposixalpha" | "l&" | "lc" => some isLetter
  | "posixalpha" => some (classHas "alpha")
  | "lu" | "upper" | "uppercase" | "uppercaseletter" | "xposixupper" => some isUpper
  | "ll" | "lower" | "lowercase" | "lowercaseletter" | "xposixlower" => some isLower
  | "posixupper" => some (classHas "upper")
  | "posixlower" => some (classHas "lower")
  | "n" | "nd" | "number" | "digit" | "decimalnumber" | "xposixdigit" | "posixdigit" =>
    some isDigitChar
  | "p" | "punct" | "punctuation" => some isPunctuation
  | "posixpunct" | "xposixpunct" => some (classHas "punct")
  | "pd" | "dashpunctuation" => some (· == '-')
  | "ps" | "openpunctuation" => some "([\x7b".toList.contains
  | "pe" | "closepunctuation" => some ")]\x7d".toList.contains
  | "pc" | "connectorpunctuation" => some (· == '_')
  | "po" | "otherpunctuation" =>
    some fun c => isPunctuation c && !"-([\x7b)]\x7d_".toList.contains c
  | "s" | "symbol" => some isSign
  | "sc" | "currencysymbol" => some fun c => c == '$' || within 0xa2 0xa5 c || c.toNat == 0x20ac
  | "sm" | "mathsymbol" => some "+<=>|~".toList.contains
  | "sk" | "modifiersymbol" => some fun c => c == '^' || c.toNat = 96
  | "z" | "separator" | "zs" | "spaceseparator" => some fun c => c == ' ' || c.toNat == 0xa0
  | "space" | "spaceperl" | "xposixspace" | "whitespace" | "posixspace" | "xperlspace" =>
    some isSpaceChar
  | "blank" | "horizspace" | "posixblank" | "xposixblank" => some (classHas "blank")
  | "c" | "other" | "cc" | "cntrl" | "control" | "posixcntrl" => some (classHas "cntrl")
  | "word" | "w" | "xposixword" | "xwd" => some fun c => isWordChar c || Wide.isLetter c
  | "posixword" | "perlword" => some isWordChar
  | "alnum" | "xposixalnum" | "xan" => some fun c => c.isAlphanum || Wide.isLetter c
  | "posixalnum" => some (classHas "alnum")
  | "any" | "all" | "assigned" => some fun _ => true
  | "ascii" | "basiclatin" => some (classHas "ascii")
  | "xdigit" | "hexdigit" | "ahex" | "asciihexdigit" | "hex" => some (classHas "xdigit")
  | "graph" | "print" | "posixgraph" | "posixprint" =>
    some (classHas (if name.toList.contains 'g' then "graph" else "print"))
  | "latin" | "latn" => some fun c => isLetter c && c.toNat < 0x250
  | "greek" | "grek" => some (within 0x370 0x3ff)
  | "cyrillic" | "cyrl" => some (within 0x400 0x52f)
  | "han" | "hani" => some (within 0x4e00 0x9fff)
  | "hiragana" => some (within 0x3041 0x309f)
  | "katakana" => some (within 0x30a1 0x30ff)
  | _ => none

def Member.has (c : Char) : Member → Bool
  | chars first last => first ≤ c && c ≤ last
  | digit negated => isDigitChar c != negated
  | word negated => isWordChar c != negated
  | space negated => isSpaceChar c != negated
  | named name negated => classHas name c != negated
  | property name negated => ((property? name).any (· c)) != negated

/-! ## What cannot be read -/

inductive PatternFault where
  | openGroup
  | openSet
  | openSequence
  | strayClosing
  | nothingRepeated
  | repeatedTwice
  | missingGroup
  | missingName
  | wrongName
  | reversedRange (range : Octets)
  | unknownClass (name : Octets)
  | unknownProperty (name : Octets)
  | unknownSequence (text : Octets)
  | wideLook
  | wideBounds
  | openComment
  | openName
  | openProperty
  | reversedBounds
  | classInRange
  | repeatedName

structure PatternProblem where
  fault : PatternFault
  rest : Nat

namespace PatternFault

def text : PatternFault → Octets
  | openGroup => "Unmatched ( in regex".toList
  | openSet => "Unmatched [ in regex".toList
  | openSequence => "Sequence (? incomplete in regex".toList
  | strayClosing => "Unmatched ) in regex".toList
  | nothingRepeated => "Quantifier follows nothing in regex".toList
  | repeatedTwice => "Nested quantifiers in regex".toList
  | missingGroup => "Reference to nonexistent group in regex".toList
  | missingName => "Reference to nonexistent named group in regex".toList
  | wrongName => "Group name must start with a non-digit word character in regex".toList
  | reversedRange range => "Invalid [] range \"".toList ++ range ++ "\" in regex".toList
  | unknownClass name => "POSIX class [:".toList ++ name ++ ":] unknown in regex".toList
  | unknownProperty name =>
    "Can't find Unicode property definition \"".toList ++ name ++ "\" in regex".toList
  | unknownSequence text => "Sequence (".toList ++ text ++ "...) not recognized in regex".toList
  | wideLook => "Lookbehind longer than 255 not implemented in regex".toList
  | wideBounds => "Quantifier in \x7b,\x7d bigger than 65534 in regex".toList
  | openComment => "Sequence (?#... not terminated in regex".toList
  | openName => "Sequence (?<... not terminated in regex".toList
  | openProperty => "Missing right brace on \\p\x7b\x7d in regex".toList
  | reversedBounds => "Can't do \x7bn,m\x7d with n > m in regex".toList
  | classInRange => "False [] range in regex".toList
  | repeatedName => "Group name stands twice in regex".toList

def plainText : PatternFault → String
  | openGroup => "missing closing parenthesis"
  | openSet => "missing terminating ] for character class"
  | openSequence => "missing closing parenthesis"
  | strayClosing => "unmatched closing parenthesis"
  | nothingRepeated | repeatedTwice => "quantifier does not follow a repeatable item"
  | missingGroup | missingName => "reference to non-existent subpattern"
  | wrongName => "subpattern name must start with a non-digit"
  | reversedRange _ => "range out of order in character class"
  | unknownClass _ => "unknown POSIX class name"
  | unknownProperty _ => "unknown property after \\P or \\p"
  | unknownSequence _ => "unrecognized character after (? or (?-"
  | wideLook => "lookbehind assertion is not fixed length"
  | wideBounds => "number too big in \x7b\x7d quantifier"
  | openComment => "missing ) after (?# comment"
  | openName => "syntax error in subpattern name (missing terminator?)"
  | openProperty => "malformed \\P or \\p sequence"
  | reversedBounds => "numbers out of order in \x7b\x7d quantifier"
  | classInRange => "invalid range in character class"
  | repeatedName => "two named subpatterns have the same name (PCRE2_DUPNAMES not set)"

end PatternFault

def PatternProblem.message (p : PatternProblem) (source : Octets) : Octets :=
  match p.fault with
  | .wideLook => p.fault.text ++ " m/".toList ++ source ++ ['/']
  | fault =>
    let size := source.length - p.rest
    fault.text ++ "; marked by <-- HERE in m/".toList ++ source.take size ++
      " <-- HERE ".toList ++ source.drop size ++ ['/']

/-! ## Reading -/

structure Flags where
  ignoreCase : Bool := false
  manyLines : Bool := false
  breaks : Bool := false
  spaced : Bool := false
  namedOnly : Bool := false
  isWide : Bool := false
  isStrict : Bool := false

structure Groups where
  count : Nat := 0
  names : List (Octets × Nat) := []
  total : Option Nat := none
  deriving Inhabited

abbrev PatternRead := Except PatternProblem (Pattern × Octets × Groups)

def letterClass? : Char → Option Member
  | 'd' => some (.digit false)
  | 'D' => some (.digit true)
  | 'w' => some (.word false)
  | 'W' => some (.word true)
  | 's' => some (.space false)
  | 'S' => some (.space true)
  | 'h' => some (.named "blank" false)
  | 'H' => some (.named "blank" true)
  | 'v' => some (.named "vertical" false)
  | 'V' => some (.named "vertical" true)
  | _ => none

def readProperty (negated : Bool) (cs : Octets) : Except PatternProblem (Member × Octets) :=
  let (written, rest) := match cs with
    | '\x7b' :: more =>
      let name := more.takeWhile (· != '\x7d')
      (name, (more.drop name.length).drop 1)
    | cs => (cs.take 1, cs.drop 1)
  if cs.head? = some '\x7b' && !cs.contains '\x7d' then .error ⟨.openProperty, cs.length - 1⟩ else
  let (negated, name) := match written with
    | '^' :: name => (!negated, name)
    | name => (negated, name)
  let folded := (name.filter fun c => !"_ -".toList.contains c).map Char.toLower
  let fronts := ["is", "gc=", "generalcategory=", "script=", "sc=", "scx=", "scriptextensions="]
  let bare := match fronts.find? fun front => front.toList.isPrefixOf folded &&
      front.length < folded.length with
    | some front => folded.drop front.length
    | none => folded
  let key := String.ofList (if (property? (String.ofList folded)).isSome then folded else bare)
  if (property? key).isSome then .ok (.property key negated, rest)
  else .error ⟨.unknownProperty name, rest.length⟩

def readClass : Octets → Except PatternProblem (Option (Member × Octets))
  | '\\' :: 'p' :: rest => (readProperty false rest).map some
  | '\\' :: 'P' :: rest => (readProperty true rest).map some
  | '\\' :: c :: rest => .ok ((letterClass? c).map (·, rest))
  | _ => .ok none

/-- The character for an escape that is no class, and what follows it. -/
def escapedChar : Octets → Char × Octets
  | [] => ('\\', [])
  | 'x' :: '\x7b' :: cs =>
    let written := cs.takeWhile (· != '\x7d')
    let digits := Sum.digitsOf 16 (written.filter fun c => c != '_' && c != ' ')
    (Char.ofNat (Sum.valueOf 16 digits), (cs.drop written.length).drop 1)
  | 'x' :: cs =>
    let digits := (Sum.digitsOf 16 cs).take 2
    (Char.ofNat (Sum.valueOf 16 digits), cs.drop digits.length)
  | 'o' :: '\x7b' :: cs =>
    let written := cs.takeWhile (· != '\x7d')
    let (value, _) := takeOctal written.length 0 written
    (Char.ofNat value, (cs.drop written.length).drop 1)
  | 'N' :: '\x7b' :: 'U' :: '+' :: cs =>
    let digits := Sum.digitsOf 16 cs
    (Char.ofNat (Sum.valueOf 16 digits), (cs.drop digits.length).drop 1)
  | 'c' :: c :: cs => (Char.ofNat (c.toUpper.toNat ^^^ 64), cs)
  | 'n' :: cs => ('\n', cs)
  | 't' :: cs => ('\t', cs)
  | 'r' :: cs => ('\r', cs)
  | 'f' :: cs => ('\x0c', cs)
  | 'e' :: cs => ('\x1b', cs)
  | 'a' :: cs => ('\x07', cs)
  | c :: cs =>
    if '0' ≤ c && c ≤ '7' then
      let (value, rest) := takeOctal 3 0 (c :: cs)
      (Char.ofNat (value % 256), rest)
    else (c, cs)

def memberChar : Octets → Option (Char × Octets)
  | [] => none
  | '\\' :: 'b' :: cs => some ('\x08', cs)
  | '\\' :: cs => some (escapedChar cs)
  | c :: cs => some (c, cs)

def readColons (cs : Octets) : Except PatternProblem (Option (Member × Octets)) :=
  match cs with
  | '[' :: ':' :: more =>
    let negated := more.head? = some '^'
    let inner := if negated then more.drop 1 else more
    let name := inner.takeWhile Char.isAlpha
    match inner.drop name.length with
    | ':' :: ']' :: rest =>
      if classNames.contains (String.ofList name) then
        .ok (some (.named (String.ofList name) negated, rest))
      else .error ⟨.unknownClass name, rest.length⟩
    | _ => .ok none
  | _ => .ok none

def readMembers (isStrict : Bool) (behind : Nat) : (fuel : Nat) → (isFirst : Bool) → Octets →
    Except PatternProblem (List Member × Octets)
  | 0, _, _ | _, _, [] => .error ⟨.openSet, behind⟩
  | fuel + 1, isFirst, c :: cs => do
    if c = ']' && !isFirst then return ([], cs)
    let add (member : Member) (rest : Octets) : Except PatternProblem (List Member × Octets) := do
      let (members, rest) ← readMembers isStrict behind fuel false rest
      return (member :: members, rest)
    if let some (member, rest) := (← readColons (c :: cs)).or (← readClass (c :: cs)) then
      if isStrict && rest.head? = some '-' && rest[1]? != some ']' then
        throw ⟨.classInRange, rest.length⟩
      return ← add member rest
    match memberChar (c :: cs) with
    | none => throw ⟨.openSet, behind⟩
    | some (first, rest) =>
      match rest with
      | '-' :: more => do
        let isClass := (← readClass more).isSome || (← readColons more).isSome
        if isStrict && isClass then throw ⟨.classInRange, more.length⟩
        let isSingle := more.head? = some ']' || isClass
        match if isSingle then none else memberChar more with
        | none => add (.chars first first) rest
        | some (last, rest) =>
          if last < first then
            throw ⟨.reversedRange ((c :: cs).take (cs.length + 1 - rest.length)), rest.length⟩
          add (.chars first last) rest
      | _ => add (.chars first first) rest

def bounds? (cs : Octets) : Option (Nat × Option Nat × Octets) :=
  let least := cs.takeWhile Char.isDigit
  match cs.drop least.length with
  | '\x7d' :: rest =>
    if least.isEmpty then none else some (readNat least, some (readNat least), rest)
  | ',' :: rest =>
    let most := rest.takeWhile Char.isDigit
    match rest.drop most.length with
    | '\x7d' :: rest =>
      if least.isEmpty && most.isEmpty then none
      else some (readNat least, if most.isEmpty then none else some (readNat most), rest)
    | _ => none
  | _ => none

def repetition? : Octets → Option (Nat × Option Nat × Octets)
  | '*' :: cs => some (0, none, cs)
  | '+' :: cs => some (1, none, cs)
  | '?' :: cs => some (0, some 1, cs)
  | '\x7b' :: cs => bounds? cs
  | _ => none

def passSpace (flags : Flags) : (fuel : Nat) → Octets → Octets
  | 0, cs => cs
  | fuel + 1, cs =>
    if !flags.spaced then cs
    else
      match cs with
      | '#' :: rest => passSpace flags fuel (rest.dropWhile (· != '\n'))
      | c :: rest => if isSpaceChar c then passSpace flags fuel rest else cs
      | [] => []

def withRepetition (flags : Flags) (inner : Pattern) (cs : Octets) :
    Except PatternProblem (Pattern × Octets) :=
  let cs := passSpace flags (cs.length + 1) cs
  let isLoose := flags.isStrict && ['\x7b', ','].isPrefixOf cs
  match if isLoose then none else repetition? cs with
  | none => .ok (inner, cs)
  | some (least, most, rest) =>
    let (greed, rest) : Greed × Octets := match rest with
      | '?' :: rest => (.lazy, rest)
      | '+' :: rest => (.possessive, rest)
      | rest => (.greedy, rest)
    let isReversed := most.any (· < least)
    match repetition? rest with
    | some _ => .error ⟨.repeatedTwice, rest.length - 1⟩
    | none =>
      if flags.isStrict && isReversed then .error ⟨.reversedBounds, rest.length⟩
      else if 65534 < most.getD least then .error ⟨.wideBounds, cs.length - 1⟩
      else .ok (.repeated least most greed inner, rest)

def changeFlags (flags : Flags) : (on : Bool) → Octets → Flags
  | _, [] => flags
  | on, c :: cs =>
    let flags := match c with
      | 'i' => { flags with ignoreCase := on }
      | 'm' => { flags with manyLines := on }
      | 's' => { flags with breaks := on }
      | 'x' => { flags with spaced := on }
      | 'n' => { flags with namedOnly := on }
      | _ => flags
    changeFlags flags (on && c != '-') cs

inductive Opening where
  | capturing (name : Option Octets)
  | plain (flags : Flags)
  | reset
  | look (ahead negated : Bool)
  | atomic
  | setting (flags : Flags)
  | comment
  | item (pattern : Pattern)
  | ifGroup (number : Nat)
  | ifLook
  | definition

def groupNamed (groups : Groups) (name : Octets) (rest : Nat) : Except PatternProblem Nat :=
  let isRelative := name.head?.any fun c => c == '-' || c == '+'
  let digits := if isRelative then name.drop 1 else name
  if isNumber digits then
    let n := readNat digits
    let number := match name.head? with
      | some '-' => groups.count + 1 - n
      | some '+' => groups.count + n
      | _ => n
    if groups.total.any (· < number) || (isRelative && number = 0) then
      .error ⟨.missingGroup, rest⟩
    else .ok number
  else
    match groups.names.lookup name, groups.total with
    | some number, _ => .ok number
    | none, none => .ok 0
    | none, some _ => .error ⟨.missingName, rest⟩

def takeName (cs : Octets) : Octets × Octets :=
  let name := cs.takeWhile isNameChar
  (name, cs.drop (name.length + 1))

/-- Reads what stands behind an opening parenthesis. -/
def readOpening (flags : Flags) (groups : Groups) (cs : Octets) :
    Except PatternProblem (Opening × Octets) := do
  let named (cs : Octets) : Except PatternProblem (Opening × Octets) :=
    let (name, rest) := takeName cs
    if name.head?.any Char.isDigit then .error ⟨.wrongName, cs.length - 1⟩
    else if cs.length = name.length then .error ⟨.openName, 0⟩
    else if flags.isStrict && groups.total.isNone && (groups.names.lookup name).isSome then
      .error ⟨.repeatedName, rest.length⟩
    else .ok (.capturing (some name), rest)
  /- A parenthesis ends what is called; it is left to be read. -/
  let called (cs : Octets) : Except PatternProblem (Opening × Octets) := do
    let name := cs.takeWhile fun c => isNameChar c || c == '-' || c == '+'
    let rest := cs.drop name.length
    let number ← if name = ['R'] then pure 0 else groupNamed groups name rest.length
    return (.item (.recursion number), rest)
  match cs with
  | '?' :: ':' :: rest => return (.plain flags, rest)
  | '?' :: '|' :: rest => return (.reset, rest)
  | '?' :: '=' :: rest => return (.look true false, rest)
  | '?' :: '!' :: rest => return (.look true true, rest)
  | '?' :: '<' :: '=' :: rest => return (.look false false, rest)
  | '?' :: '<' :: '!' :: rest => return (.look false true, rest)
  | '?' :: '>' :: rest => return (.atomic, rest)
  | '?' :: '#' :: rest =>
    if !rest.contains ')' then throw ⟨.openComment, 0⟩
    return (.comment, rest.dropWhile (· != ')'))
  | '?' :: 'P' :: '=' :: rest => do
    let name := rest.takeWhile isNameChar
    let rest := rest.drop name.length
    return (.item (.again flags.ignoreCase (← groupNamed groups name rest.length)), rest)
  | '?' :: 'P' :: '>' :: rest | '?' :: '&' :: rest => called rest
  | '?' :: 'P' :: '<' :: rest | '?' :: '<' :: rest | '?' :: '\x27' :: rest => named rest
  | '?' :: '(' :: rest =>
    match rest with
    | '?' :: _ => return (.ifLook, rest)
    | '<' :: more | '\x27' :: more =>
      let (name, rest) := takeName more
      return (.ifGroup (← groupNamed groups name rest.length), rest.drop 1)
    | rest =>
      let name := rest.takeWhile isNameChar
      let behind := rest.drop (name.length + 1)
      if name = "DEFINE".toList then return (.definition, behind)
      if !isNumber name && !(groups.names.lookup name).isSome && groups.total.isSome then
        throw ⟨.unknownSequence "?(".toList, rest.length⟩
      return (.ifGroup (← groupNamed groups name behind.length), behind)
  | '*' :: rest =>
    let verb := rest.takeWhile (· != ')')
    let rest := rest.drop verb.length
    if verb = ['F'] || verb = "FAIL".toList then return (.item (.look true true .empty), rest)
    else return (.capturing none, cs)
  | '?' :: c :: rest =>
    if c = 'R' || c.isDigit || ((c = '-' || c = '+') && rest.head?.any Char.isDigit) then
      called (c :: rest)
    else
      let letters := (c :: rest).takeWhile fun c => "^-adilmnpsuxU".toList.contains c
      let clean : Flags := { isWide := flags.isWide, isStrict := flags.isStrict }
      let changed := changeFlags (if letters.head? = some '^' then clean else flags) true letters
      match (c :: rest).drop letters.length with
      | ':' :: rest => return (.plain changed, rest)
      | ')' :: rest => return (.setting changed, ')' :: rest)
      | [] => throw ⟨.openSequence, 0⟩
      | d :: rest => throw ⟨.unknownSequence ('?' :: letters ++ [d]), rest.length⟩
  | '?' :: [] => throw ⟨.openSequence, 0⟩
  | cs => return (if flags.namedOnly then .plain flags else .capturing none, cs)

def ofChar (flags : Flags) (c : Char) : Pattern :=
  if flags.isWide || c.toNat < 256 then .char flags.ignoreCase c
  else (octets (String.singleton c)).foldr (fun c rest => .sequence (.char false c) rest) .empty

def readReference (flags : Flags) (groups : Groups) (cs : Octets) :
    Except PatternProblem (Pattern × Octets) := do
  let ending? : Option Char := match cs.head? with
    | some '\x7b' => some '\x7d'
    | some '<' => some '>'
    | some '\x27' => some '\x27'
    | _ => none
  match ending? with
  | some ending =>
    let name := (cs.drop 1).takeWhile (· != ending)
    let rest := (cs.drop 1).drop name.length
    let number ← groupNamed groups (name.filter (· != ' ')) rest.length
    return (.again flags.ignoreCase number, rest.drop 1)
  | none =>
    let sign := cs.takeWhile (· == '-')
    let digits := (cs.drop sign.length).takeWhile Char.isDigit
    let rest := cs.drop (sign.length + digits.length)
    return (.again flags.ignoreCase (← groupNamed groups (sign ++ digits) rest.length), rest)

def readItem (flags : Flags) (groups : Groups) (cs : Octets) :
    Except PatternProblem (Pattern × Octets) := do
  if let some (member, rest) ← readClass cs then return (.oneOf false false [member], rest)
  match cs with
  | '.' :: rest => return (.any flags.breaks, rest)
  | '^' :: rest => return (if flags.manyLines then .lineStart else .textStart, rest)
  | '$' :: rest => return (if flags.manyLines then .lineEnd else .lastBreak, rest)
  | '[' :: rest =>
    let negated := rest.head? = some '^'
    let (members, rest) ← readMembers flags.isStrict rest.length (rest.length + 1) true
      (if negated then rest.drop 1 else rest)
    return (.oneOf flags.ignoreCase negated members, rest)
  | '\\' :: c :: rest =>
    match c with
    | 'b' => return (.wordEdge false, rest)
    | 'B' => return (.wordEdge true, rest)
    | 'A' => return (.textStart, rest)
    | 'z' => return (.textEnd, rest)
    | 'Z' => return (.lastBreak, rest)
    | 'G' => return (.searchStart, rest)
    | 'K' => return (.keep, rest)
    | 'R' =>
      return (.atomic (.choice (.sequence (.char false '\r') (.char false '\n'))
        (.oneOf false false [.named "vertical" false])), rest)
    | 'X' => return (.any true, rest)
    | 'g' | 'k' => readReference flags groups rest
    | 'E' => return (.empty, rest)
    | 'Q' =>
      let inner := rest
      let length := ((List.range (inner.length + 1)).find? fun i =>
        ['\\', 'E'].isPrefixOf (inner.drop i)).getD inner.length
      let literal := (inner.take length).foldr
        (fun c more => .sequence (ofChar flags c) more) Pattern.empty
      return (literal, inner.drop (length + 2))
    | c =>
      if c = 'N' && rest.head? != some '\x7b' then return (.any false, rest)
      let digits := (c :: rest).takeWhile Char.isDigit
      let number := readNat digits
      let isKnown := digits.length = 1 || groups.total.all (number ≤ ·)
      if c.isDigit && c != '0' && isKnown then
        let rest := (c :: rest).drop digits.length
        return (.again flags.ignoreCase (← groupNamed groups digits rest.length), rest)
      let (c, rest) := escapedChar (c :: rest)
      return (ofChar flags c, rest)
  | c :: rest =>
    if "*+?".toList.contains c then throw ⟨.nothingRepeated, rest.length⟩
    return (ofChar flags c, rest)
  | [] => return (.empty, [])

mutual

def readChoices : (fuel : Nat) → Flags → Groups → Octets → PatternRead
  | 0, _, _, cs => .error ⟨.openGroup, cs.length⟩
  | fuel + 1, flags, groups, cs => do
    let (first, rest, groups) ← readItems fuel flags groups cs
    match rest with
    | '|' :: rest => do
      let (second, rest, groups) ← readChoices fuel flags groups rest
      return (.choice first second, rest, groups)
    | rest => return (first, rest, groups)
termination_by structural fuel => fuel

def readResets : (fuel : Nat) → Flags → (start : Nat) → Groups → Octets → PatternRead
  | 0, _, _, _, cs => .error ⟨.openGroup, cs.length⟩
  | fuel + 1, flags, start, groups, cs => do
    let (first, rest, own) ← readItems fuel flags { groups with count := start } cs
    let groups := { own with count := max own.count groups.count }
    match rest with
    | '|' :: rest => do
      let (second, rest, groups) ← readResets fuel flags start groups rest
      return (.choice first second, rest, groups)
    | rest => return (first, rest, groups)
termination_by structural fuel => fuel

def readTwo : (fuel : Nat) → Flags → Groups → Octets →
    Except PatternProblem (Pattern × Pattern × Octets × Groups)
  | 0, _, _, cs => .error ⟨.openGroup, cs.length⟩
  | fuel + 1, flags, groups, cs => do
    let (yes, rest, groups) ← readItems fuel flags groups cs
    match rest with
    | '|' :: rest => do
      let (no, rest, groups) ← readItems fuel flags groups rest
      return (yes, no, rest, groups)
    | rest => return (yes, .empty, rest, groups)
termination_by structural fuel => fuel

def readGroup : (fuel : Nat) → Flags → Groups → Opening → Octets → PatternRead
  | 0, _, _, _, cs => .error ⟨.openGroup, cs.length⟩
  | fuel + 1, flags, groups, opening, cs => do
    match opening with
    | .item pattern => return (pattern, cs, groups)
    | .reset => readResets fuel flags groups.count groups cs
    | .look ahead negated => do
      let (inner, rest, groups) ← readChoices fuel flags groups cs
      if !ahead && inner.longest?.all (255 < ·) && groups.total.isSome then
        throw ⟨.wideLook, rest.length⟩
      return (.look ahead negated inner, rest, groups)
    | .atomic => do
      let (inner, rest, groups) ← readChoices fuel flags groups cs
      return (.atomic inner, rest, groups)
    | .definition => do
      let (inner, rest, groups) ← readChoices fuel flags groups cs
      return (.definition inner, rest, groups)
    | .ifGroup number => do
      let (yes, no, rest, groups) ← readTwo fuel flags groups cs
      return (.ifGroup number yes no, rest, groups)
    | .ifLook => do
      let (opening, rest) ← readOpening flags groups cs
      let (condition, rest, groups) ← readGroup fuel flags groups opening rest
      let (yes, no, rest, groups) ← readTwo fuel flags groups (rest.drop 1)
      return (.ifLook condition yes no, rest, groups)
    | .capturing name => do
      let number := groups.count + 1
      let names := match name with
        | some name => (name, number) :: groups.names
        | none => groups.names
      let (inner, rest, groups) ← readChoices fuel flags { groups with count := number, names } cs
      return (.group number inner, rest, groups)
    | .plain flags => readChoices fuel flags groups cs
    | .setting _ | .comment => return (.empty, cs, groups)
termination_by structural fuel => fuel

def readItems : (fuel : Nat) → Flags → Groups → Octets → PatternRead
  | 0, _, _, cs => .error ⟨.openGroup, cs.length⟩
  | fuel + 1, flags, groups, cs => do
    match passSpace flags (cs.length + 1) cs with
    | [] => return (.empty, [], groups)
    | '|' :: rest => return (.empty, '|' :: rest, groups)
    | ')' :: rest => return (.empty, ')' :: rest, groups)
    | '(' :: opened => do
      let (opening, rest) ← readOpening flags groups opened
      match opening with
      | .setting flags => readItems fuel flags groups (rest.drop 1)
      | .comment => readItems fuel flags groups (rest.drop 1)
      | opening => do
        let (item, rest, groups) ← readGroup fuel flags groups opening rest
        match rest with
        | ')' :: rest => do
          let (first, rest) ← withRepetition flags item rest
          let (more, rest, groups) ← readItems fuel flags groups rest
          return (.sequence first more, rest, groups)
        | _ => throw ⟨.openGroup, opened.length⟩
    | cs => do
      let (item, rest) ← readItem flags groups cs
      let (first, rest) ← withRepetition flags item rest
      let (more, rest, groups) ← readItems fuel flags groups rest
      return (.sequence first more, rest, groups)
termination_by structural fuel => fuel

end

def readPattern (flags : Flags) (text : Octets) : Except PatternProblem (Pattern × Groups) := do
  let fuel := 8 * text.length + 8
  let (_, _, groups) ← readChoices fuel flags {} text
  let (pattern, rest, groups) ← readChoices fuel flags
    { names := groups.names, total := some groups.count } text
  match rest with
  | [] => return (pattern, groups)
  | _ :: rest => throw ⟨.strayClosing, rest.length⟩

end NextRelease.Shell.Perl
