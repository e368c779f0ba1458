import NextRelease.Shell.Format
import NextRelease.Shell.Test
import NextRelease.Shell.Tool.Basic
import NextRelease.Shell.Tool.Regex

/-!
Tools that make what they print from their arguments.
-/

namespace NextRelease.Shell.Tool

def withOperands (status least : Nat) (most : Option Nat) (name : Octets) (operands : List Octets)
    (work : Act Unit) : Act Unit :=
  match operands.getLast?, most.bind fun most => operands[most]? with
  | _, some extra => misuse status name ("extra operand ".toList ++ inQuotes extra)
  | none, _ => if least = 0 then work else misuse status name "missing operand".toList
  | some last, _ =>
    if operands.length < least then
      misuse status name ("missing operand after ".toList ++ inQuotes last)
    else work

/-! ## Texts -/

/-- The text behind a backslash in the words of `echo`. -/
def unescapeWords : (fuel : Nat) → Octets → Octets × Bool
  | 0, cs => (cs, false)
  | _, [] => ([], false)
  | fuel + 1, '\\' :: 'x' :: cs =>
    let digits := (cs.take 2).takeWhile fun c => (Sum.digitOf? 16 c).isSome
    let (more, isCut) := unescapeWords fuel (cs.drop digits.length)
    if digits.isEmpty then ("\\x".toList ++ more, isCut)
    else (Char.ofNat (Sum.valueOf 16 digits) :: more, isCut)
  | fuel + 1, '\\' :: c :: cs =>
    if c = 'c' then ([], true)
    else
      let octal := if c = '0' then some cs else if c.isDigit then some (c :: cs) else none
      let (d, rest) := match octal with
        | some digits =>
          let (value, rest) := takeOctal 3 0 digits
          (Char.ofNat (value % 256), rest)
        | none => (takeEscape? (c :: cs)).getD ('\\', c :: cs)
      let (more, isCut) := unescapeWords fuel rest
      (d :: more, isCut)
  | fuel + 1, c :: cs =>
    let (more, isCut) := unescapeWords fuel cs
    (c :: more, isCut)

def echo : Tool := fun _ arguments => do
  let isOption : Octets → Bool
    | '-' :: c :: cs => (c :: cs).all "neE".toList.contains
    | _ => false
  let letters := (arguments.takeWhile isOption).flatten.filter (· != '-')
  let text := Text.joinWith ' ' (arguments.dropWhile isOption)
  let escapes := (letters.filter (· != 'n')).getLast? == some 'e'
  let (text, isCut) := if escapes then unescapeWords (text.length + 1) text else (text, false)
  print (if letters.contains 'n' || isCut then text else text ++ ['\n'])
  finish 0

def numberComplaint (complaint : Octets) : Octets :=
  let argument := complaint.takeWhile (· != ':')
  let reason := complaint.drop argument.length
  inQuotes argument ++
    if reason = ": expected numeric value".toList then ": expected a numeric value".toList
    else if reason = ": not completely converted".toList then
      ": value not completely converted".toList
    else reason

def octalFormat : (fuel : Nat) → Octets → Octets
  | 0, cs => cs
  | fuel + 1, '\\' :: c :: cs =>
    let most := if c = 'x' then 2 else if c = 'u' then 4 else if c = 'U' then 8 else 0
    let digits := (cs.take most).takeWhile fun c => (Sum.digitOf? 16 c).isSome
    if digits.isEmpty then '\\' :: c :: octalFormat fuel cs
    else
      let value := Sum.valueOf 16 digits
      let text := if c = 'x' then [Char.ofNat value]
        else octets (String.ofList [Char.ofNat value])
      let escape (c : Char) : Octets :=
        let digits := Nat.toDigits 8 c.toNat
        '\\' :: List.replicate (3 - digits.length) '0' ++ digits
      text.flatMap escape ++ octalFormat fuel (cs.drop digits.length)
  | fuel + 1, c :: cs => c :: octalFormat fuel cs
  | _, [] => []

def printf : Tool := fun name arguments => do
  finish 0
  let words := match arguments with
    | ['-', '-'] :: words => words
    | words => words
  match words with
  | [] => misuse 1 name "missing operand".toList
  | text :: rest => do
    let manner : FormatManner :=
      { passesSizes := true, isCut := true, quote? := some quotedIfPeculiar }
    let f := format manner (octalFormat (text.length + 1) text) (rest.length + 1) rest
    print f.out
    f.complaints.forM fun complaint => fail 1 name (numberComplaint complaint)
    match f.ended with
    | some (.failed reason) =>
      let directive := if reason.contains '%' then reason.takeWhile (· != ':')
        else (text.reverse.takeWhile (· != '%')).reverse |> ('%' :: ·)
      fail 1 name (directive ++ ": invalid conversion specification".toList)
    | _ =>
      match f.arguments with
      | extra :: _ =>
        report name ("warning: ignoring excess arguments, starting with ".toList ++ inQuotes extra)
      | [] => pure ()

def problemText (words : List Octets) : Test.Problem → Octets
  | .about word "argument expected" => "missing argument after ".toList ++ inQuotes word
  | .about word _ =>
    match words with
    | [_, last] => "missing argument after ".toList ++ inQuotes last
    | [_, operator, _] => inQuotes operator ++ ": binary operator expected".toList
    | _ => "extra argument ".toList ++ inQuotes (words[1]?.getD word)
  | .other reason =>
    match reason.toList.dropWhile (· != ':') with
    | ':' :: ' ' :: number => "invalid integer ".toList ++ inQuotes number
    | _ => octets reason

def test : Tool := fun name words => do
  match Test.check (← get) words with
  | .error problem => fail 2 name (problemText words problem)
  | .ok holds => finish (if holds then 0 else 1)

def bracketTest : Tool := fun name words =>
  if words.getLast? = some [']'] then test name words.dropLast
  else fail 2 name ("missing ".toList ++ inQuotes [']'])

def pwd : Tool :=
  withOptions false (plainFlags "LP") 1 fun name _ operands => do
    if !operands.isEmpty then report name "ignoring non-option arguments".toList
    print (Machine.directoryText (← get).cwd ++ ['\n'])

def yes : Tool :=
  withOptions true [] 1 fun _ _ operands => do
    let line := (if operands.isEmpty then ['y'] else Text.joinWith ' ' operands) ++ ['\n']
    let m ← get
    print (List.replicate (m.capacity / line.length + 1) line).flatten
    waitForEver

/-! ## Paths -/

def baseOf (path : Octets) : Octets :=
  let trimmed := (path.reverse.dropWhile (· == '/')).reverse
  if trimmed.isEmpty then path.take 1 else (trimmed.reverse.takeWhile (· != '/')).reverse

def directoryOf (path : Octets) : Octets :=
  let trimmed := (path.reverse.dropWhile (· == '/')).reverse
  let front := trimmed.reverse.dropWhile (· != '/')
  let front := (front.dropWhile (· == '/')).reverse
  if !front.isEmpty then front
  else if path.head? = some '/' then ['/']
  else ['.']

def dropSuffix (suffix text : Octets) : Octets :=
  if suffix.length < text.length && suffix.isSuffixOf text then
    text.take (text.length - suffix.length)
  else text

def basename : Tool :=
  withOptions true
    [⟨'a', "multiple", false⟩, ⟨'s', "suffix", true⟩, ⟨'z', "zero", false⟩] 1
    fun name options operands => do
      let several := options.has 'a' || options.has 's'
      withOperands 1 1 (if several then none else some 2) name operands do
        let suffix := (options.value? 's').getD (if several then [] else operands[1]?.getD [])
        (if several then operands else operands.take 1).forM fun path =>
          print (dropSuffix suffix (baseOf path) ++ [if options.has 'z' then '\x00' else '\n'])

def dirname : Tool :=
  withOptions true [⟨'z', "zero", false⟩] 1 fun name options operands => do
    withOperands 1 1 none name operands do
      operands.forM fun path =>
        print (directoryOf path ++ [if options.has 'z' then '\x00' else '\n'])

/-! ## Time -/

def isDuration (text : Octets) : Bool :=
  match cutDecimal text with
  | some (_, _, rest) => rest.isEmpty || ["s", "m", "h", "d"].contains (String.ofList rest)
  | none => text == "infinity".toList || text == "inf".toList

def sleep : Tool :=
  withOptions false [] 1 fun name _ operands => do
    withOperands 1 1 none name operands do
      match operands.filter fun text => !isDuration text with
      | [] => pure ()
      | wrong => do
        wrong.forM fun text => fail 1 name ("invalid time interval ".toList ++ inQuotes text)
        printError (helpHint name)

/-! ## Expressions -/

namespace Expr

abbrev Value := Except Octets (Octets × List Octets)

def missingAfter (word : Octets) : Octets :=
  "syntax error: missing argument after ".toList ++ inQuotes word

def integer? (text : Octets) : Option Int :=
  match text with
  | '-' :: digits => if isNumber digits then some (-(readNat digits : Int)) else none
  | digits => if isNumber digits then some (readNat digits : Int) else none

def isNull (text : Octets) : Bool :=
  text.isEmpty || integer? text == some 0

def matchFront (text pattern : Octets) : Except Octets Octets := do
  let regex ← (Regex.read .strictBasic (Wide.ofOctets pattern)).mapError octets
  let hasGroup := (String.ofList pattern).contains "\\("
  match Regex.matchAt? { isWide := true } regex [] (Wide.ofOctets text) with
  | some found =>
    return if hasGroup then Wide.toOctets ((found.groups.lookup 1).getD [])
      else natText found.text.length
  | none => return if hasGroup then [] else ['0']

def compareTexts (operator : String) (a b : Octets) : Option Bool :=
  let order := match integer? a, integer? b with
    | some m, some n => compare m n
    | _, _ => compare a b
  match operator with
  | "=" | "==" => some (order == .eq)
  | "!=" => some (order != .eq)
  | "<" => some (order == .lt)
  | "<=" => some (order != .gt)
  | ">" => some (order == .gt)
  | ">=" => some (order != .lt)
  | _ => none

/-- Applies an operator between two values; `none` if it is none of that rank. -/
def result? (rank : Nat) (operator : String) (a b : Octets) : Option (Except Octets Octets) :=
  let arithmetic (f : Int → Int → Except Octets Int) : Option (Except Octets Octets) :=
    match integer? a, integer? b with
    | some m, some n => some ((f m n).map intText)
    | _, _ => some (.error "non-integer argument".toList)
  let divide (f : Int → Int → Int) (m n : Int) : Except Octets Int :=
    if n = 0 then .error "division by zero".toList else .ok (f m n)
  match rank, operator with
  | 0, "|" => some (.ok (if !isNull a then a else if isNull b then ['0'] else b))
  | 1, "&" => some (.ok (if isNull a || isNull b then ['0'] else a))
  | 2, _ => (compareTexts operator a b).map fun holds => .ok (if holds then ['1'] else ['0'])
  | 3, "+" => arithmetic fun m n => .ok (m + n)
  | 3, "-" => arithmetic fun m n => .ok (m - n)
  | 4, "*" => arithmetic fun m n => .ok (m * n)
  | 4, "/" => arithmetic (divide Int.tdiv)
  | 4, "%" => arithmetic (divide Int.tmod)
  | 5, ":" => some (matchFront a b)
  | _, _ => none

def isOperator (rank : Nat) (word : Octets) : Bool :=
  (result? rank (String.ofList word) [] []).isSome

mutual

def value : (fuel : Nat) → (rank : Nat) → (before : Octets) → List Octets → Value
  | 0, _, _, _ => .error "syntax error".toList
  | fuel + 1, rank, before, words => do
    if rank = 6 then operand fuel before words
    else
      let (first, rest) ← value fuel (rank + 1) before words
      more fuel rank first rest

def more : (fuel : Nat) → (rank : Nat) → Octets → List Octets → Value
  | 0, _, _, _ => .error "syntax error".toList
  | fuel + 1, rank, left, words => do
    match words with
    | operator :: rest =>
      if isOperator rank operator then
        let (right, rest) ← value fuel (rank + 1) operator rest
        match result? rank (String.ofList operator) left right with
        | some result => more fuel rank (← result) rest
        | none => return (left, words)
      else return (left, words)
    | [] => return (left, [])

def operand : (fuel : Nat) → (before : Octets) → List Octets → Value
  | 0, _, _ => .error "syntax error".toList
  | fuel + 1, before, words => do
    match words with
    | [] => throw (missingAfter before)
    | ['('] :: rest => do
      let (inner, rest) ← value fuel 0 ['('] rest
      match rest with
      | [')'] :: rest => return (inner, rest)
      | [] => throw ("syntax error: expecting ')' after ".toList ++ inQuotes inner)
      | word :: _ => throw ("syntax error: expecting ')' instead of ".toList ++ inQuotes word)
    | [')'] :: _ => throw "syntax error: unexpected ')'".toList
    | word :: rest =>
      match String.ofList word, rest with
      | "+", next :: rest => return (next, rest)
      | "length", _ => do
        let (text, rest) ← operand fuel word rest
        return (natText (Wide.ofOctets text).length, rest)
      | "match", _ => do
        let (text, rest) ← operand fuel word rest
        let (pattern, rest) ← operand fuel text rest
        return (← matchFront text pattern, rest)
      | "index", _ => do
        let (text, rest) ← operand fuel word rest
        let (set, rest) ← operand fuel text rest
        let text := Wide.ofOctets text
        let set := Wide.ofOctets set
        let front := text.takeWhile fun c => !set.contains c
        return (natText (if front.length = text.length then 0 else front.length + 1), rest)
      | "substr", _ => do
        let (text, rest) ← operand fuel word rest
        let (first, rest) ← operand fuel text rest
        let (count, rest) ← operand fuel first rest
        match integer? first, integer? count with
        | some n, some count =>
          let part := if n ≤ 0 || count ≤ 0 then []
            else ((Wide.ofOctets text).drop (n.toNat - 1)).take count.toNat
          return (Wide.toOctets part, rest)
        | _, _ => return ([], rest)
      | _, _ => return (word, rest)

end

end Expr

def expr : Tool := fun name arguments => do
  finish 0
  let words := match arguments with
    | ['-', '-'] :: words => words
    | words => words
  if words.isEmpty then misuse 2 name "missing operand".toList
  else
    match Expr.value (16 * words.length + 16) 0 [] words with
    | .error text => fail 2 name text
    | .ok (result, []) => do
      print (result ++ ['\n'])
      finish (if Expr.isNull result then 1 else 0)
    | .ok (_, word :: _) =>
      fail 2 name ("syntax error: unexpected argument ".toList ++ inQuotes word)

/-! ## Identity

Tools that tell who runs them, and on what. There is one user, whose number is zero.
-/

namespace Identity

def userName : Octets := "root".toList

def isUser (word : Octets) : Bool :=
  let digits := if word.head? == some '+' then word.drop 1 else word
  word == userName || (isNumber digits && readNat digits = 0)

def noUser (word : Octets) : Octets := inQuotes word ++ ": no such user".toList

def withoutOperands (text : Octets) : Tool :=
  withOptions false [] 1 fun name _ operands =>
    match operands with
    | [] => print (text ++ ['\n'])
    | word :: _ => misuse 1 name ("extra operand ".toList ++ inQuotes word)

end Identity

def whoami : Tool := Identity.withoutOperands Identity.userName

def arch : Tool := Identity.withoutOperands "x86_64".toList

def logname : Tool := fun name arguments => do
  match readOptions false [] (arguments.length + 1) arguments with
  | .error text => misuse 1 name text
  | .ok (_, word :: _) => misuse 1 name ("extra operand ".toList ++ inQuotes word)
  | .ok (_, []) => fail 1 name "no login name".toList

def identity : Tool :=
  withOptions false
    [⟨'a', "", false⟩, ⟨'Z', "context", false⟩, ⟨'g', "group", false⟩, ⟨'G', "groups", false⟩,
      ⟨'n', "name", false⟩, ⟨'r', "real", false⟩, ⟨'u', "user", false⟩, ⟨'z', "zero", false⟩]
    1 fun name options operands => do
      let choices := ['u', 'g', 'G'].filter options.has
      let isBare := choices.isEmpty
      if options.has 'Z' then
        fail 1 name "--context (-Z) works only on an SELinux-enabled kernel".toList
      else if 1 < choices.length then
        fail 1 name "cannot print \"only\" of more than one choice".toList
      else if isBare && (options.has 'n' || options.has 'r') then
        fail 1 name "cannot print only names or real IDs in default format".toList
      else if isBare && options.has 'z' then
        fail 1 name "option --zero not permitted in default format".toList
      else
        let text := if isBare then "uid=0(root) gid=0(root) groups=0(root)".toList
          else if options.has 'n' then Identity.userName
          else ['0']
        let ending := if options.has 'z' then '\x00' else '\n'
        if operands.isEmpty then print (text ++ [ending])
        operands.forM fun word => do
          if Identity.isUser word then
            print (text ++ [ending] ++
              (if options.has 'G' && options.has 'z' && 1 < operands.length then ['\x00'] else []))
          else fail 1 name (Identity.noUser word)

def groups : Tool :=
  withOptions false [] 1 fun name _ operands => do
    if operands.isEmpty then print (Identity.userName ++ ['\n'])
    operands.forM fun word => do
      if word == Identity.userName then
        print (word ++ " : ".toList ++ Identity.userName ++ ['\n'])
      else fail 1 name (Identity.noUser word)

/-- Tells about the system; what differs from one machine to the next one has a fixed text. -/
def uname : Tool :=
  withOptions false
    [⟨'a', "all", false⟩, ⟨'s', "kernel-name", false⟩, ⟨'n', "nodename", false⟩,
      ⟨'r', "kernel-release", false⟩, ⟨'v', "kernel-version", false⟩, ⟨'m', "machine", false⟩,
      ⟨'p', "processor", false⟩, ⟨'i', "hardware-platform", false⟩,
      ⟨'o', "operating-system", false⟩]
    1 fun name options operands =>
      match operands with
      | word :: _ => misuse 1 name ("extra operand ".toList ++ inQuotes word)
      | [] =>
        let parts := [('s', "Linux"), ('n', "localhost"), ('r', "6.1.0"), ('v', "#1 SMP"),
          ('m', "x86_64"), ('p', "unknown"), ('i', "unknown"), ('o', "GNU/Linux")]
        let isShown (letter : Char) : Bool :=
          if options.has 'a' then letter != 'p' && letter != 'i'
          else options.has letter || (options.isEmpty && letter == 's')
        print (Text.joinWith ' ' ((parts.filter fun part => isShown part.1).map fun part =>
          part.2.toList) ++ ['\n'])

def tty : Tool :=
  withOptions false [⟨'s', "silent", false⟩, ⟨'s', "quiet", false⟩] 2 fun name options operands =>
    match operands with
    | word :: _ => misuse 2 name ("extra operand ".toList ++ inQuotes word)
    | [] => do
      if !options.has 's' then print "not a tty\n".toList
      finish 1

def printenv : Tool :=
  withOptions true [⟨'0', "null", false⟩] 2 fun _ options operands => do
    let bindings := (← get).bindings.filter (·.2.exported)
    let ending := if options.has '0' then '\x00' else '\n'
    if operands.isEmpty then
      bindings.forM fun entry =>
        print (entry.1 ++ '=' :: (entry.2.value.getD []) ++ [ending])
    operands.forM fun word =>
      match (bindings.lookup word).bind (·.value) with
      | some value => print (value ++ [ending])
      | none => finish 1

def sync : Tool :=
  withOptions false [⟨'d', "data", false⟩, ⟨'f', "file-system", false⟩] 1
    fun name options operands => do
      if options.has 'd' && options.has 'f' then
        fail 1 name "cannot specify both --data and --file-system".toList
      else if options.has 'd' && operands.isEmpty then
        misuse 1 name "--data needs at least one argument".toList
      else
        operands.forM fun path => do
          match (← get).status? path with
          | .ok _ => pure ()
          | .error fault =>
            fail 1 name ("error opening ".toList ++ shellQuoted path ++ ": ".toList ++
              faultText fault)

def users : Tool :=
  withOptions false [] 1 fun name _ operands =>
    match operands with
    | _ :: word :: _ => misuse 1 name ("extra operand ".toList ++ inQuotes word)
    | _ => return

end NextRelease.Shell.Tool
