import NextRelease.Shell.Grammar

/-!
Reading shell scripts. Characters are read where they are needed, because what ends a word depends
on the quotes and brackets around it; one token can be put back. A script is read one line of
commands at a time, so that the lines before a mistake can be run.
-/

namespace NextRelease.Shell

inductive Token where
  | ending
  | newline
  | sign (text : String)
  | redirect (descriptor : Option Nat) (sign : String)
  | word (word : Word)
  | keyword (text : String)

structure GrammarError where
  line : Nat
  reason : String
  deriving DecidableEq

structure Source where
  text : Octets
  line : Nat := 1
  skipped : Nat := 0
  pushed : Option Token := none
  aliases : List (Octets × Octets) := []
  replaced : List (Octets × Nat) := []

abbrev Reader := StateT Source (Except GrammarError)

namespace Source

def goTo (s : Source) (passed rest : Octets) : Source :=
  let breaks := passed.count '\n'
  if breaks = 0 then { s with text := rest }
  else { s with text := rest, line := s.line + breaks + s.skipped, skipped := 0 }

def drop (s : Source) (count : Nat) : Source := s.goTo (s.text.take count) (s.text.drop count)

end Source

def joinLength : Octets → Nat
  | '\\' :: '\n' :: cs => joinLength cs + 2
  | _ => 0

def blankLength : Octets → Nat
  | ' ' :: cs | '\t' :: cs => blankLength cs + 1
  | '\\' :: '\n' :: cs => blankLength cs + 2
  | '#' :: cs => (cs.takeWhile (· != '\n')).length + 1
  | _ => 0

def operators : List String := ["&&", "&", "||", "|", ";;", ";", "(", ")"]

def redirections : List String := ["<<-", "<<", "<&", "<>", "<", ">>", ">|", ">&", ">"]

def findSign? (signs : List String) (cs : Octets) : Option String :=
  signs.find? fun sign => sign.toList.isPrefixOf cs

def operatorAt? (cs : Octets) : Option (Token × Nat) :=
  let redirectAt? (descriptor : Option Nat) (cs : Octets) (before : Nat) : Option (Token × Nat) :=
    (findSign? redirections cs).map fun sign =>
      (.redirect descriptor sign, before + sign.length)
  match cs with
  | '\n' :: _ => some (.newline, 1)
  | c :: rest =>
    match findSign? operators cs with
    | some sign => some (.sign sign, sign.length)
    | none =>
      if c.isDigit then redirectAt? (some (c.toNat - 48)) rest 1 else redirectAt? none cs 0
  | [] => some (.ending, 0)

def endsWord (c : Char) : Bool := " \t\n;&|<>()".toList.contains c

def cutBackquoted (quoted : Bool) : Octets → Option (Octets × Nat)
  | [] => none
  | '\\' :: c :: cs =>
    let isSpecial := c == '\\' || c == '$' || isBackquote c || (quoted && c == '\x22')
    (cutBackquoted quoted cs).map fun (script, count) =>
      ((if isSpecial then [c] else ['\\', c]) ++ script, count + 2)
  | c :: cs =>
    if isBackquote c then some ([], 1)
    else (cutBackquoted quoted cs).map fun (script, count) => (c :: script, count + 1)

def cutHere (dropTabs : Bool) (delimiter : Octets) : List Octets → Octets × List Octets × Nat
  | [] => ([], [], 0)
  | line :: rest =>
    let line := if dropTabs then line.dropWhile (· == '\t') else line
    if withoutBreak line = delimiter then ([], rest, 1)
    else
      let (body, rest, count) := cutHere dropTabs delimiter rest
      (line ++ body, rest, count + 1)

namespace Reader

variable {α : Type}

def fail (reason : String) : Reader α := do throw ⟨(← get).line, reason⟩

def peek? : Reader (Option Char) := do return (← get).text.head?

def skip (count : Nat) : Reader Unit := modify (·.drop count)

def skipJoins : Reader Unit := modify fun s => s.drop (joinLength s.text)

def takeWhile (p : Char → Bool) : Reader Octets := do
  let taken := (← get).text.takeWhile p
  skip taken.length
  return taken

def within (text : Octets) (reader : Reader α) : Reader α := do
  let s ← get
  set { text, line := s.line, aliases := s.aliases : Source }
  let value ← reader
  set s
  return value

def putBack (token : Token) : Reader Unit := modify fun s => { s with pushed := some token }

def tokenText : Token → String
  | .ending => "end of file"
  | .newline => "newline"
  | .sign text | .keyword text => "\"" ++ text ++ "\""
  | .redirect _ _ => "redirection"
  | .word _ => "word"

def unexpected (token : Token) : Reader α := fail (tokenText token ++ " unexpected")

def unexpectedFor (token : Token) (expected : String) : Reader α :=
  fail (tokenText token ++ " unexpected (expecting " ++ expected ++ ")")

def asKeyword : Token → Token
  | .word word =>
    match bareText? word with
    | some text =>
      if keywords.contains (String.ofList text) then .keyword (String.ofList text) else .word word
    | none => .word word
  | token => token

def aliasFor? (word : Word) : Reader (Option Octets) := do
  let s ← get
  let isReplaced (name : Octets) : Bool :=
    s.replaced.any fun entry => entry.1 == name && entry.2 ≤ s.text.length
  return match bareText? word with
    | some name => if isReplaced name then none else s.aliases.lookup name
    | none => none

def replaceWord (word : Word) (text : Octets) : Reader Unit :=
  modify fun s => { s with
    text := text ++ s.text, replaced := (plainText word, s.text.length) :: s.replaced }

inductive LookUp where
  | none
  | alias
  | command
  deriving DecidableEq

def lookUpBehind (before : Nat) (lookUp : LookUp) : Reader LookUp := do
  let s ← get
  let isPassed (entry : Octets × Nat) : Bool :=
    s.text.length ≤ entry.2 && entry.2 < before &&
      match (s.aliases.lookup entry.1).bind List.getLast? with
      | some c => c == ' ' || c == '\t'
      | none => false
  return if lookUp = .none && s.replaced.any isPassed then .alias else lookUp

def endsList : Token → Bool
  | .ending => true
  | .sign text => text == ")" || text == ";;"
  | .keyword text => ["do", "done", "elif", "else", "esac", "fi", "then", "\x7d"].contains text
  | _ => false

inductive Setting where
  | word
  | quotes
  | braces (quoted : Bool)
  | sum (depth : Nat)
  | here
  deriving DecidableEq

def Setting.isQuoted : Setting → Bool
  | word | braces false => false
  | _ => true

def Setting.atEnd : Setting → Reader Word
  | word | here => return []
  | quotes | braces true => fail "Unterminated quoted string"
  | braces false => fail "Missing '\x7d'"
  | sum _ => fail "Missing '))'"

def Setting.escaped (setting : Setting) (c : Char) : Octets :=
  let isSpecial := c == '$' || c == '\\' || isBackquote c || (c == '\x22' && setting != .here) ||
    (c == '\x7d' && setting == .braces true)
  if isSpecial then [c] else ['\\', c]

inductive ListKind where
  | line
  | some
  | any
  deriving DecidableEq

def join (first : Option Node) (second : Node) : Node :=
  match first with
  | none => second
  | some first => .sequence first second

def present (node : Option Node) : Node := node.getD (.simple 0 [] [] [])

def withRedirects (line : Nat) (node : Node) (redirects : List Redirect) : Node :=
  if redirects.isEmpty then node
  else
    match node with
    | .subshell inner [] => .subshell inner redirects
    | _ => .redirected line node redirects

def finishSimple (token : Token) (line : Nat) (assignments : List Assignment) (words : List Word)
    (redirects : List Redirect) : Reader Node := do
  putBack token
  return .simple line assignments.reverse words.reverse redirects.reverse

mutual

def readPieces : (fuel : Nat) → Setting → Reader Word
  | 0, _ => fail "out of fuel"
  | fuel + 1, setting => do
    skipJoins
    match ← peek? with
    | none => setting.atEnd
    | some c =>
      let plain (next : Setting) : Reader Word := do
        skip 1
        return consLiteral [c] setting.isQuoted (← readPieces fuel next)
      if c = '\\' then
        skip 1
        match ← peek? with
        | none => return consLiteral ['\\'] true (← setting.atEnd)
        | some d => do
          skip 1
          let text := if setting.isQuoted then setting.escaped d else [d]
          return consLiteral text true (← readPieces fuel setting)
      else if c = '$' then
        skip 1
        let piece ← readDollar fuel setting.isQuoted
        let word ← readPieces fuel setting
        match piece with
        | .literal text quoted => return consLiteral text quoted word
        | piece => return piece :: word
      else if isBackquote c then
        skip 1
        let piece ← readBackquoted fuel setting.isQuoted
        return piece :: (← readPieces fuel setting)
      else
        match setting with
        | .quotes =>
          if c = '\x22' then
            skip 1
            return []
          else plain setting
        | .here => plain setting
        | .sum depth =>
          if c = '(' then plain (.sum (depth + 1))
          else if c = ')' then
            match depth with
            | depth + 1 => plain (.sum depth)
            -- a parenthesis that closes none of its own ends the sum if another one comes next
            | 0 =>
              match (← get).text with
              | _ :: ')' :: _ =>
                skip 2
                return []
              | _ => plain setting
          else plain setting
        | .braces true =>
          if c = '\x7d' then
            skip 1
            return []
          else if c = '\x22' then
            skip 1
            return .literal [] true :: (← readPieces fuel setting)
          else plain setting
        | _ =>
          if c = '\x27' then
            skip 1
            let text ← takeWhile (· != '\x27')
            if (← peek?).isNone then fail "Unterminated quoted string"
            skip 1
            return consLiteral text true (← readPieces fuel setting)
          else if c = '\x22' then
            skip 1
            let inner ← readPieces fuel .quotes
            let word ← readPieces fuel setting
            match inner with
            | [] => return consLiteral [] true word
            | inner => return inner ++ word
          else
            match setting with
            | .word => if endsWord c then return [] else plain setting
            | _ =>
              if c = '\x7d' then
                skip 1
                return []
              else plain setting
termination_by structural fuel => fuel

/-- Reads what stands behind a dollar sign. -/
def readDollar : (fuel : Nat) → (quoted : Bool) → Reader Piece
  | 0, _ => fail "out of fuel"
  | fuel + 1, quoted => do
    skipJoins
    match ← peek? with
    | some '(' => do
      skip 1
      skipJoins
      if (← peek?) = some '(' then
        skip 1
        return .sum (← readPieces fuel (.sum 0)) quoted
      else return .command (← readEnclosed fuel) quoted
    | some '\x7b' => do
      skip 1
      readBraced fuel quoted
    | some c =>
      if isNameStart c then return .parameter (← takeWhile isNameChar) .value [] quoted
      else if c.isDigit || "?#@*$!-".toList.contains c then
        skip 1
        return .parameter [c] .value [] quoted
      else return .literal ['$'] quoted
    | none => return .literal ['$'] quoted
termination_by structural fuel => fuel

def readBraced : (fuel : Nat) → (quoted : Bool) → Reader Piece
  | 0, _ => fail "out of fuel"
  | fuel + 1, quoted => do
    let isSpecial (c : Char) : Bool := "?#@*$!-".toList.contains c
    match (← get).text with
    | '#' :: c :: cs =>
      if isNameChar c then
        skip 1
        let name ← takeWhile (if c.isDigit then Char.isDigit else isNameChar)
        let word ← readPieces fuel (.braces quoted)
        return .parameter name .length word quoted
      else if isSpecial c && cs.head? == some '\x7d' then
        skip 3
        return .parameter [c] .length [] quoted
      else
        skip 1
        readUse fuel quoted ['#']
    | c :: _ =>
      if isNameStart c then readUse fuel quoted (← takeWhile isNameChar)
      else if c.isDigit then readUse fuel quoted (← takeWhile Char.isDigit)
      else if isSpecial c then
        skip 1
        readUse fuel quoted [c]
      else return .parameter [] .unknown (← readPieces fuel (.braces quoted)) quoted
    | [] => return .parameter [] .unknown (← readPieces fuel (.braces quoted)) quoted
termination_by structural fuel => fuel

/-- Reads what is done with a parameter between braces. -/
def readUse : (fuel : Nat) → (quoted : Bool) → (name : Octets) → Reader Piece
  | 0, _, _ => fail "out of fuel"
  | fuel + 1, quoted, name => do
    let done (count : Nat) (use : Use) (inQuotes : Bool) : Reader Piece := do
      skip count
      return .parameter name use (← readPieces fuel (.braces inQuotes)) quoted
    let use? (orEmpty : Bool) (c : Char) : Option Use :=
      match c with
      | '-' => some (.otherwise orEmpty)
      | '=' => some (.assign orEmpty)
      | '?' => some (.demand orEmpty)
      | '+' => some (.instead orEmpty)
      | _ => none
    match (← get).text with
    | '\x7d' :: _ => do
      skip 1
      return .parameter name .value [] quoted
    | '#' :: '#' :: _ => done 2 (.dropFront true) false
    | '#' :: _ => done 1 (.dropFront false) false
    | '%' :: '%' :: _ => done 2 (.dropBack true) false
    | '%' :: _ => done 1 (.dropBack false) false
    | ':' :: c :: _ =>
      match use? true c with
      | some use => done 2 use quoted
      | none => done 1 .unknown quoted
    | c :: _ =>
      match use? false c with
      | some use => done 1 use quoted
      | none => done 0 .unknown quoted
    | [] => done 0 .unknown quoted
termination_by structural fuel => fuel

def readEnclosed : (fuel : Nat) → Reader (Option Node)
  | 0 => fail "out of fuel"
  | fuel + 1 => do
    let node ← readList fuel .any none false
    match ← nextToken fuel .none with
    | .sign ")" => return node
    | token => unexpectedFor token "\")\""
termination_by structural fuel => fuel

def readBackquoted : (fuel : Nat) → (quoted : Bool) → Reader Piece
  | 0, _ => fail "out of fuel"
  | fuel + 1, quoted => do
    match cutBackquoted quoted (← get).text with
    | none => do
      modify fun s => s.drop s.text.length
      fail "EOF in backquote substitution"
    | some (script, count) => do
      let node ← within script (readList fuel .any none false)
      skip count
      return .command node quoted
termination_by structural fuel => fuel

def nextToken : (fuel : Nat) → LookUp → Reader Token
  | 0, _ => fail "out of fuel"
  | fuel + 1, lookUp => do
    let (token, lookUp) ← match (← get).pushed with
      | some token => do
        modify fun s => { s with pushed := none }
        pure (token, lookUp)
      | none => do
        let before := (← get).text.length
        modify fun s => s.drop (blankLength s.text)
        let lookUp ← lookUpBehind before lookUp
        match operatorAt? (← get).text with
        | some (token, count) => do
          skip count
          pure (token, lookUp)
        | none => do pure (.word (← readPieces fuel .word), lookUp)
    match if lookUp = .command then asKeyword token else token with
    | .word word => do
      let text? ← if lookUp = .none then pure none else aliasFor? word
      match text? with
      | some text => do
        replaceWord word text
        nextToken fuel lookUp
      | none => return .word word
    | token => return token
termination_by structural fuel => fuel

def nextBeyondBreaks : (fuel : Nat) → Reader Token
  | 0 => fail "out of fuel"
  | fuel + 1 => do
    match ← nextToken fuel .command with
    | .newline => nextBeyondBreaks fuel
    | token => return token
termination_by structural fuel => fuel

def readList : (fuel : Nat) → ListKind → (first : Option Node) → (started : Bool) →
    Reader (Option Node)
  | 0, _, _, _ => fail "out of fuel"
  | fuel + 1, kind, first, started => do
    let token ← if kind = .line then nextToken fuel .command else nextBeyondBreaks fuel
    match token with
    | .newline => return first
    | .ending => do
      putBack token
      return first
    | token => do
      putBack token
      if endsList token && (kind = .any || (kind = .some && started)) then return first
      let node ← readChain fuel false
      let token ← nextToken fuel .none
      let list := join first (match token with
        | .sign "&" => .background node
        | _ => node)
      match token with
      | .ending => do
        putBack token
        return list
      | .newline => do
        putBack token
        readList fuel kind list true
      | .sign "&" | .sign ";" => readList fuel kind list true
      | token => do
        if kind = .line then unexpected token
        putBack token
        return list
termination_by structural fuel => fuel

def readChain : (fuel : Nat) → (beyondBreaks : Bool) → Reader Node
  | 0, _ => fail "out of fuel"
  | fuel + 1, beyondBreaks => do readLinks fuel (← readPipeline fuel beyondBreaks)
termination_by structural fuel => fuel

def readLinks : (fuel : Nat) → Node → Reader Node
  | 0, _ => fail "out of fuel"
  | fuel + 1, first => do
    match ← nextToken fuel .none with
    | .sign "&&" => do readLinks fuel (.andThen first (← readPipeline fuel true))
    | .sign "||" => do readLinks fuel (.orElse first (← readPipeline fuel true))
    | token => do
      putBack token
      return first
termination_by structural fuel => fuel

def readPipeline : (fuel : Nat) → (beyondBreaks : Bool) → Reader Node
  | 0, _ => fail "out of fuel"
  | fuel + 1, beyondBreaks => do
    let token ← if beyondBreaks then nextBeyondBreaks fuel else nextToken fuel .command
    let isNegated := match token with
      | .keyword "!" => true
      | _ => false
    if !isNegated then putBack token
    let first ← readCommand fuel false
    let rest ← readPiped fuel
    let node := if rest.isEmpty then first else .pipeline (first :: rest)
    return if isNegated then .negate node else node
termination_by structural fuel => fuel

def readPiped : (fuel : Nat) → Reader (List Node)
  | 0 => fail "out of fuel"
  | fuel + 1 => do
    match ← nextToken fuel .none with
    | .sign "|" => do
      let node ← readCommand fuel true
      return node :: (← readPiped fuel)
    | token => do
      putBack token
      return []
termination_by structural fuel => fuel

def readCommand : (fuel : Nat) → (beyondBreaks : Bool) → Reader Node
  | 0, _ => fail "out of fuel"
  | fuel + 1, beyondBreaks => do
    let token ← if beyondBreaks then nextBeyondBreaks fuel else nextToken fuel .command
    let line := (← get).line
    match token with
    | .keyword "if" => do
      let node ← readChoice fuel
      readEnd fuel line node "fi"
    | .keyword "while" => do readLoop fuel line false
    | .keyword "until" => do readLoop fuel line true
    | .keyword "for" => do
      let node ← readEach fuel line
      readEnd fuel line node "done"
    | .keyword "case" => do
      match ← nextToken fuel .none with
      | .word subject => do
        match ← nextBeyondBreaks fuel with
        | .keyword "in" => do
          let branches ← readBranches fuel
          return withRedirects line (.select line subject branches) (← readRedirects fuel)
        | token => unexpectedFor token "\"in\""
      | token => unexpectedFor token "word"
    | .sign "(" => do
      let inner ← readList fuel .some none false
      match ← nextToken fuel .command with
      | .sign ")" => return withRedirects line (.subshell (present inner) []) (← readRedirects fuel)
      | token => unexpectedFor token "\")\""
    | .keyword "\x7b" => do
      let inner ← readList fuel .some none false
      readEnd fuel line (present inner) "\x7d"
    | .word _ | .redirect _ _ => do
      putBack token
      readSimple fuel line [] [] []
    | token => unexpected token
termination_by structural fuel => fuel

def readEnd : (fuel line : Nat) → Node → String → Reader Node
  | 0, _, _, _ => fail "out of fuel"
  | fuel + 1, line, node, last => do
    match ← nextToken fuel .command with
    | .keyword text =>
      if text = last then return withRedirects line node (← readRedirects fuel)
      else unexpectedFor (.keyword text) ("\"" ++ last ++ "\"")
    | token => unexpectedFor token ("\"" ++ last ++ "\"")
termination_by structural fuel => fuel

def readRedirects : (fuel : Nat) → Reader (List Redirect)
  | 0 => fail "out of fuel"
  | fuel + 1 => do
    match ← nextToken fuel .command with
    | .redirect descriptor sign => do
      let redirect ← readRedirect fuel descriptor sign
      return redirect :: (← readRedirects fuel)
    | token => do
      putBack token
      return []
termination_by structural fuel => fuel

/-- Reads a choice behind its `if` or `elif`, up to the `fi`. -/
def readChoice : (fuel : Nat) → Reader Node
  | 0 => fail "out of fuel"
  | fuel + 1 => do
    let test ← readList fuel .some none false
    match ← nextToken fuel .command with
    | .keyword "then" => do
      let accepted ← readList fuel .some none false
      match ← nextToken fuel .command with
      | .keyword "elif" => do
        let refused ← readChoice fuel
        return .choose (present test) (present accepted) (some refused)
      | .keyword "else" => do
        let refused ← readList fuel .some none false
        return .choose (present test) (present accepted) refused
      | token => do
        putBack token
        return .choose (present test) (present accepted) none
    | token => unexpectedFor token "\"then\""
termination_by structural fuel => fuel

def readLoop : (fuel line : Nat) → (whileFails : Bool) → Reader Node
  | 0, _, _ => fail "out of fuel"
  | fuel + 1, line, whileFails => do
    let test ← readList fuel .some none false
    match ← nextToken fuel .command with
    | .keyword "do" => do
      let body ← readList fuel .some none false
      readEnd fuel line (.repeated whileFails (present test) (present body)) "done"
    | token => unexpectedFor token "\"do\""
termination_by structural fuel => fuel

def readEach : (fuel line : Nat) → Reader Node
  | 0, _ => fail "out of fuel"
  | fuel + 1, line => do
    let name ← match ← nextToken fuel .none with
      | .word word => pure (bareText? word)
      | _ => pure none
    match name with
    | none => fail "Bad for loop variable"
    | some name => do
      if !isName name then fail "Bad for loop variable"
      let words ← match ← nextBeyondBreaks fuel with
        | .keyword "in" => do
          let words ← readWords fuel
          match ← nextToken fuel .none with
          | .newline | .sign ";" => pure (some words)
          | token => unexpected token
        | .sign ";" => pure none
        | token => do
          putBack token
          pure none
      match ← nextBeyondBreaks fuel with
      | .keyword "do" => do
        let body ← readList fuel .some none false
        return .each line name words (present body)
      | token => unexpectedFor token "\"do\""
termination_by structural fuel => fuel

def readWords : (fuel : Nat) → Reader (List Word)
  | 0 => fail "out of fuel"
  | fuel + 1 => do
    match ← nextToken fuel .none with
    | .word word => return word :: (← readWords fuel)
    | token => do
      putBack token
      return []
termination_by structural fuel => fuel

def readBranches : (fuel : Nat) → Reader (List Branch)
  | 0 => fail "out of fuel"
  | fuel + 1 => do
    match ← nextBeyondBreaks fuel with
    | .keyword "esac" => return []
    | token => do
      let token ← match token with
        | .sign "(" => nextToken fuel .none
        | token => pure token
      let patterns ← readPatterns fuel token
      let body ← readList fuel .any none false
      let branch := Branch.mk patterns body
      match ← nextBeyondBreaks fuel with
      | .keyword "esac" => return [branch]
      | .sign ";;" => return branch :: (← readBranches fuel)
      | token => unexpectedFor token "\";;\""
termination_by structural fuel => fuel

def readPatterns : (fuel : Nat) → Token → Reader (List Word)
  | 0, _ => fail "out of fuel"
  | fuel + 1, token => do
    let pattern : Word := match token with
      | .word word => word
      | .keyword text => [.literal text.toList false]
      | _ => []
    match ← nextToken fuel .none with
    | .sign "|" => do
      let token ← nextToken fuel .none
      return pattern :: (← readPatterns fuel token)
    | .sign ")" => return [pattern]
    | token => unexpectedFor token "\")\""
termination_by structural fuel => fuel

def readRedirect : (fuel : Nat) → Option Nat → String → Reader Redirect
  | 0, _, _ => fail "out of fuel"
  | fuel + 1, descriptor, sign => do
    match ← nextToken fuel .none with
    | .word word => do
      let output := descriptor.getD 1
      let input := descriptor.getD 0
      match sign with
      | ">" => return .mk output (.output .fresh word)
      | ">|" => return .mk output (.output .over word)
      | ">>" => return .mk output (.output .append word)
      | ">&" => return .mk output (.duplicate word)
      | "<&" => return .mk input (.duplicate word)
      | "<>" => return .mk input (.both word)
      | "<" => return .mk input (.input word)
      | _ => do
        let s ← get
        let line := s.text.takeWhile (· != '\n')
        let (body, rest, count) :=
          cutHere (sign == "<<-") (plainText word) (lines (s.text.drop (line.length + 1)))
        let rest := rest.flatten
        set { s with
          text := if s.text.length = line.length then line else line ++ '\n' :: rest
          skipped := s.skipped + count }
        let text ← if (bareText? word).isSome then within body (readPieces fuel .here)
          else pure [.literal body true]
        return .mk input (.here text)
    | token => unexpected token
termination_by structural fuel => fuel

/-- Reads on in a simple command; the parts that were read stand in reverse order. -/
def readSimple : (fuel line : Nat) → List Assignment → List Word → List Redirect → Reader Node
  | 0, _, _, _, _ => fail "out of fuel"
  | fuel + 1, line, assignments, words, redirects => do
    match ← nextToken fuel (if words.isEmpty then .alias else .none) with
    | .word word =>
      match if words.isEmpty then assignment? word else none with
      | some a => readSimple fuel line (a :: assignments) words redirects
      | none => readSimple fuel line assignments (word :: words) redirects
    | .redirect descriptor sign => do
      let redirect ← readRedirect fuel descriptor sign
      readSimple fuel line assignments words (redirect :: redirects)
    | token => do
      let opens := match token with
        | .sign "(" => true
        | _ => false
      match words with
      | [name] =>
        if opens && assignments.isEmpty && redirects.isEmpty then readDefinition fuel name
        else finishSimple token line assignments words redirects
      | _ => finishSimple token line assignments words redirects
termination_by structural fuel => fuel

/-- Reads the definition of a function behind its opening parenthesis. -/
def readDefinition : (fuel : Nat) → Word → Reader Node
  | 0, _ => fail "out of fuel"
  | fuel + 1, word => do
    match ← nextToken fuel .none with
    | .sign ")" => do
      match bareText? word with
      | some name => do
        if !isName name || specialCommands.contains (String.ofList name) then
          fail "Bad function name"
        return .define name (← readCommand fuel true)
      | none => fail "Bad function name"
    | token => unexpectedFor token "\")\""
termination_by structural fuel => fuel

end

end Reader

def Source.readLine (s : Source) : Except GrammarError (Option Node × Source) :=
  (Reader.readList (64 * s.text.length + 64) .line none false).run s

def Source.metEnd (s : Source) : Bool :=
  match s.pushed with
  | some .ending => true
  | _ => false

def Source.isAtEnd (s : Source) : Bool := s.metEnd || s.text.isEmpty

end NextRelease.Shell
