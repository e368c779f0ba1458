import NextRelease.Shell.Perl.Reading

/-!
Reading scripts. What a character means depends on whether an operand or an operator is expected, so
a script is read character by character; operators bind in levels.
-/

namespace NextRelease.Shell.Perl

open Read

def checkedPattern (pattern : Expr) : Read Octets := do
  let flags ← readLetters
  if let .value (.text source) := pattern then
    if let .error problem := readPattern (changeFlags {} true flags) source then
      failWith (problem.message source)
  return flags

def allowName (name : String) (es : List Expr) : Read Unit := do
  if namingFunctions.contains name then
    match es with
    | .value (.text w) :: _ | .list (.value (.text w) :: _) :: _ => allowWord w
    | _ => pure ()

def refuseConstants (target : Expr) : Read Unit := do
  let es := match target with
    | .list es => es
    | e => [e]
  let kind := if target.isPlural then "list" else "scalar"
  es.forM fun e => match e with
    | .value _ => do
      complain (("Can't modify constant item in " ++ kind ++ " assignment").toList ++ (← position) ++
        (← nearText))
    | _ => pure ()

mutual

/-- Reads the parts of a text up to its end, or to the escape that ends a change of letters. -/
def readParts : (fuel : Nat) → (inPattern : Bool) → (done : Octets) → Read (List Expr)
  | 0, _, _ => refuse
  | fuel + 1, inPattern, done => do
    let finished : List Expr := if done.isEmpty then [] else [.text done.reverse]
    let text ← rest
    match text with
    | [] => return finished
    | '\\' :: 'E' :: more => do
      setRest more
      return finished
    | '\\' :: c :: more =>
      let change := match c with
        | 'U' => "uc"
        | 'L' => "lc"
        | 'u' => "ucfirst"
        | 'l' => "lcfirst"
        | 'Q' => "quotemeta"
        | _ => ""
      if change != "" then
        setRest more
        let inner ← readParts fuel (inPattern && c != 'Q') []
        let behind ← readParts fuel inPattern []
        return finished ++ [.builtin change [.interpolated inner]] ++ behind
      else if inPattern then
        setRest more
        readParts fuel inPattern (c :: '\\' :: done)
      else
        let (cs, more) := textEscape (c :: more)
        setRest more
        readParts fuel inPattern (cs.reverse ++ done)
    | '$' :: more =>
      let name := variableName more
      let begins := match more with
        | '\x7b' :: _ => true
        | '$' :: c :: _ => isNameStart c || c = '\x7b' || !inPattern
        | '#' :: c :: _ => isNameStart c || c = '\x7b' || c = '$'
        | '+' :: c :: _ => c = '\x7b' || !inPattern
        | ['+'] => !inPattern
        | '-' :: c :: _ => c = '[' && !inPattern
        | '?' :: _ => !inPattern
        | c :: _ =>
          if inPattern then isNameStart c || c.isDigit || c = '&' || c = ':' && !name.isEmpty
          else !name.isEmpty && !isSpaceChar c && !"()|<>%=~-[]+".toList.contains c
        | [] => false
      if begins then
        let e ← readVariable fuel true inPattern
        return finished ++ e :: (← readParts fuel inPattern [])
      else
        setRest more
        readParts fuel inPattern ('$' :: done)
    | '@' :: c :: more =>
      if isNameStart c || c = '\x7b' || c = '$' || ((c = '-' || c = '+') && !inPattern) then
        let e ← readVariable fuel true inPattern
        return finished ++ e :: (← readParts fuel inPattern [])
      else
        setRest (c :: more)
        readParts fuel inPattern ('@' :: done)
    | c :: more => do
      setRest more
      readParts fuel inPattern (c :: done)
termination_by structural fuel => fuel

def readInterpolated : (fuel : Nat) → (inPattern : Bool) → Octets → Read Expr
  | 0, _, _ => refuse
  | fuel + 1, inPattern, text => do
    let parts ← apart true text (readParts fuel inPattern [])
    match parts with
    | [] => return .text []
    | [.value v] => return .value v
    | parts => return .interpolated parts
termination_by structural fuel => fuel

def readInner : (fuel : Nat) → Octets → Read Expr
  | 0, _ => refuse
  | fuel + 1, text => do
    let statements ← apart false text do
      let statements ← readStatements fuel
      skip
      if (← rest).isEmpty then return statements else refuse
    match statements with
    | [.expression _ e] => return e
    | statements => return .block statements
termination_by structural fuel => fuel

/-- Reads a variable with what selects from it; in a text nothing may stand in between. -/
def readVariable : (fuel : Nat) → (inText inPattern : Bool) → Read Expr
  | 0, _, _ => refuse
  | fuel + 1, inText, inPattern => do
    let text ← rest
    let sigil : Sigil := match text.head? with
      | some '@' => .list
      | some '%' => .table
      | some '&' => .code
      | _ => .scalar
    let more := text.drop 1
    let isCount := sigil = .scalar && more.head? = some '#' &&
      ((more.drop 1).head?.any fun c => isNameStart c || c == '$' || c == '\x7b')
    advance (if isCount then 2 else 1)
    if !inText then skip
    let holder ← readHolder fuel
    mark text
    let checked (sigil : Sigil) : Read Expr := match holder with
      | .inl name => known sigil name
      | .inr e => pure (.deref sigil e)
    if isCount then return .lastIndex (← checked .list)
    if !inText && sigil != .table && sigil != .code then
      modify fun r =>
        let blank := r.text.takeWhile (· == ' ')
        match r.text.drop blank.length with
        | '[' :: _ => if sigil = .scalar then { r with text := r.text.drop blank.length } else r
        | _ => r
    let next := (← rest).head?
    match sigil, next with
    | .scalar, some '[' =>
      if inText && !(isIndex inPattern ((← rest).drop 1)) then checked .scalar
      else
        let container ← checked .list
        let index ← readIndex fuel
        readSelections fuel inText inPattern (.item container index)
    | .scalar, some '\x7b' =>
      if inPattern && isBounds ((← rest).drop 1) then checked .scalar
      else
        let container ← checked .table
        let key ← readKey fuel
        readSelections fuel inText inPattern (.entry container key)
    | .list, some '[' => do
      let container ← checked .list
      return .items container (← readIndex fuel)
    | .list, some '\x7b' => do
      let container ← checked .table
      return .entries container (← readKey fuel)
    | .table, some '[' => do
      let container ← checked .list
      return .builtin "pairsAt" [.refer container, ← readIndex fuel]
    | .table, some '\x7b' => do
      let container ← checked .table
      return .builtin "pairsAt" [.refer container, ← readKey fuel]
    | .code, _ => do
      let arguments ← if ← accept "(" then readClosedList fuel else pure [.named .list ['_']]
      match holder with
      | .inl name => return .call (← functionName name) arguments
      | .inr e => return .invoke e arguments
    | .scalar, _ =>
      let container ← checked .scalar
      let arrow := (← rest).take 3
      let follows := ["->[", "->\x7b", "->@", "->$"].contains (String.ofList arrow)
      if inText && !follows then return container
      readSelections fuel inText inPattern container
    | sigil, _ => checked sigil
termination_by structural fuel => fuel

def readHolder : (fuel : Nat) → Read (Octets ⊕ Expr)
  | 0 => refuse
  | fuel + 1 => do
    let text ← rest
    match text with
    | '\x7b' :: more =>
      let caret := match more with
        | '^' :: w => '^' :: w.takeWhile isNameChar
        | _ => []
      match bareKey? more with
      | some (name, after) => do
        advance (text.length - after.length)
        return .inl name
      | none =>
        if !caret.isEmpty then
          advance (caret.length + 2)
          return .inl caret
        match delimited '\x7b' (more.length + 1) 0 more with
        | some (inner, after) => do
          let bare := inner.dropWhile isSpaceChar
          if !bare.isEmpty && bare.all Char.isDigit then
            advance (text.length - after.length)
            return .inl bare
          let e ← readInner fuel inner
          advance (text.length - after.length)
          return .inr e
        | none => do
          modify fun r => { r with text := [], last := [], braces := r.braces + 1 }
          refuseEnd
    | '$' :: more =>
      advance 1
      if more.head?.any fun c => isNameStart c || c = '$' || c = '\x7b' || c = ':' then
        match ← readHolder fuel with
        | .inl name => return .inr (← known .scalar name)
        | .inr e => return .inr (.deref .scalar e)
      else return .inl ['$']
    | text =>
      let name := variableName text
      if name.isEmpty then refuse
      else
        advance name.length
        return .inl name
termination_by structural fuel => fuel

def readIndex : (fuel : Nat) → Read Expr
  | 0 => refuse
  | fuel + 1 => do
    openBracket "["
    if ← sees "]" then
      closeBracket "]"
      return .list []
    let e ← readFull fuel
    closeBracket "]"
    return e
termination_by structural fuel => fuel

def readKey : (fuel : Nat) → Read Expr
  | 0 => refuse
  | fuel + 1 => do
    expect "\x7b"
    match bareKey? (← rest) with
    | some (name, after) => do
      advance ((← rest).length - after.length)
      return .text name
    | none => do
      modify fun r => { r with braces := r.braces + 1 }
      let e ← readFull fuel
      closeBracket "\x7d"
      return e
termination_by structural fuel => fuel

/-- Reads what selects from a value by arrows and brackets. -/
def readSelections : (fuel : Nat) → (inText inPattern : Bool) → Expr → Read Expr
  | 0, _, _, _ => refuse
  | fuel + 1, inText, inPattern, e => do
    if !inText then skip
    let isSelected := match e with
      | .item _ _ | .entry _ _ | .invoke _ _ => true
      | _ => false
    let package := (← get).package
    match (← rest) with
    | '-' :: '>' :: more =>
      let spaces := if inText then 0 else (more.takeWhile isSpaceChar).length
      match more.drop spaces with
      | '[' :: _ => do
        advance (2 + spaces)
        let index ← readIndex fuel
        readSelections fuel inText inPattern (.item (.deref .list e) index)
      | '\x7b' :: _ => do
        advance (2 + spaces)
        let key ← readKey fuel
        readSelections fuel inText inPattern (.entry (.deref .table e) key)
      | '(' :: _ =>
        if inText then return e
        advance (3 + spaces)
        let arguments ← readClosedList fuel
        readSelections fuel inText inPattern (.invoke e arguments)
      | '@' :: '*' :: _ => do
        advance (4 + spaces)
        return .deref .list e
      | '%' :: '*' :: _ => do
        advance (4 + spaces)
        return .deref .table e
      | '$' :: '*' :: _ => do
        advance (4 + spaces)
        return .deref .scalar e
      | '$' :: '#' :: '*' :: _ => do
        advance (5 + spaces)
        return .lastIndex (.deref .list e)
      | '@' :: '[' :: _ => do
        advance (3 + spaces)
        return .items (.deref .list e) (← readIndex fuel)
      | '@' :: '\x7b' :: _ => do
        advance (3 + spaces)
        return .entries (.deref .table e) (← readKey fuel)
      | '&' :: '*' :: _ => do
        advance (4 + spaces)
        return .invoke e [.named .list ['_']]
      | more =>
        if inText then return e
        let name := wordAhead more
        if name.isEmpty && more.head? != some '$' then refuse
        advance (2 + spaces)
        let method ← if name.isEmpty then do
            advance 1
            match ← readHolder fuel with
            | .inl name => known .scalar name
            | .inr e => pure (.deref .scalar e)
          else do
            advance name.length
            pure (.text name)
        let arguments ← if ← accept "(" then readClosedList fuel else pure []
        let e : Expr := .method e method package arguments
        readSelections fuel inText inPattern e
    | '[' :: more =>
      if isSelected &&
          !(inPattern && !(more.head?.any fun c => c.isDigit || c == '$' || c == '-')) then
        let index ← readIndex fuel
        readSelections fuel inText inPattern (.item (.deref .list e) index)
      else return e
    | '\x7b' :: _ =>
      if isSelected then
        let key ← readKey fuel
        readSelections fuel inText inPattern (.entry (.deref .table e) key)
      else return e
    | '(' :: _ =>
      if isSelected && !inText then
        advance 1
        let arguments ← readClosedList fuel
        readSelections fuel inText inPattern (.invoke e arguments)
      else return e
    | _ => return e
termination_by structural fuel => fuel

def readClosedList : (fuel : Nat) → Read (List Expr)
  | 0 => refuse
  | fuel + 1 => do
    if ← accept ")" then return []
    let es ← readCommas fuel
    let es ← readLowOperators fuel es
    expect ")"
    return es
termination_by structural fuel => fuel

def readLowOperators : (fuel : Nat) → List Expr → Read (List Expr)
  | 0, _ => refuse
  | fuel + 1, es => do
    let whole : Expr := match es with
      | [e] => e
      | es => .list es
    let w := String.ofList (← word)
    if w = "and" then
      advance 3
      readLowOperators fuel [.logic .both whole (← readNot fuel)]
    else if w = "or" then
      advance 2
      let right ← readAnd fuel
      readLowOperators fuel [.logic .either whole right]
    else return es
termination_by structural fuel => fuel

def readFull : (fuel : Nat) → Read Expr
  | 0 => refuse
  | fuel + 1 => do
    let first ← readAnd fuel
    readOrs fuel first
termination_by structural fuel => fuel

def readOrs : (fuel : Nat) → Expr → Read Expr
  | 0, _ => refuse
  | fuel + 1, left => do
    if ← acceptWord "or" then readOrs fuel (.logic .either left (← readAnd fuel))
    else if ← acceptWord "xor" then
      let right ← readAnd fuel
      readOrs fuel (.choose left (.not right) (.not (.not right)))
    else return left
termination_by structural fuel => fuel

def readAnd : (fuel : Nat) → Read Expr
  | 0 => refuse
  | fuel + 1 => do
    let first ← readNot fuel
    readAnds fuel first
termination_by structural fuel => fuel

def readAnds : (fuel : Nat) → Expr → Read Expr
  | 0, _ => refuse
  | fuel + 1, left => do
    if ← acceptWord "and" then readAnds fuel (.logic .both left (← readNot fuel))
    else return left
termination_by structural fuel => fuel

def readNot : (fuel : Nat) → Read Expr
  | 0 => refuse
  | fuel + 1 => do
    if (← word) = "not".toList && !isArrowed ((← rest).drop 3) then
      advance 3
      return .not (← readNot fuel)
    match ← readCommas fuel with
    | [e] => return e
    | es => return .list es
termination_by structural fuel => fuel

def readCommas : (fuel : Nat) → Read (List Expr)
  | 0 => refuse
  | fuel + 1 => do
    let e ← readAssignment fuel
    let isList := (← sees ",") || (← sees "=>")
    if !isList then return [e]
    passCommas
    if ← atListEnd then return [.list [e]]
    match ← readCommas fuel with
    | [.list es] => return [.list (e :: es)]
    | es => return [.list (e :: es)]
termination_by structural fuel => fuel

def readAssignment : (fuel : Nat) → Read Expr
  | 0 => refuse
  | fuel + 1 => do
    let target ← readChoice fuel
    skip
    match assignmentAt? (← rest) with
    | none => return target
    | some (size, assignment) => do
      advance size
      let value ← readAssignment fuel
      refuseConstants target
      return match assignment with
        | .plain => .assign target value
        | .update op => .update op target value
        | .logic op => .logicUpdate op target value
termination_by structural fuel => fuel

def readChoice : (fuel : Nat) → Read Expr
  | 0 => refuse
  | fuel + 1 => do
    let condition ← readBinary fuel 7
    if ← accept "?" then
      let accepted ← readAssignment fuel
      expect ":"
      return .choose condition accepted (← readAssignment fuel)
    return condition
termination_by structural fuel => fuel

def readBinary : (fuel : Nat) → (level : Nat) → Read Expr
  | 0, _ => refuse
  | fuel + 1, level => do
    let first ← readUnary fuel
    readMore fuel level first
termination_by structural fuel => fuel

def readMore : (fuel : Nat) → (level : Nat) → Expr → Read Expr
  | 0, _, _ => refuse
  | fuel + 1, level, left => do
    skip
    match infixAt? (← rest) with
    | none => return left
    | some (size, found, op) =>
      if found < level then return left
      advance size
      let place ← newPlace
      let right ← readBinary fuel (found + 1)
      let e : Expr := match op with
        | .operator op => .binary op left right
        | .logic op => .logic op left right
        | .range => .range place left right
        | .bind negated =>
          match right with
          | .find none _ pattern flags => .find (some left) negated pattern flags
          | .substitute none pattern replacement flags =>
            .substitute (some left) pattern replacement flags
          | .transliterate none source target flags =>
            .transliterate (some left) source target flags
          | pattern => .find (some left) negated pattern []
      readMore fuel level e
termination_by structural fuel => fuel

def readUnary : (fuel : Nat) → Read Expr
  | 0 => refuse
  | fuel + 1 => do
    skip
    match ← rest with
    | '!' :: c :: _ =>
      if c = '~' then refuse
      advance 1
      return .not (← readUnary fuel)
    | '~' :: _ => do
      advance 1
      return .flip (← readUnary fuel)
    | '\\' :: _ => do
      advance 1
      return .refer (← readUnary fuel)
    | '+' :: c :: _ =>
      if c = '+' then readPower fuel
      else
        advance 1
        readUnary fuel
    | '-' :: c :: more =>
      let next := more.head?.getD ' '
      let isTest := "edfrwxszlpSbc".toList.contains c && !isNameChar next &&
        !isArrowed more && next != '('
      if c = '-' then readPower fuel
      else if isTest then
        advance 2
        if ← atListEnd then return .fileTest c .topic
        let e ← readUnary fuel
        allowName "stat" [e]
        return .fileTest c e
      else if isNameStart c && !(wordAhead (c :: more)).isEmpty &&
          !isFunction (wordAhead (c :: more)) then
        let name := wordAhead (c :: more)
        advance (1 + name.length)
        return .text ('-' :: name)
      else
        advance 1
        return .negate (← readUnary fuel)
    | _ => readPower fuel
termination_by structural fuel => fuel

def readPower : (fuel : Nat) → Read Expr
  | 0 => refuse
  | fuel + 1 => do
    let base ← readCounted fuel
    skip
    match ← rest with
    | '*' :: '*' :: c :: _ =>
      if c = '=' then return base
      advance 2
      return .binary .power base (← readUnary fuel)
    | _ => return base
termination_by structural fuel => fuel

def readCounted : (fuel : Nat) → Read Expr
  | 0 => refuse
  | fuel + 1 => do
    if ← accept "++" then return .step true false (← readCounted fuel)
    if ← accept "--" then return .step false false (← readCounted fuel)
    let e ← readOperand fuel
    if ← accept "++" then return .step true true e
    if ← accept "--" then return .step false true e
    return e
termination_by structural fuel => fuel

def readOperand : (fuel : Nat) → Read Expr
  | 0 => refuse
  | fuel + 1 => do
    skip
    let text ← rest
    match text with
    | [] => refuse
    | '$' :: _ | '@' :: _ => readVariable fuel false false
    | '%' :: c :: _ | '&' :: c :: _ =>
      if isNameStart c || c = '$' || c = '\x7b' || c = ':' || c = '+' || c = '!' then
        readVariable fuel false false
      else refuse
    | '\x22' :: _ => do
      let (_, inner) ← readDelimited
      let e ← readInterpolated fuel false inner
      readSelections fuel false false e
    | '\x27' :: _ => do
      let (c, inner) ← readDelimited
      readSelections fuel false false (.text (plainQuoted c inner))
    | '*' :: '\x7b' :: _ => do
      advance 1
      match ← readHolder fuel with
      | .inl name => return .builtin "symbol" [.text name]
      | .inr e => return .builtin "symbol" [e]
    | '*' :: c :: cs =>
      if isNameStart c then
        let name := wordAhead (c :: cs)
        advance (1 + name.length)
        return .builtin "symbol" [.text (← functionName name)]
      else if c = '$' then
        advance 1
        return .builtin "symbol" [← readVariable fuel false false]
      else refuse
    | '(' :: _ => do
      advance 1
      let es ← readClosedList fuel
      let es := match es with
        | [.list es] => es
        | es => es
      if ← sees "[" then return .pick (.list es) (← readIndex fuel)
      readSelections fuel false false (.list es)
    | '[' :: _ => do
      openBracket "["
      let es ← if ← sees "]" then pure [] else readCommas fuel
      closeBracket "]"
      readSelections fuel false false (.listMaker es)
    | '\x7b' :: _ => do
      openBracket "\x7b"
      let es ← if ← sees "\x7d" then pure [] else readCommas fuel
      closeBracket "\x7d"
      readSelections fuel false false (.tableMaker es)
    | '/' :: _ => do
      let (_, inner) ← readDelimited
      let pattern ← readInterpolated fuel true inner
      return .find none false pattern (← checkedPattern pattern)
    | '<' :: '<' :: c :: more =>
      let (indented, mark) := if c = '~' then (true, more) else (false, c :: more)
      match mark with
      | q :: cs =>
        if q = '\x22' || q = '\x27' then
          let ending := cs.takeWhile (· != q)
          let start := text.length - (cs.drop (ending.length + 1)).length
          readHere fuel indented (q != '\x27') ending start
        else if isNameStart q then
          let ending := mark.takeWhile isNameChar
          readHere fuel indented true ending (text.length - (mark.drop ending.length).length)
        else refuse
      | [] => refuse
    | '<' :: more =>
      let inner := more.takeWhile (· != '>')
      advance (inner.length + 2)
      match inner with
      | '$' :: name => return .readLine (.named .scalar name)
      | inner =>
        if inner.all isNameChar then return .readLine (.text inner)
        let e ← readInterpolated fuel false inner
        return .builtin "glob" [e, .value (.ofNat (← newPlace))]
    | c :: cs =>
      if isBackquote c then
        let (_, inner) ← readDelimited
        return .command (← readInterpolated fuel false inner)
      else if c.isDigit || (c = '.' && cs.head?.any Char.isDigit) then readNumber
      else if isNameStart c then
        let e ← readNamed fuel
        skip
        match ← rest with
        | '-' :: '>' :: _ => readSelections fuel false false e
        | _ => return e
      else refuse
termination_by structural fuel => fuel

def readHere : (fuel : Nat) → (indented interpolates : Bool) → (ending : Octets) → (size : Nat) →
    Read Expr
  | 0, _, _, _, _ => refuse
  | fuel + 1, indented, interpolates, ending, size => do
    advance size
    let text ← rest
    let line := firstLine text
    let isThere := (lines (text.drop line.length)).any fun line =>
      let bare := withoutBreak line
      (if indented then bare.dropWhile isSpaceChar else bare) == ending
    if !isThere then
      failWith ("Can't find string terminator ".toList ++
        (if interpolates then '\x22' :: ending ++ ['\x22'] else '\x27' :: ending ++ ['\x27']) ++
        " anywhere before EOF".toList)
    let (body, after) := hereBody ending indented (text.drop line.length)
    setRest (line ++ after)
    let body := (if indented then unindented body else body).flatten
    if interpolates then readInterpolated fuel false body else return .text body
termination_by structural fuel => fuel

def readArguments : (fuel : Nat) → Read (List Expr)
  | 0 => refuse
  | fuel + 1 => do
    if ← accept "(" then readClosedList fuel
    else if ← atListEnd then return []
    else readCommas fuel
termination_by structural fuel => fuel

def readArgument : (fuel : Nat) → (name : String) → Read (List Expr)
  | 0, _ => refuse
  | fuel + 1, name => do
    if ← accept "(" then readClosedList fuel
    else if (← atListEnd) || ((name = "shift" || name = "pop") && (← sees "//")) || (← sees "<=") ||
      (← sees "< ") || (← sees "->") then return []
    else return [← readBinary fuel 15]
termination_by structural fuel => fuel

def readBlock : (fuel : Nat) → Read (List Statement)
  | 0 => refuse
  | fuel + 1 => do
    openBracket "\x7b"
    let declared := (← get).declared
    let package := (← get).package
    let statements ← readStatements fuel
    closeBracket "\x7d"
    modify fun r => { r with declared, package }
    return statements
termination_by structural fuel => fuel

def readPrint : (fuel : Nat) → (kind : String) → Read Expr
  | 0, _ => refuse
  | fuel + 1, kind => do
    let closed ← accept "("
    skip
    let text ← rest
    let functions := (← get).functions
    let braced ← match text with
      | '\x7b' :: more =>
        match delimited '\x7b' (more.length + 1) 0 more with
        | some (inner, _) => do
          let bare := inner.dropWhile isSpaceChar
          let e ← match bare with
            | '*' :: name => pure (.text (name.takeWhile isNameChar))
            | '$' :: _ => readInner fuel inner
            | name => pure (.text (name.takeWhile isNameChar))
          pure (some (e, inner.length + 2))
        | none => pure none
      | _ => pure none
    let handle : Option (Expr × Nat) := if braced.isSome then braced else match text with
      | '$' :: more =>
        let name := wordAhead more
        let after := more.drop name.length
        let blank := after.takeWhile (· == ' ')
        match after.drop blank.length with
        | c :: d :: _ =>
          if !name.isEmpty && !blank.isEmpty &&
            (c = '\x22' || c = '\x27' || c = '$' || c = '@' ||
              (isNameStart c && !isOperatorWord (after.drop blank.length)) ||
              (c = '<' && d = '<')) then
            some (.named .scalar name, 1 + name.length)
          else none
        | _ => none
      | text =>
        let name := wordAhead text
        let after := text.drop name.length
        let next := (after.dropWhile isSpaceChar).head?.getD ';'
        let isHandle := !name.isEmpty && !name.contains ':' && !("__".toList.isPrefixOf name) &&
          (name.all (fun c => c.isUpper || c.isDigit || c == '_') || (!isKeyword name &&
            !isFunction name && "; \x22$@\x7d".toList.contains next))
        let isHandle := isHandle && !functions.contains name
        if isHandle && !"(,.-+=>:".toList.contains next then some (.text name, name.length)
        else none
    match handle with
    | some (_, size) => advance size
    | none => pure ()
    let arguments ← if closed then readClosedList fuel
      else if ← atListEnd then pure []
      else readCommas fuel
    return .print kind (handle.map (·.1)) arguments
termination_by structural fuel => fuel

def readApplied : (fuel : Nat) → (name : String) → Read Expr
  | 0, _ => refuse
  | fuel + 1, name => do
    let closed ← accept "("
    let ended (arguments : Read (List Expr)) : Read (List Expr) := do
      let es ← if ← atListEnd then pure [] else arguments
      if closed then expect ")"
      return es
    if ← sees "\x7b" then
      let body ← readBlock fuel
      let _ ← accept ","
      return .apply name (some body) (← ended (readCommas fuel))
    if name = "sort" then
      let text ← rest
      match text with
      | '$' :: more =>
        let w := wordAhead more
        let after := (more.drop w.length).dropWhile isSpaceChar
        if after.head? = some '@' || after.head? = some '(' then
          advance (1 + w.length)
          let es ← ended (readCommas fuel)
          return .apply name (some [.expression 0 (.invoke (.named .scalar w) [])]) es
      | text =>
        let w := wordAhead text
        let after := (text.drop w.length).dropWhile isSpaceChar
        let full ← functionName w
        if !w.isEmpty && !isKeyword w && !(",;)=-.".toList.contains (after.head?.getD ';')) then
          advance w.length
          let es ← ended (readCommas fuel)
          return .apply name (some [.expression 0 (.call full [])]) es
      return .apply name none (← ended (readCommas fuel))
    if name = "map" || name = "grep" then
      let line := (← get).line
      let first ← readAssignment fuel
      expect ","
      return .apply name (some [.expression line first]) (← ended (readCommas fuel))
    return .apply name none (← ended (readCommas fuel))
termination_by structural fuel => fuel

def readPatternText : (fuel : Nat) → Read (Char × Expr)
  | 0 => refuse
  | fuel + 1 => do
    let (c, inner) ← readDelimited
    if c = '\x27' then return (c, .text inner)
    return (c, ← readInterpolated fuel true inner)
termination_by structural fuel => fuel

def readQuoted : (fuel : Nat) → (name : String) → Read Expr
  | 0, _ => refuse
  | fuel + 1, name => do
    match name with
    | "q" => do
      let (c, inner) ← readDelimited
      return .text (plainQuoted c inner)
    | "qq" => do
      let (_, inner) ← readDelimited
      readInterpolated fuel false inner
    | "qw" => do
      let (_, inner) ← readDelimited
      let es : Expr := .list ((wordsOfText (inner.length + 1) inner).map .text)
      if ← sees "[" then return .pick es (← readIndex fuel)
      return es
    | "qx" => do
      let (_, inner) ← readDelimited
      return .command (← readInterpolated fuel false inner)
    | "qr" => do
      let (_, pattern) ← readPatternText fuel
      return .regex pattern (← checkedPattern pattern)
    | "m" => do
      let (_, pattern) ← readPatternText fuel
      return .find none false pattern (← checkedPattern pattern)
    | "s" => do
      let (c, pattern) ← readPatternText fuel
      let (d, replacement) ← readReplacement c
      let flags ← checkedPattern pattern
      let replacement ← if flags.contains 'e' then readInner fuel replacement
        else if d = '\x27' then pure (.text replacement)
        else readInterpolated fuel false replacement
      return .substitute none pattern replacement flags
    | _ => do
      let (c, source) ← readDelimited
      let (_, target) ← readReplacement c
      return .transliterate none source target (← readLetters)
termination_by structural fuel => fuel

def readNamed : (fuel : Nat) → Read Expr
  | 0 => refuse
  | fuel + 1 => do
    let text ← rest
    let w := wordAhead text
    let after := text.drop w.length
    let name := String.ofList w
    let quotes := quotingWords.contains name
    let next := after.head?.getD ' '
    if isArrowed after then
      advance w.length
      return .text w
    else if quotes && next != ',' && next != ';' && next != ')' &&
        !(isSpaceChar next &&
          ((after.dropWhile isSpaceChar).head?.any fun c => c == '=' || c == ',' || c == ';')) then
      advance w.length
      let e ← readQuoted fuel name
      mark text
      return e
    else
      advance w.length
      match name with
      | "my" | "state" => readOwn false
      | "our" => readOwn true
      | "local" => return .localized (← readUnary fuel)
      | "sub" => do
        skip
        if ← accept "(" then setRest (((← rest).dropWhile (· != ')')).drop 1)
        let package := (← get).package
        let body ← readBlock fuel
        readSelections fuel false false (.function package body)
      | "do" => do
        if ← sees "\x7b" then return .block (← readBlock fuel)
        return .builtin "do" (← readArgument fuel name)
      | "eval" => do
        if ← sees "\x7b" then return .attempt (← readBlock fuel)
        let es ← readArgument fuel name
        return .builtin "eval" (if es.isEmpty then [.topic] else es)
      | "print" | "say" | "printf" => readPrint fuel name
      | "__FILE__" => return .text (← get).file
      | "__LINE__" => return .value (.whole (← get).line)
      | "__PACKAGE__" => return .text (← get).package
      | "STDIN" | "STDOUT" | "STDERR" => return .value (.handle w)
      | name => do
        let full ← functionName w
        let isObject := "->".toList.isPrefixOf ((← rest).dropWhile isSpaceChar)
        let isKnown := (← get).functions.contains full && !isBuiltin w
        let isLater := (← get).defined.contains w && importedFunctions.contains name
        if isKnown && (← get).constants.contains full then
          if ← accept "(" then expect ")"
          return .call full []
        else if isKnown && !isObject then return .call full (← readArguments fuel)
        else if isLater && (← sees "(") then
          advance 1
          return .call full (← readClosedList fuel)
        else if isObject && !isBuiltin w then return .text w
        else if name = "JSON::PP::true" || name = "JSON::PP::false" then
          if ← accept "(" then expect ")"
          return .value (.truth (name = "JSON::PP::true"))
        else
          let bare := (w.reverse.takeWhile (· != ':')).reverse
          let isLent := w.contains ':' && importedFunctions.contains (String.ofList bare) &&
            !((← get).defined.contains w)
          readWord fuel (if isLent then bare else w)
termination_by structural fuel => fuel

/-- Reads what begins with a word that is no function of the script. -/
def readWord : (fuel : Nat) → Octets → Read Expr
  | 0, _ => refuse
  | fuel + 1, w => do
    let name := String.ofList w
    let full ← functionName w
    if blockFunctions.contains name then readApplied fuel name
    else if closingWords.contains name then
      let label ← word
      if !label.isEmpty && !isOperatorWord label then
        advance label.length
        return .builtin name [.text label]
      if name = "goto" then
        match ← readUnary fuel with
        | .call f _ => return .builtin "return" [.call f [.named .list ['_']]]
        | .invoke code _ => return .builtin "return" [.invoke code [.named .list ['_']]]
        | e => return .builtin "return" [.invoke e [.named .list ['_']]]
      return .builtin name []
    else if topicFunctions.contains name then
      let es ← readArgument fuel name
      allowName name es
      let es := if es.isEmpty then [.topic] else es
      if name = "glob" then
        let es := match es with
          | [.list es] => es
          | es => es
        return .builtin name (es.take 1 ++ [.value (.ofNat (← newPlace))])
      return .builtin name es
    else if unaryFunctions.contains name then
      let es ← readArgument fuel name
      allowName name es
      return .builtin name es
    else if plainFunctions.contains name || importedConstants.contains name then
      if ← accept "(" then expect ")"
      return .builtin name []
    else if importedUnary.contains name then
      if (← atListEnd) && !(← sees "(") then return .text w
      return .builtin name (← readArgument fuel name)
    else if listFunctions.contains name || importedFunctions.contains name then
      let isReturn := name = "return"
      if isReturn && (← sees "(") then
        if ← atListEnd then return .builtin name []
        return .builtin name (← readCommas fuel)
      if importedFunctions.contains name && !(← sees "(") && (← atListEnd) then return .text w
      let es ← readArguments fuel
      allowName name es
      match name, es with
      | "bless", [.list [e]] => return .builtin name [e, .text (← get).package]
      | "bless", [.list es] => return .builtin name es
      | "bless", [e] => return .builtin name [e, .text (← get).package]
      | _, _ => return .builtin name es
    else if (← sees "(") then
      advance 1
      return .call full (← readClosedList fuel)
    else
      let after ← rest
      let next := wordAhead after
      let isClass := !next.isEmpty && !isKeyword next && !(← get).functions.contains next &&
        !isArrowed (after.drop next.length)
      let isVariable := after.head? = some '$' && (after.drop 1).head?.any isNameStart
      if isClass || isVariable then
        let object ← if isVariable then readVariable fuel false false
          else do
            advance next.length
            pure (.text next)
        let package := (← get).package
        let arguments ← if ← accept "(" then readClosedList fuel
          else if ← atListEnd then pure []
          else readCommas fuel
        return .method object (.text w) package arguments
      if "::".toList.isPrefixOf after then advance 2 else noteWord w
      return .text w
termination_by structural fuel => fuel

def readStatements : (fuel : Nat) → Read (List Statement)
  | 0 => refuse
  | fuel + 1 => do
    skip
    match ← rest with
    | [] | '\x7d' :: _ => return []
    | ';' :: _ => do
      advance 1
      readStatements fuel
    | _ => do
      let statements ← tryCatch (readStatement fuel) fun problem => do
        passMistake problem
        return []
      return statements ++ (← readStatements fuel)
termination_by structural fuel => fuel

def readCondition : (fuel : Nat) → Read Expr
  | 0 => refuse
  | fuel + 1 => do
    expect "("
    let e ← readFull fuel
    expect ")"
    return e
termination_by structural fuel => fuel

def readOtherwise : (fuel : Nat) → Read (List Statement)
  | 0 => refuse
  | fuel + 1 => do
    if ← acceptWord "elsif" then
      let line := (← get).line
      let condition ← readCondition fuel
      let accepted ← readBlock fuel
      return [.choose line condition accepted (← readOtherwise fuel)]
    else if ← acceptWord "else" then readBlock fuel
    else return []
termination_by structural fuel => fuel

def readLoop : (fuel : Nat) → (label : Octets) → (name : String) → Read (List Statement)
  | 0, _, _ => refuse
  | fuel + 1, label, name => do
    let isWhile := name = "while" || name = "until"
    if isWhile then
      expect "("
      let condition ← if ← sees ")" then pure none else some <$> readFull fuel
      expect ")"
      let condition := if name = "until" then condition.map .not else condition
      let body ← readBlock fuel
      let between ← if ← acceptWord "continue" then some <$> (.block <$> readBlock fuel)
        else pure none
      return [.loop label true (condition.map whileCondition) between body]
    let declared := (← get).declared
    let isNew := (← acceptWord "my") || (← acceptWord "our") || (← acceptWord "state")
    let name? ← if ← sees "$" then do
        advance 1
        let w := wordAhead (← rest)
        advance w.length
        pure (some w)
      else pure none
    match name? with
    | some w => do
      if isNew then declare .scalar w
      let w := match ← known .scalar w with
        | .named _ full => full
        | _ => w
      expect "("
      let values ← readClosedList fuel
      let body ← readBlock fuel
      modify fun r => { r with declared }
      return [.each label isNew w (.list values) body]
    | none => do
      expect "("
      let first ← if ← sees ";" then pure none
        else if ← sees ")" then pure (some (.list []))
        else some <$> readFull fuel
      if ← accept ";" then
        let condition ← if ← sees ";" then pure none else some <$> readFull fuel
        expect ";"
        let between ← if ← sees ")" then pure none else some <$> readFull fuel
        expect ")"
        let line := (← get).line
        let body ← readBlock fuel
        modify fun r => { r with declared }
        let start := match first with
          | some e => [Statement.expression line e]
          | none => []
        return [.block [] (start ++ [.loop label true condition between body])]
      expect ")"
      let body ← readBlock fuel
      return [.each label false ['_'] (first.getD (.list [])) body]
termination_by structural fuel => fuel

def readModifier : (fuel : Nat) → (line : Nat) → Expr → Read (List Statement)
  | 0, _, _ => refuse
  | fuel + 1, line, e => do
    let w := String.ofList (← word)
    let once := [Statement.expression line e]
    let tested (condition : Expr) : List Statement :=
      match e with
      | .block body => [.loop [] false (some condition) none body]
      | _ => [.loop [] true (some condition) none once]
    let result ← match w with
      | "if" => do
        advance 2
        let condition ← readFull fuel
        pure [Statement.choose line condition once []]
      | "unless" => do
        advance 6
        let condition ← readFull fuel
        pure [Statement.choose line (.not condition) once []]
      | "while" => do
        advance 5
        let condition ← readFull fuel
        pure (tested (whileCondition condition))
      | "until" => do
        advance 5
        let condition ← readFull fuel
        pure (tested (.not condition))
      | "for" | "foreach" => do
        advance w.length
        let values ← readFull fuel
        pure [Statement.each [] false ['_'] values once]
      | _ => pure once
    endStatement
    return result
termination_by structural fuel => fuel

def readStatement : (fuel : Nat) → Read (List Statement)
  | 0 => refuse
  | fuel + 1 => do
    skip
    let r ← get
    let line := r.line
    let w := wordAhead r.text
    let after := (r.text.drop w.length).dropWhile isSpaceChar
    if isLabel w after then
      skip
      setRest (after.drop 1)
      skip
      let inner := wordAhead (← rest)
      let name := String.ofList inner
      if ["while", "until", "for", "foreach"].contains name then
        advance inner.length
        readLoop fuel w name
      else if ← sees "\x7b" then return [.block w (← readBlock fuel)]
      else readStatement fuel
    else
      match String.ofList w with
      | "else" | "elsif" => refuse
      | "elseif" => do
        complain ("elseif should be elsif".toList ++ (← position) ++ ".\n".toList)
        readPlain fuel line
      | "if" | "unless" => do
        advance w.length
        let condition ← readCondition fuel
        let accepted ← readBlock fuel
        let refused ← readOtherwise fuel
        let condition := if w = "unless".toList then .not condition else condition
        return [.choose line condition accepted refused]
      | "while" | "until" | "for" | "foreach" => do
        if isArrowed (r.text.drop w.length) then refuse
        advance w.length
        readLoop fuel [] (String.ofList w)
      | "package" => do
        advance w.length
        let name ← word
        if name.isEmpty then refuse
        advance name.length
        skip
        let version := (← rest).takeWhile fun c => isNameChar c || c == '.'
        advance version.length
        let begun := Statement.expression line (.builtin "package" [.text name])
        if ← sees "\x7b" then
          let before := (← get).package
          modify fun r => { r with package := name }
          let body ← readBlock fuel
          modify fun r => { r with package := before }
          return [.block [] (begun :: body)]
        modify fun r => { r with package := name }
        endStatement
        return [begun]
      | "use" | "no" => do
        advance w.length
        let module ← word
        match String.ofList module with
        | "constant" => do
          advance module.length
          readConstants fuel line
        | "parent" | "base" | "overload" => do
          advance module.length
          let es ← if ← atListEnd then pure [] else readCommas fuel
          endStatement
          let package := (← get).package
          let own : Expr := .named .list (package ++ "::ISA".toList)
          let e : Expr := if module = "overload".toList then
              .builtin "overload" (.text package :: es)
            else .builtin "push" (own :: [.builtin "withoutOptions" es])
          return [.define "BEGIN".toList [.expression line e]]
        | _ => do
          advance module.length
          if module = "strict".toList || module.head? = some 'v' then
            modify fun r => { r with isStrict := w = "use".toList }
          let isStrict := module = "strict".toList || module.head? = some 'v'
          if module.isEmpty || isStrict || w = "no".toList then
            let words := (← rest).takeWhile (· != ';')
            advance words.length
            endStatement
            if !isStrict then return []
            let on : Scalar := .ofBool (w = "use".toList)
            return [.expression line (.builtin "strict" [.value on])]
          let version := (← rest).dropWhile isSpaceChar
          if version.head?.any Char.isDigit then
            skip
            advance (version.takeWhile fun c => c.isDigit || c == '.').length
          let es ← if ← atListEnd then pure [] else readCommas fuel
          endStatement
          let package := (← get).package
          -- a module is there for all that is read behind this statement
          let e : Expr := .builtin "use" (.text module :: .text package :: es)
          return [.define "BEGIN".toList [.expression line e]]
      | "BEGIN" | "END" =>
        if after.head? = some '\x7b' then
          advance w.length
          let body ← readBlock fuel
          return [.define w body]
        else readPlain fuel line
      | "sub" =>
        let name := wordAhead after
        if name.isEmpty then readPlain fuel line
        else
          skip
          setRest (after.drop name.length)
          let name ← functionName name
          -- known before the body is read, which may call it without brackets
          modify fun r => { r with functions := name :: r.functions }
          let declared := (← get).declared
          let parameters ← if ← accept "(" then readSignature else pure []
          let body ← readBlock fuel
          modify fun r => { r with declared }
          return [.define name (parameters ++ body)]
      | "return" | _ =>
        if r.text.head? = some '\x7b' && !opensTable r.text then
          return [.block [] (← readBlock fuel)]
        else readPlain fuel line
termination_by structural fuel => fuel

def readConstants : (fuel : Nat) → (line : Nat) → Read (List Statement)
  | 0, _ => refuse
  | fuel + 1, line => do
    let constant (name : Octets) (es : List Expr) : Read Statement := do
      let full ← functionName name
      modify fun r => { r with
        functions := full :: r.functions, constants := full :: r.constants }
      return .define full [.expression line (.list es)]
    let pair (es : List Expr) (i : Nat) : Option (Octets × Expr) :=
      match es[2 * i]?, es[2 * i + 1]? with
      | some (.value key), some e => some (key.toText, e)
      | _, _ => none
    let pairs (es : List Expr) : List (Octets × Expr) :=
      (List.range (es.length / 2)).filterMap (pair es)
    let es ← if ← atListEnd then pure [] else readCommas fuel
    endStatement
    let es := match es with
      | [.list es] => es
      | es => es
    match es with
    | [.tableMaker [.list es]] | [.tableMaker es] =>
      (pairs es).mapM fun (name, e) => constant name [e]
    | .value name :: es => return [← constant name.toText es]
    | _ => return []
termination_by structural fuel => fuel

def readPlain : (fuel : Nat) → (line : Nat) → Read (List Statement)
  | 0, _ => refuse
  | fuel + 1, line => do
    let e ← readFull fuel
    readModifier fuel line e
termination_by structural fuel => fuel

end

def definedNames : (fuel : Nat) → Octets → List Octets
  | 0, _ => []
  | fuel + 1, cs =>
    match cs with
    | [] => []
    | 's' :: 'u' :: 'b' :: ' ' :: rest =>
      let name := wordAhead (rest.dropWhile isSpaceChar)
      if name.isEmpty then definedNames fuel rest else name :: definedNames fuel rest
    | _ :: rest => definedNames fuel rest

def isScriptEnd (line : Octets) : Bool :=
  ["__END__", "__DATA__"].contains (String.ofList (withoutBreak line))

def scriptText (text : Octets) : Octets :=
  ((lines text).takeWhile fun line => !isScriptEnd line).flatten

def dataText? (text : Octets) : Option Octets :=
  match (lines text).dropWhile fun line => !isScriptEnd line with
  | [] => none
  | _ :: rest => some rest.flatten

def readAllStatements : (fuel : Nat) → Read (List Statement)
  | 0 => refuse
  | fuel + 1 => do
    let statements ← readStatements (40 * (← rest).length + 400)
    skip
    if (← rest).isEmpty then return statements
    tryCatch refuse passMistake
    advance 1
    return statements ++ (← readAllStatements fuel)

def readScript (r : Reading) : Except Unreadable (List Statement) × Octets :=
  let text := scriptText r.text
  let r := { r with text, defined := definedNames (text.length + 1) text }
  let (result, last) := (readAllStatements (text.length + 1)).run.run r
  let told := match result with
    | .ok statements =>
      let problems := last.problems ++ wordMessages last
      if problems.isEmpty then .ok statements else .error (.mistakes problems)
    | .error (.fatal text) => .error (.fatal (last.problems ++ text))
    | .error (.mistakes text) => .error (.mistakes (last.problems ++ text))
  (told, last.cautions)

end NextRelease.Shell.Perl
