import NextRelease.Shell.Awk.Regular
import NextRelease.Shell.Awk.Basic

/-!
Reading programs. Operators bind in levels; what stands side by side is joined. Whether a parameter
or a variable holds a table is told by how it is used, in the end also by the functions that it is
handed to.
-/

namespace NextRelease.Shell.Awk

inductive Use where
  | unknown
  | value
  | table
  deriving DecidableEq, Inhabited

inductive Part where
  | rule
  | frame
  | function
  deriving DecidableEq

structure Draft where
  name : Octets
  parameters : List (Octets × Use) := []
  body : Option Statement := none

structure Handing where
  caller : Option Nat
  callee : Nat
  arguments : List (Option Symbol)

structure Reading where
  tokens : List Lexeme
  names : Array (Octets × Use)
  functions : Array Draft := #[]
  inside : Option Nat := none
  handings : List Handing := []
  isPrinting : Bool := false
  parentheses : Nat := 0
  braces : Nat := 0
  loops : Nat := 0
  part : Part := .rule
  ranges : Nat := 0

abbrev Read := StateT Reading (Except (List Octets))

def atLine (line : Nat) (text : Octets) : Octets :=
  "line ".toList ++ natText line ++ ": ".toList ++ text

namespace Read

def head : Read Lexeme := return (← get).tokens.head?.getD ⟨.ending, 1, []⟩

def sign : Read String := do
  match (← head).token with
  | .sign s => return s
  | _ => return ""

def keyword : Read String := do
  match (← head).token with
  | .keyword s => return s
  | _ => return ""

def advance : Read Unit := modify fun r =>
  let r := match r.tokens.head?.map Lexeme.token with
    | some (.sign "(") => { r with parentheses := r.parentheses + 1 }
    | some (.sign ")") => { r with parentheses := r.parentheses - 1 }
    | some (.sign "\x7b") => { r with braces := r.braces + 1 }
    | some (.sign "\x7d") => { r with braces := r.braces - 1 }
    | _ => r
  if r.tokens.length ≤ 1 then r else { r with tokens := r.tokens.drop 1 }

def openBraces (depth : Int) (tokens : List Lexeme) : Int :=
  tokens.foldl
    (fun depth t => match t.token with
      | .sign "\x7b" => depth + 1
      | .sign "\x7d" => depth - 1
      | _ => depth)
    depth

def refuseWith {α : Type} (text : Octets) : Read α := do
  throw [atLine (← head).line text]

def refuse {α : Type} : Read α := do
  let r ← get
  let t ← head
  let nearby (t : Lexeme) : Octets := "syntax error at or near ".toList ++ t.shown
  let missing (c : Char) : Octets := "missing ".toList ++ [c] ++ " near ".toList ++ t.shown
  let lastLine := (r.tokens.getLast?.map Lexeme.line).getD 1
  match t.token with
  | .fault [c] =>
    throw [natText t.line ++ ": unexpected character '".toList ++ [c, '\x27']]
  | .fault text => throw [atLine t.line text]
  | .ending => refuseWith (if r.braces = 0 then nearby t else missing '\x7d')
  | .sign ")" => refuseWith (if r.parentheses = 0 then "extra ')'".toList else nearby t)
  | token =>
    let ends := match token with
      | .newline | .sign ";" | .sign "\x7d" => true
      | _ => false
    if ends && r.parentheses != 0 then
      let more := if 0 < openBraces r.braces r.tokens then
        [atLine lastLine ("missing \x7d near end of file".toList)] else []
      throw (atLine t.line (missing ')') :: more)
    else
      match token with
      | .sign "\x7d" =>
        if r.braces = 0 then
          let next := (r.tokens.drop 1).head?.getD t
          throw [atLine t.line "extra '\x7d'".toList, atLine next.line (nearby next)]
        else refuseWith (nearby t)
      | _ => refuseWith (nearby t)

def expect (s : String) : Read Unit := do
  if (← sign) = s then advance else refuse

def skipNewlines : Read Unit := modify fun r =>
  { r with tokens := r.tokens.dropWhile fun t => match t.token with
      | .newline => true
      | _ => false }

def use (name : Octets) (how : Use) : Read Symbol := do
  let r ← get
  let clash (kind : String) : Read Unit :=
    refuseWith (("illegal reference to " ++ kind).toList ++ name)
  let own := match r.inside with
    | some index => (r.functions[index]?.map Draft.parameters).getD []
    | none => []
  match own.findIdx? (·.1 == name), r.inside with
  | some index, some function =>
    let old := (own[index]?.map (·.2)).getD .unknown
    if old = .table ∧ how = .value then clash "local array "
    if old = .value ∧ how = .table then clash "local variable "
    if how != .unknown then
      let parameters := own.map fun entry => if entry.1 = name then (name, how) else entry
      modify fun r => { r with
        functions := r.functions.modify function fun d => { d with parameters } }
    return .parameter index
  | _, _ =>
    match r.names.findIdx? (·.1 == name) with
    | some index =>
      let old := (r.names[index]?.map (·.2)).getD .unknown
      if old = .table ∧ how = .value then clash "array "
      if old = .value ∧ how = .table then clash "variable "
      if how != .unknown then
        modify fun r => { r with names := r.names.modify index fun entry => (entry.1, how) }
      return .shared index
    | none =>
      set { r with names := r.names.push (name, how) }
      return .shared r.names.size

def functionNumber (name : Octets) : Read Nat := do
  let r ← get
  match r.functions.findIdx? (·.name == name) with
  | some index => return index
  | none =>
    set { r with functions := r.functions.push { name } }
    return r.functions.size

def tableName : Read Symbol := do
  match (← head).token with
  | .name name => do
    let symbol ← use name .table
    advance
    return symbol
  | _ => refuse

def enclosed {α : Type} (act : Read α) : Read α := do
  let before := (← get).isPrinting
  modify fun r => { r with isPrinting := false }
  let result ← act
  modify fun r => { r with isPrinting := before }
  return result

def checkRegex (text : Octets) : Read Unit := do
  match readRegex text with
  | .ok _ => pure ()
  | .error reason =>
    refuseWith ("regular expression compile failed (".toList ++ reason.toList ++ ")\n".toList ++
      text)

def checkPattern : Expr → Read Unit
  | .text s => checkRegex s
  | _ => pure ()

end Read

open Read

/-! ## Expressions -/

def operatorAt? (level : Nat) (printing : Bool) : Token → Option (Expr → Expr → Expr)
  | .sign s =>
    match level, s with
    | 1, "||" => some .either
    | 2, "&&" => some .both
    | 4, "~" => some (.matches false)
    | 4, "!~" => some (.matches true)
    | 5, "==" => some (.compare .equal)
    | 5, "!=" => some (.compare .different)
    | 5, "<" => some (.compare .less)
    | 5, "<=" => some (.compare .atMost)
    | 5, ">=" => some (.compare .atLeast)
    | 5, ">" => if printing then none else some (.compare .greater)
    | 7, "+" => some (.arithmetic .add)
    | 7, "-" => some (.arithmetic .subtract)
    | 8, "*" => some (.arithmetic .multiply)
    | 8, "/" => some (.arithmetic .divide)
    | 8, "%" => some (.arithmetic .remainder)
    | _, _ => none
  | _ => none

def assignmentOf? : String → Option (Expr → Expr → Expr)
  | "=" => some .assign
  | "+=" => some (.update .add)
  | "-=" => some (.update .subtract)
  | "*=" => some (.update .multiply)
  | "/=" => some (.update .divide)
  | "%=" => some (.update .remainder)
  | "^=" => some (.update .power)
  | _ => none

def beginsOperand : Token → Bool
  | .number _ | .text _ | .regex _ | .name _ | .callName _ | .builtin _ => true
  | .keyword s => s == "getline"
  | .sign s => ["$", "!", "(", "++", "--", "-", "+"].contains s
  | _ => false

/-- The functions of values with the least and the greatest number of their arguments. -/
def builtinOf? : String → Option (Builtin × Nat × Nat)
  | "index" => some (.index, 2, 2)
  | "substr" => some (.substr, 2, 3)
  | "sprintf" => some (.sprintf, 1, 255)
  | "sin" => some (.sin, 1, 1)
  | "cos" => some (.cos, 1, 1)
  | "atan2" => some (.atan2, 2, 2)
  | "exp" => some (.exp, 1, 1)
  | "log" => some (.log, 1, 1)
  | "int" => some (.int, 1, 1)
  | "sqrt" => some (.sqrt, 1, 1)
  | "rand" => some (.rand, 0, 0)
  | "srand" => some (.srand, 0, 1)
  | "close" => some (.close, 1, 1)
  | "system" => some (.system, 1, 1)
  | "toupper" => some (.toupper, 1, 1)
  | "tolower" => some (.tolower, 1, 1)
  | "fflush" => some (.fflush, 0, 1)
  | "systime" => some (.systime, 0, 0)
  | "mktime" => some (.mktime, 1, 1)
  | "strftime" => some (.strftime, 0, 3)
  | _ => none

mutual

/-- Reads an expression of a level: from choices (0) over disjunctions, conjunctions, membership,
matches, comparisons, what is joined, sums, products, signs, readings from commands and powers to
operands that are counted up or down (12). -/
def readLevel : (fuel : Nat) → (level : Nat) → Read Expr
  | 0, _ => refuse
  | fuel + 1, level => do
    match level with
    | 0 => do
      let condition ← readLevel fuel 1
      if (← sign) != "?" then return condition
      advance
      skipNewlines
      let accepted ← readLevel fuel 0
      skipNewlines
      expect ":"
      skipNewlines
      return .choose condition accepted (← readLevel fuel 0)
    | 6 => do
      let first ← readLevel fuel 7
      match assignmentOf? (← sign) with
      | some build =>
        if first.isAssignable then
          advance
          return build first (← readLevel fuel 0)
        else return first
      | none => readJoined fuel first
    | 9 => do
      match ← sign with
      | "!" => do
        advance
        return .not (← readLevel fuel 9)
      | "-" => do
        advance
        return .negate (← readLevel fuel 9)
      | "+" => do
        advance
        return .plus (← readLevel fuel 9)
      | _ => readLevel fuel 10
    | 10 => do
      let first ← readLevel fuel 11
      readPiped fuel first
    | 11 => do
      let base ← readLevel fuel 12
      if (← sign) != "^" then return base
      advance
      let isSigned := ["!", "-", "+"].contains (← sign)
      return .arithmetic .power base (← readLevel fuel (if isSigned then 9 else 11))
    | 12 => do
      let e ← readOperand fuel
      if !e.isAssignable then return e
      match ← sign with
      | "++" => do
        advance
        return .step true true e
      | "--" => do
        advance
        return .step false true e
      | _ => return e
    | level => do
      let first ← readLevel fuel (level + 1)
      readMore fuel level first
termination_by structural fuel => fuel

def readMore : (fuel : Nat) → (level : Nat) → Expr → Read Expr
  | 0, _, _ => refuse
  | fuel + 1, level, left => do
    let t ← head
    let r ← get
    match operatorAt? level r.isPrinting t.token with
    | some build => do
      advance
      if level ≤ 2 then skipNewlines
      let right ← readLevel fuel (level + 1)
      if level = 4 then checkPattern right
      readMore fuel level (build left right)
    | none =>
      if level = 3 && (← keyword) = "in" then
        advance
        readMore fuel level (.contains (← tableName) [left])
      else return left
termination_by structural fuel => fuel

def readJoined : (fuel : Nat) → Expr → Read Expr
  | 0, _ => refuse
  | fuel + 1, left => do
    if beginsOperand (← head).token then readJoined fuel (.join left (← readLevel fuel 7))
    else return left
termination_by structural fuel => fuel

def readPiped : (fuel : Nat) → Expr → Read Expr
  | 0, _ => refuse
  | fuel + 1, left => do
    if (← sign) != "|" || (← get).isPrinting then return left
    advance
    if (← keyword) != "getline" then refuse
    advance
    readPiped fuel (.getline .command left (← readTarget fuel))
termination_by structural fuel => fuel

def readTarget : (fuel : Nat) → Read (Option Expr)
  | 0 => refuse
  | fuel + 1 => do
    match (← head).token with
    | .name _ | .sign "$" => return some (← readOperand fuel)
    | _ => return none
termination_by structural fuel => fuel

def readFieldNumber : (fuel : Nat) → Read Expr
  | 0 => refuse
  | fuel + 1 => do
    match ← sign with
    | "-" => do
      advance
      return .negate (← readFieldNumber fuel)
    | "+" => do
      advance
      return .plus (← readFieldNumber fuel)
    | "!" => do
      advance
      return .not (← readFieldNumber fuel)
    | _ => readOperand fuel
termination_by structural fuel => fuel

def readList : (fuel : Nat) → Read (List Expr)
  | 0 => refuse
  | fuel + 1 => do
    let e ← readLevel fuel 0
    if (← sign) != "," then return [e]
    advance
    skipNewlines
    return e :: (← readList fuel)
termination_by structural fuel => fuel

def readArguments : (fuel : Nat) → Read (List Expr)
  | 0 => refuse
  | fuel + 1 => do
    expect "("
    if (← sign) = ")" then
      advance
      return []
    let es ← enclosed (readList fuel)
    expect ")"
    return es
termination_by structural fuel => fuel

def readBuiltin : (fuel : Nat) → (name : String) → Read Expr
  | 0, _ => refuse
  | fuel + 1, name => do
    let wrong {α : Type} : Read α :=
      refuseWith (("wrong number of arguments in call to " ++ name).toList)
    match name with
    | "length" => do
      if (← sign) != "(" then return .builtin .length [.field (.number 0)]
      advance
      match (← head).token, ((← get).tokens.drop 1).head?.map Lexeme.token with
      | .sign ")", _ => do
        advance
        return .builtin .length [.field (.number 0)]
      | .name subject, some (.sign ")") => do
        let symbol ← use subject .unknown
        advance
        advance
        return .builtin .length [.named symbol]
      | _, _ => do
        let e ← enclosed (readLevel fuel 0)
        expect ")"
        return .builtin .length [e]
    | "split" => do
      expect "("
      let subject ← enclosed (readLevel fuel 0)
      if (← sign) != "," then wrong
      advance
      skipNewlines
      let table ← tableName
      if (← sign) = "," then
        advance
        skipNewlines
        let separator ← enclosed (readLevel fuel 0)
        expect ")"
        return .split subject table (some separator)
      expect ")"
      return .split subject table none
    | _ => do
      let arguments ← readArguments fuel
      if name = "sub" || name = "gsub" then arguments.head?.forM checkPattern
      match builtinOf? name, name, arguments with
      | some (f, least, most), _, arguments => do
        if arguments.length < least || most < arguments.length then wrong
        return .builtin f arguments
      | none, "match", [subject, pattern] => do
        checkPattern pattern
        return .find subject pattern
      | none, "sub", [pattern, text] =>
        return .substitute false pattern text (.field (.number 0))
      | none, "gsub", [pattern, text] => return .substitute true pattern text (.field (.number 0))
      | none, "sub", [pattern, text, target] => do
        if !target.isAssignable then refuse
        return .substitute false pattern text target
      | none, "gsub", [pattern, text, target] => do
        if !target.isAssignable then refuse
        return .substitute true pattern text target
      | _, _, _ => wrong
termination_by structural fuel => fuel

/-- Reads an operand without what may stand behind it. -/
def readOperand : (fuel : Nat) → Read Expr
  | 0 => refuse
  | fuel + 1 => do
    let t ← head
    match t.token with
    | .number x => do
      advance
      return .number x
    | .text s => do
      advance
      return .text s
    | .regex s => do
      checkRegex s
      advance
      return .regex s
    | .name name => do
      advance
      if (← sign) = "[" then
        let table ← use name .table
        advance
        let subscripts ← enclosed (readList fuel)
        expect "]"
        return .element table subscripts
      let mayBeHanded := [",", ")"].contains (← sign)
      return .named (← use name (if mayBeHanded then .unknown else .value))
    | .callName name => do
      let number ← functionNumber name
      advance
      let arguments ← readArguments fuel
      modify fun r => { r with
        handings := ⟨r.inside, number, arguments.map fun e => match e with
          | .named symbol => some symbol
          | _ => none⟩ :: r.handings }
      return .call number arguments
    | .builtin name => do
      advance
      readBuiltin fuel name
    | .keyword "getline" => do
      advance
      let target ← readTarget fuel
      if (← sign) = "<" then
        advance
        return .getline .file (← readLevel fuel 11) target
      return .getline .input (.number 0) target
    | .sign "$" => do
      advance
      return .field (← readFieldNumber fuel)
    | .sign "++" => do
      advance
      let e ← readOperand fuel
      if e.isAssignable then return .step true false e else refuse
    | .sign "--" => do
      advance
      let e ← readOperand fuel
      if e.isAssignable then return .step false false e else refuse
    | .sign "(" => do
      advance
      let es ← enclosed (readList fuel)
      expect ")"
      match es with
      | [e] => return .group e
      | es => do
        if (← keyword) != "in" then refuse
        advance
        return .contains (← tableName) es
    | _ => refuse
termination_by structural fuel => fuel

end

/-! ## Statements -/

def endStatement : Read Unit := do
  match (← head).token with
  | .sign ";" | .newline => do
    advance
    skipNewlines
  | .sign "\x7d" => pure ()
  | _ => refuse

def readPrinted (fuel : Nat) : Read (List Expr) := do
  match (← head).token with
  | .sign ";" | .newline | .sign "\x7d" | .sign ">" | .sign ">>" | .sign "|" | .ending => return []
  | .sign "(" => do
    let before ← get
    advance
    let es ← enclosed (readList fuel)
    expect ")"
    match (← head).token with
    | .sign ";" | .newline | .sign "\x7d" | .sign ">" | .sign ">>" | .sign "|" => return es
    | _ => do
      set before
      readList fuel
  | _ => readList fuel

def readDirection (fuel : Nat) : Read (Option (Target × Expr)) := do
  let direction (target : Target) : Read (Option (Target × Expr)) := do
    advance
    return some (target, ← enclosed (readLevel fuel 0))
  match ← sign with
  | ">" => direction .file
  | ">>" => direction .appended
  | "|" => direction .command
  | _ => return none

def readPrint (fuel : Nat) (formatted : Bool) : Read Statement := do
  advance
  modify fun r => { r with isPrinting := true }
  let arguments ← readPrinted fuel
  if formatted && arguments.isEmpty then refuseWith "no arguments in call to printf".toList
  let target ← readDirection fuel
  modify fun r => { r with isPrinting := false }
  endStatement
  return .print formatted arguments target

def atEndOfStatement : Read Bool := do
  match (← head).token with
  | .sign ";" | .newline | .sign "\x7d" => return true
  | _ => return false

def readWord (statement : Statement) : Read Statement := do
  advance
  endStatement
  return statement

def readLoopWord (what : String) (statement : Statement) : Read Statement := do
  if (← get).loops = 0 then refuseWith (what ++ " statement outside of loop").toList
  readWord statement

def readNext (what : String) (statement : Statement) : Read Statement := do
  if (← get).part != .rule then refuseWith ("improper use of " ++ what).toList
  readWord statement

def readOptional (fuel : Nat) : Read (Option Expr) := do
  advance
  let e ← if ← atEndOfStatement then pure none else some <$> readLevel fuel 0
  endStatement
  return e

def readDelete (fuel : Nat) : Read Statement := do
  advance
  let table ← tableName
  if (← sign) = "[" then
    advance
    let subscripts ← enclosed (readList fuel)
    expect "]"
    endStatement
    return .delete table subscripts
  endStatement
  return .clear table

def readCondition (fuel : Nat) : Read Expr := do
  expect "("
  let e ← readLevel fuel 0
  expect ")"
  return e

def eachNames? (tokens : List Lexeme) : Option (Octets × Octets) :=
  match tokens.map Lexeme.token with
  | [.name key, .keyword "in", .name table, .sign ")"] => some (key, table)
  | _ => none

mutual

def readStatement : (fuel : Nat) → Read Statement
  | 0 => refuse
  | fuel + 1 => do
    let body : Read Statement := do
      skipNewlines
      modify fun r => { r with loops := r.loops + 1 }
      let s ← readStatement fuel
      modify fun r => { r with loops := r.loops - 1 }
      return s
    match (← head).token with
    | .sign "\x7b" => readBlock fuel
    | .sign ";" => do
      advance
      skipNewlines
      return .block []
    | .keyword "if" => do
      advance
      let condition ← readCondition fuel
      skipNewlines
      let accepted ← readStatement fuel
      skipNewlines
      if (← keyword) != "else" then return .choose condition accepted (.block [])
      advance
      skipNewlines
      return .choose condition accepted (← readStatement fuel)
    | .keyword "while" => do
      advance
      let condition ← readCondition fuel
      if (← sign) = ";" then
        advance
        skipNewlines
        return .loop true (some condition) none (.block [])
      return .loop true (some condition) none (← body)
    | .keyword "do" => do
      advance
      let s ← body
      skipNewlines
      if (← keyword) != "while" then refuse
      advance
      let condition ← readCondition fuel
      endStatement
      return .loop false (some condition) none s
    | .keyword "for" => do
      advance
      expect "("
      match eachNames? ((← get).tokens.take 4) with
      | some (key, table) => do
        let key ← use key .value
        let table ← use table .table
        advance
        advance
        advance
        advance
        return .each (.named key) table (← body)
      | none => do
        let first ← if (← sign) = ";" then pure none else some <$> readLevel fuel 0
        expect ";"
        skipNewlines
        let condition ← if (← sign) = ";" then pure none else some <$> readLevel fuel 0
        expect ";"
        skipNewlines
        let between ← if (← sign) = ")" then pure none else some <$> readLevel fuel 0
        expect ")"
        let s ← body
        let start := match first with
          | some e => [Statement.expression e]
          | none => []
        return .block (start ++ [.loop true condition between s])
    | .keyword "next" => readNext "next" .next
    | .keyword "nextfile" => readNext "nextfile" .nextFile
    | .keyword "break" => readLoopWord "break" .stop
    | .keyword "continue" => readLoopWord "continue" .goOn
    | .keyword "exit" => return .exit (← readOptional fuel)
    | .keyword "return" => do
      if (← get).part != .function then refuseWith "return outside function body".toList
      return .giveBack (← readOptional fuel)
    | .keyword "delete" => readDelete fuel
    | .keyword "print" => readPrint fuel false
    | .keyword "printf" => readPrint fuel true
    | _ => do
      let e ← readLevel fuel 0
      endStatement
      return .expression e
termination_by structural fuel => fuel

def readBlock : (fuel : Nat) → Read Statement
  | 0 => refuse
  | fuel + 1 => do
    expect "\x7b"
    skipNewlines
    return .block (← readStatements fuel)
termination_by structural fuel => fuel

def readStatements : (fuel : Nat) → Read (List Statement)
  | 0 => refuse
  | fuel + 1 => do
    skipNewlines
    if (← sign) = "\x7d" then
      advance
      return []
    let s ← readStatement fuel
    return s :: (← readStatements fuel)
termination_by structural fuel => fuel

end

/-! ## Programs -/

def readParameters : (fuel : Nat) → Read (List Octets)
  | 0 => refuse
  | fuel + 1 => do
    match (← head).token with
    | .name name => do
      advance
      if (← sign) = "," then
        advance
        skipNewlines
        return name :: (← readParameters fuel)
      return [name]
    | _ => refuse

def readFunction (fuel : Nat) : Read Unit := do
  advance
  let name ← match (← head).token with
    | .name name | .callName name => pure name
    | _ => refuse
  if (← get).names.any (·.1 == name) then
    refuseWith ("illegal reference to variable ".toList ++ name)
  let number ← functionNumber name
  if ((← get).functions[number]?.bind Draft.body).isSome then
    refuseWith ("redefinition of ".toList ++ name)
  advance
  expect "("
  let parameters ← if (← sign) = ")" then pure [] else readParameters fuel
  expect ")"
  skipNewlines
  modify fun r => { r with
    functions := r.functions.modify number fun d =>
      { d with parameters := parameters.map (·, .unknown), body := some (.block []) }
    inside := some number, part := .function }
  let body ← readBlock fuel
  modify fun r => { r with
    functions := r.functions.modify number fun d => { d with body := some body }
    inside := none, part := .rule }

def readFrame (fuel : Nat) (trigger : Trigger) : Read Rule := do
  advance
  modify fun r => { r with part := .frame }
  let body ← readBlock fuel
  modify fun r => { r with part := .rule }
  return { trigger, body := some body }

def readRuleBody (fuel : Nat) : Read (Option Statement) := do
  match (← head).token with
  | .sign "\x7b" => some <$> readBlock fuel
  | .sign ";" | .newline => do
    advance
    return none
  | .ending => return none
  | _ => refuse

def readRule (fuel : Nat) : Read Rule := do
  let condition ← readLevel fuel 0
  if (← sign) = "," then
    advance
    skipNewlines
    let last ← readLevel fuel 0
    let number := (← get).ranges
    modify fun r => { r with ranges := number + 1 }
    return { trigger := .range condition last number, body := ← readRuleBody fuel }
  return { trigger := .when condition, body := ← readRuleBody fuel }

def readRules : (fuel : Nat) → Read (List Rule)
  | 0 => refuse
  | fuel + 1 => do
    let t ← head
    match t.token with
    | .newline | .sign ";" => do
      advance
      readRules fuel
    | .ending => return []
    | .keyword "function" => do
      readFunction fuel
      readRules fuel
    | .keyword "BEGIN" => do
      let rule ← readFrame fuel .first
      return rule :: (← readRules fuel)
    | .keyword "END" => do
      let rule ← readFrame fuel .last
      return rule :: (← readRules fuel)
    | .sign "\x7b" => do
      let body ← readBlock fuel
      return { trigger := .always, body := some body } :: (← readRules fuel)
    | _ => do
      let rule ← readRule fuel
      return rule :: (← readRules fuel)

def spreadTables (r : Reading) : Reading :=
  r.handings.foldl
    (fun r handing =>
      let parameters := (r.functions[handing.callee]?.map Draft.parameters).getD []
      (handing.arguments.zip parameters).foldl
        (fun r (symbol, parameter) =>
          if parameter.2 != .table then r
          else
            match symbol, handing.caller with
            | some (.shared index), _ =>
              { r with names := r.names.modify index fun entry => (entry.1, .table) }
            | some (.parameter index), some caller =>
              { r with functions := r.functions.modify caller fun d =>
                { d with parameters := d.parameters.modify index fun entry => (entry.1, .table) } }
            | _, _ => r)
        r)
    r

/-- Reads a program, of which only the names of some variables are known before. -/
def readProgram (text : Octets) (assigned : List Octets) : Except (List Octets) Program := do
  let text := if text.getLast? = some '\n' then text else text ++ ['\n']
  let tokens := tokens (text.length + 1) 1 .newline text
  let tables := ["ARGV", "ENVIRON"]
  let names := (knownNames.map fun name =>
    (name.toList, if tables.contains name then Use.table else .value)).toArray
  let extra := (assigned.filter fun name => !knownNames.contains (String.ofList name)).eraseDups
  let start : Reading := { tokens, names := names ++ (extra.map (·, Use.value)).toArray }
  let (rules, r) ← (readRules (32 * tokens.length + 64)).run start
  let undefined := r.functions.toList.filter fun d => d.body.isNone
  if !undefined.isEmpty then
    let line := (tokens.getLast?.map Lexeme.line).getD 1
    throw (undefined.reverse.map fun d =>
      atLine line ("function ".toList ++ d.name ++ " never defined".toList))
  let r := Nat.repeat spreadTables (r.functions.size + r.handings.length) r
  return {
    rules
    functions := r.functions.map fun d =>
      { name := d.name, parameters := d.parameters.map (·.2 == .table)
        body := d.body.getD (.block []) }
    names := r.names.map fun entry => (entry.1, entry.2 == .table)
    ranges := r.ranges }

end NextRelease.Shell.Awk
