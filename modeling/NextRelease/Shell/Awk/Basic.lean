import NextRelease.Number.Binary64
import NextRelease.Shell.Format
import NextRelease.Shell.Octets

/-!
Programs that work through records: rules, each with what triggers it, and functions. Names are
resolved already: a name stands for a variable of the program or for a parameter of the function
that it stands in, and holds either one value or a table.
-/

namespace NextRelease.Shell.Awk

inductive Symbol where
  | shared (index : Nat)
  | parameter (index : Nat)
  deriving DecidableEq

inductive Arithmetic where
  | add
  | subtract
  | multiply
  | divide
  | remainder
  | power
  deriving DecidableEq

inductive Comparison where
  | less
  | atMost
  | equal
  | different
  | atLeast
  | greater
  deriving DecidableEq

/-- The functions that only look at the values of their arguments. -/
inductive Builtin where
  | length
  | index
  | substr
  | sprintf
  | sin
  | cos
  | atan2
  | exp
  | log
  | int
  | sqrt
  | rand
  | srand
  | close
  | system
  | toupper
  | tolower
  | fflush
  | systime
  | mktime
  | strftime
  deriving DecidableEq

inductive Source where
  | input
  | file
  | command
  deriving DecidableEq

inductive Target where
  | file
  | appended
  | command
  deriving DecidableEq

inductive Expr where
  | number (x : Float)
  | text (s : Octets)
  | regex (text : Octets)
  | named (symbol : Symbol)
  | element (table : Symbol) (subscripts : List Expr)
  | field (number : Expr)
  | assign (target value : Expr)
  | update (op : Arithmetic) (target value : Expr)
  | step (up before : Bool) (target : Expr)
  | arithmetic (op : Arithmetic) (left right : Expr)
  | negate (e : Expr)
  | plus (e : Expr)
  | not (e : Expr)
  | compare (op : Comparison) (left right : Expr)
  | matches (negated : Bool) (subject pattern : Expr)
  | both (left right : Expr)
  | either (left right : Expr)
  | choose (condition accepted refused : Expr)
  | join (left right : Expr)
  | contains (table : Symbol) (subscripts : List Expr)
  | group (e : Expr)
  | call (function : Nat) (arguments : List Expr)
  | builtin (f : Builtin) (arguments : List Expr)
  | find (subject pattern : Expr)
  | split (subject : Expr) (table : Symbol) (separator : Option Expr)
  | substitute (all : Bool) (pattern replacement target : Expr)
  | getline (source : Source) (operand : Expr) (target : Option Expr)

namespace Expr

def isAssignable : Expr → Bool
  | named _ | element _ _ | field _ => true
  | _ => false

end Expr

inductive Statement where
  | expression (e : Expr)
  | print (formatted : Bool) (arguments : List Expr) (target : Option (Target × Expr))
  | block (statements : List Statement)
  | choose (condition : Expr) (accepted refused : Statement)
  | loop (testsFirst : Bool) (condition : Option Expr) (between : Option Expr) (body : Statement)
  | each (target : Expr) (table : Symbol) (body : Statement)
  | delete (table : Symbol) (subscripts : List Expr)
  | clear (table : Symbol)
  | next
  | nextFile
  | exit (status : Option Expr)
  | stop
  | goOn
  | giveBack (value : Option Expr)

inductive Trigger where
  | first
  | last
  | always
  | when (condition : Expr)
  | range (first last : Expr) (number : Nat)

structure Rule where
  trigger : Trigger
  body : Option Statement

structure Function where
  name : Octets
  parameters : List Bool
  body : Statement

structure Program where
  rules : List Rule
  functions : Array Function
  names : Array (Octets × Bool)
  ranges : Nat

def knownNames : List String :=
  ["NR", "FNR", "NF", "FS", "OFS", "ORS", "RS", "SUBSEP", "FILENAME", "RSTART", "RLENGTH",
    "CONVFMT", "OFMT", "ARGC", "ARGV", "ENVIRON"]

namespace Known

def recordCount : Nat := 0
def fileRecordCount : Nat := 1
def fieldCount : Nat := 2
def fieldSeparator : Nat := 3
def outputFieldSeparator : Nat := 4
def outputRecordSeparator : Nat := 5
def recordSeparator : Nat := 6
def subscriptSeparator : Nat := 7
def fileName : Nat := 8
def matchStart : Nat := 9
def matchLength : Nat := 10
def conversion : Nat := 11
def outputConversion : Nat := 12
def argumentCount : Nat := 13
def arguments : Nat := 14
def environment : Nat := 15

end Known

/-! ## Tokens

The tokens of a program. A slash begins a regular expression unless what stands before it can be
divided.
-/

inductive Token where
  | number (x : Float)
  | text (s : Octets)
  | regex (s : Octets)
  | name (s : Octets)
  | callName (s : Octets)
  | keyword (s : String)
  | builtin (s : String)
  | sign (s : String)
  | newline
  | ending
  | fault (message : Octets)
  deriving Inhabited

structure Lexeme where
  token : Token
  line : Nat
  shown : Octets
  deriving Inhabited

def keywords : List String :=
  ["BEGIN", "END", "function", "if", "else", "while", "for", "do", "in", "next", "nextfile", "exit",
    "return", "break", "continue", "delete", "print", "printf", "getline"]

def builtinNames : List String :=
  ["length", "index", "substr", "sprintf", "sin", "cos", "atan2", "exp", "log", "int", "sqrt",
    "rand", "srand", "close", "system", "toupper", "tolower", "fflush", "systime", "mktime",
    "strftime", "match", "split", "sub", "gsub"]

def signs : List String :=
  [">>", "+=", "-=", "*=", "/=", "%=", "^=", "==", "<=", ">=", "!=", "!~", "++", "--", "&&", "||",
    "\x7b", "\x7d", "(", ")", "[", "]", ";", ",", "+", "-", "*", "/", "%", "^", "!", ">", "<", "|",
    "?", ":", "~", "$", "="]

def decimalValue (significand : Nat) (power : Int) : Float :=
  if power = 0 && significand < 9007199254740992 then Float.ofNat significand
  else (Binary64.ofDecimal false significand power).toFloat

def quotedText : (fuel : Nat) → Octets → Option (Octets × Octets × Nat)
  | 0, _ | _, [] => none
  | fuel + 1, c :: cs =>
    match c, cs with
    | '\x22', rest => some ([], rest, 0)
    | '\n', _ => none
    | '\\', '\n' :: rest => (quotedText fuel rest).map fun (text, rest, n) => (text, rest, n + 1)
    | '\\', d :: rest =>
      let (text, rest) := match d with
        | '\x22' => (['\x22'], rest)
        | 'e' => (['\\', 'e'], rest)
        | 'x' =>
          let digits := (Sum.digitsOf 16 rest).take 2
          if digits.isEmpty then (['\\', 'x'], rest)
          else ([Char.ofNat (Sum.valueOf 16 digits)], rest.drop digits.length)
        | d =>
          match takeEscape? (d :: rest) with
          | some (c, rest) => ([c], rest)
          | none => (['\\', d], rest)
      (quotedText fuel rest).map fun (more, rest, n) => (text ++ more, rest, n)
    | c, rest => (quotedText fuel rest).map fun (more, rest, n) => (c :: more, rest, n)

/-- The text up to a slash that ends it; slashes behind backslashes or in brackets do not. -/
def regexText : (fuel : Nat) → (inBrackets : Bool) → Octets → Option (Octets × Octets)
  | 0, _, _ | _, _, [] => none
  | fuel + 1, inBrackets, c :: cs =>
    match c, cs with
    | '\n', _ => none
    | '\\', '/' :: rest =>
      (regexText fuel inBrackets rest).map fun (text, rest) => ('/' :: text, rest)
    | '\\', d :: rest =>
      (regexText fuel inBrackets rest).map fun (text, rest) => ('\\' :: d :: text, rest)
    | '/', rest =>
      if inBrackets then (regexText fuel true rest).map fun (text, rest) => ('/' :: text, rest)
      else some ([], rest)
    | '[', rest =>
      if inBrackets then (regexText fuel true rest).map fun (text, rest) => ('[' :: text, rest)
      else
        let lead := rest.takeWhile (· == '^')
        let lead := lead.take 1
        let rest := rest.drop lead.length
        let lead := if rest.head? == some ']' then lead ++ [']'] else lead
        let rest := if rest.head? == some ']' then rest.drop 1 else rest
        (regexText fuel true rest).map fun (text, rest) => ('[' :: lead ++ text, rest)
    | ']', rest => (regexText fuel false rest).map fun (text, rest) => (']' :: text, rest)
    | c, rest => (regexText fuel inBrackets rest).map fun (text, rest) => (c :: text, rest)

def Token.canBeDivided : Token → Bool
  | number _ | text _ | name _ | callName _ | regex _ => true
  | keyword s => s == "getline"
  | sign s => s == ")" || s == "]" || s == "++" || s == "--"
  | _ => false

/-- Reads the token at the head of a text that begins with neither a blank nor a line break. -/
def readToken (before : Token) (cs : Octets) : Token × Octets × Nat :=
  let c := cs.head?.getD ' '
  let next := (cs.drop 1).head?.getD ' '
  if c.isDigit || (c == '.' && next.isDigit) then
    match cutDecimal cs with
    | some (significand, power, rest) => (.number (decimalValue significand power), rest, 0)
    | none => (.ending, [], 0)
  else if isNameStart c then
    let word := cs.takeWhile isNameChar
    let rest := cs.drop word.length
    let text := String.ofList word
    if keywords.contains text then (.keyword text, rest, 0)
    else if builtinNames.contains text then (.builtin text, rest, 0)
    else if rest.head? == some '(' then (.callName word, rest, 0)
    else (.name word, rest, 0)
  else if c = '\x22' then
    match quotedText cs.length (cs.drop 1) with
    | some (text, rest, broken) => (.text text, rest, broken)
    | none =>
      let shown := cs.takeWhile (· != '\n')
      (.fault ("runaway string constant ".toList ++ shown ++ " ...".toList), [], 0)
  else if c = '/' && !before.canBeDivided then
    match regexText cs.length false (cs.drop 1) with
    | some (text, rest) => (.regex text, rest, 0)
    | none =>
      let shown := cs.takeWhile (· != '\n')
      (.fault ("runaway regular expression ".toList ++ shown ++ " ...".toList), [], 0)
  else
    match signs.find? fun s => s.toList.isPrefixOf cs with
    | some s => (.sign s, cs.drop s.length, 0)
    | none => (.fault [c], [], 0)

def tokens : (fuel : Nat) → (line : Nat) → (before : Token) → Octets → List Lexeme
  | 0, line, _, _ => [⟨.ending, line, "end of file".toList⟩]
  | _, line, _, [] => [⟨.ending, line, "end of file".toList⟩]
  | fuel + 1, line, before, c :: cs =>
    if c = '\n' then
      ⟨.newline, line, "end of line".toList⟩ :: tokens fuel (line + 1) .newline cs
    else if c = '\\' && cs.head? == some '\n' then tokens fuel (line + 1) before (cs.drop 1)
    else if c = '\\' && "\r\n".toList.isPrefixOf cs then
      tokens fuel (line + 1) before (cs.drop 2)
    else if Sum.isSpace c then tokens fuel line before cs
    else if c = '#' then tokens fuel line before (cs.dropWhile (· != '\n'))
    else
      let (token, rest, broken) := readToken before (c :: cs)
      let shown := match token with
        | .callName s => s
        | _ => (c :: cs).take (cs.length + 1 - rest.length)
      let fault := match token with
        | .fault _ => true
        | _ => false
      ⟨token, line, shown⟩ :: (if fault then [] else tokens fuel (line + broken) token rest)

end NextRelease.Shell.Awk
