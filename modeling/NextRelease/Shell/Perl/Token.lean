import NextRelease.Shell.Perl.Matching
import NextRelease.Shell.Perl.Value

/-!
Scripts: expressions, which stand for one value or for a list of values, and statements.
-/

namespace NextRelease.Shell.Perl

inductive Sigil where
  | scalar
  | list
  | table
  | code
  deriving DecidableEq

def Sigil.char : Sigil → Char
  | scalar => '$'
  | list => '@'
  | table => '%'
  | code => '&'

inductive Operator where
  | add
  | subtract
  | multiply
  | divide
  | remainder
  | power
  | join
  | replicate
  | shiftLeft
  | shiftRight
  | bitAnd
  | bitOr
  | bitXor
  | less
  | atMost
  | greater
  | atLeast
  | equal
  | different
  | order
  | textLess
  | textAtMost
  | textGreater
  | textAtLeast
  | textEqual
  | textDifferent
  | textOrder
  deriving DecidableEq

def Operator.spelling : Operator → String
  | add => "+"
  | subtract => "-"
  | multiply => "*"
  | divide => "/"
  | remainder => "%"
  | power => "**"
  | join => "."
  | replicate => "x"
  | shiftLeft => "<<"
  | shiftRight => ">>"
  | bitAnd => "&"
  | bitOr => "|"
  | bitXor => "^"
  | less => "<"
  | atMost => "<="
  | greater => ">"
  | atLeast => ">="
  | equal => "=="
  | different => "!="
  | order => "<=>"
  | textLess => "lt"
  | textAtMost => "le"
  | textGreater => "gt"
  | textAtLeast => "ge"
  | textEqual => "eq"
  | textDifferent => "ne"
  | textOrder => "cmp"

def Operator.test? : Operator → Option (Operator × (Ordering → Bool))
  | less => some (order, (· == .lt))
  | atMost => some (order, (· != .gt))
  | greater => some (order, (· == .gt))
  | atLeast => some (order, (· != .lt))
  | equal => some (order, (· == .eq))
  | different => some (order, (· != .eq))
  | textLess => some (textOrder, (· == .lt))
  | textAtMost => some (textOrder, (· != .gt))
  | textGreater => some (textOrder, (· == .gt))
  | textAtLeast => some (textOrder, (· != .lt))
  | textEqual => some (textOrder, (· == .eq))
  | textDifferent => some (textOrder, (· != .eq))
  | _ => none

def Operator.isTextual : Operator → Bool
  | join | replicate | textLess | textAtMost | textGreater | textAtLeast | textEqual
  | textDifferent | textOrder => true
  | _ => false

inductive Logic where
  | both
  | either
  | given
  deriving DecidableEq

mutual

inductive Expr where
  | value (v : Scalar)
  | interpolated (parts : List Expr)
  | named (sigil : Sigil) (name : Octets)
  | own (names : List (Sigil × Octets)) (inList : Bool)
  | localized (e : Expr)
  | deref (sigil : Sigil) (e : Expr)
  | item (list index : Expr)
  | entry (table key : Expr)
  | items (list indexes : Expr)
  | entries (table keys : Expr)
  | pick (values indexes : Expr)
  | lastIndex (list : Expr)
  | listMaker (es : List Expr)
  | tableMaker (es : List Expr)
  | function (package : Octets) (body : List Statement)
  | refer (e : Expr)
  | list (es : List Expr)
  | negate (e : Expr)
  | not (e : Expr)
  | flip (e : Expr)
  | binary (op : Operator) (left right : Expr)
  | logic (op : Logic) (left right : Expr)
  | choose (condition accepted refused : Expr)
  | range (place : Nat) (first last : Expr)
  | assign (target value : Expr)
  | update (op : Operator) (target value : Expr)
  | logicUpdate (op : Logic) (target value : Expr)
  | step (up before : Bool) (target : Expr)
  | find (subject : Option Expr) (negated : Bool) (pattern : Expr) (flags : Octets)
  | substitute (subject : Option Expr) (pattern replacement : Expr) (flags : Octets)
  | transliterate (subject : Option Expr) (source target : Octets) (flags : Octets)
  | regex (pattern : Expr) (flags : Octets)
  | call (name : Octets) (arguments : List Expr)
  | invoke (code : Expr) (arguments : List Expr)
  | method (object name : Expr) (package : Octets) (arguments : List Expr)
  | builtin (name : String) (arguments : List Expr)
  | apply (name : String) (body : Option (List Statement)) (arguments : List Expr)
  | print (kind : String) (handle : Option Expr) (arguments : List Expr)
  | readLine (handle : Expr)
  | fileTest (letter : Char) (e : Expr)
  | command (text : Expr)
  | block (body : List Statement)
  | attempt (body : List Statement)

inductive Statement where
  | expression (line : Nat) (e : Expr)
  | choose (line : Nat) (condition : Expr) (accepted refused : List Statement)
  | loop (label : Octets) (testsFirst : Bool) (condition : Option Expr) (between : Option Expr)
      (body : List Statement)
  | each (label : Octets) (isNew : Bool) (name : Octets) (values : Expr) (body : List Statement)
  | block (label : Octets) (body : List Statement)
  | define (name : Octets) (body : List Statement)

end

def Expr.topic : Expr := .named .scalar ['_']

def Expr.text (s : Octets) : Expr := .value (.text s)

def Expr.isPlural : Expr → Bool
  | .named .list _ | .named .table _ | .deref .list _ | .deref .table _ | .list _ | .items _ _
  | .entries _ _ | .own _ true => true
  | .own [(.list, _)] _ | .own [(.table, _)] _ => true
  | .localized e => e.isPlural
  | _ => false

/-! ## Quoted texts

Quoted texts of scripts: what delimits them and what their escapes stand for.
-/

def closing (c : Char) : Char :=
  match c with
  | '(' => ')'
  | '[' => ']'
  | '\x7b' => '\x7d'
  | '<' => '>'
  | c => c

def delimited (opening : Char) : (fuel : Nat) → (depth : Nat) → Octets → Option (Octets × Octets)
  | 0, _, _ | _, _, [] => none
  | fuel + 1, depth, c :: cs =>
    let isNested := closing opening != opening
    if c = '\\' then
      match cs with
      | d :: rest =>
        (delimited opening fuel depth rest).map fun (text, rest) => (c :: d :: text, rest)
      | [] => none
    else if c = closing opening then
      if depth = 0 then some ([], cs)
      else (delimited opening fuel (depth - 1) cs).map fun (text, rest) => (c :: text, rest)
    else
      let depth := if isNested && c = opening then depth + 1 else depth
      (delimited opening fuel depth cs).map fun (text, rest) => (c :: text, rest)

def plainQuoted (opening : Char) : Octets → Octets
  | '\\' :: c :: cs =>
    if c = '\\' || c = opening || c = closing opening then c :: plainQuoted opening cs
    else '\\' :: c :: plainQuoted opening cs
  | c :: cs => c :: plainQuoted opening cs
  | [] => []

def characterOctets (n : Nat) : Octets :=
  if n < 256 then [Char.ofNat n] else octets (String.singleton (Char.ofNat n))

def textEscape : Octets → Octets × Octets
  | 'x' :: '\x7b' :: cs =>
    let digits := Sum.digitsOf 16 cs
    (characterOctets (Sum.valueOf 16 digits), (cs.drop digits.length).drop 1)
  | 'N' :: '\x7b' :: 'U' :: '+' :: cs =>
    let digits := Sum.digitsOf 16 cs
    (characterOctets (Sum.valueOf 16 digits), (cs.drop digits.length).drop 1)
  | 'c' :: c :: cs => ([Char.ofNat (Nat.xor c.toUpper.toNat 64)], cs)
  | c :: cs =>
    match octalValue? c with
    | some _ =>
      let (value, rest) := takeOctal 3 0 (c :: cs)
      ([Char.ofNat (value % 256)], rest)
    | none =>
      let (d, rest) := escapedChar (c :: cs)
      ([d], rest)
  | [] => (['\\'], [])

/-- The characters of a list for transliteration, with its ranges written out. -/
def listedChars : (fuel : Nat) → Octets → Octets
  | 0, _ | _, [] => []
  | fuel + 1, c :: cs =>
    let take (c : Char) (cs : Octets) : Char × Octets :=
      if c = '\\' then
        match cs with
        | '-' :: rest => ('-', rest)
        | '\\' :: rest => ('\\', rest)
        | cs =>
          let (text, rest) := textEscape cs
          (text.head?.getD '\\', rest)
      else (c, cs)
    let (first, rest) := take c cs
    match rest with
    | '-' :: d :: more =>
      let (last, rest) := take d more
      let count := last.toNat + 1 - first.toNat
      (List.range count).map (fun i => Char.ofNat (first.toNat + i)) ++ listedChars fuel rest
    | rest => first :: listedChars fuel rest

def wordsOfText : (fuel : Nat) → Octets → List Octets
  | 0, _ => []
  | fuel + 1, cs =>
    match cs.dropWhile isSpaceChar with
    | [] => []
    | cs =>
      let word := cs.takeWhile fun c => !isSpaceChar c
      word :: wordsOfText fuel (cs.drop word.length)

/-! ## Tokens

The tokens of scripts: the operators with their levels, the words that have a meaning, and how far
the token goes that a text begins with.
-/

def wordAhead (text : Octets) : Octets :=
  match text with
  | c :: _ => if isNameStart c then qualified (text.length + 1) text else []
  | [] => []
where
  qualified : (fuel : Nat) → Octets → Octets
    | 0, _ => []
    | fuel + 1, cs =>
      let word := cs.takeWhile isNameChar
      match cs.drop word.length with
      | ':' :: ':' :: c :: more =>
        if isNameStart c then word ++ "::".toList ++ qualified fuel (c :: more) else word
      | _ => word

def isArrowed (text : Octets) : Bool :=
  "=>".toList.isPrefixOf (text.dropWhile isSpaceChar)

/-! ## Operators -/

inductive Infix where
  | operator (op : Operator)
  | logic (op : Logic)
  | range
  | bind (negated : Bool)

def infixes : List (String × Nat × Infix) :=
  [("<=>", 12, .operator .order), ("...", 7, .range), ("==", 12, .operator .equal),
    ("!=", 12, .operator .different), ("=~", 18, .bind false), ("!~", 18, .bind true),
    ("<=", 13, .operator .atMost), (">=", 13, .operator .atLeast), ("<<", 15, .operator .shiftLeft),
    (">>", 15, .operator .shiftRight), ("&&", 9, .logic .both), ("||", 8, .logic .either),
    ("//", 8, .logic .given), ("..", 7, .range), ("*", 17, .operator .multiply),
    ("/", 17, .operator .divide), ("%", 17, .operator .remainder), ("+", 16, .operator .add),
    ("-", 16, .operator .subtract), (".", 16, .operator .join), ("<", 13, .operator .less),
    (">", 13, .operator .greater), ("&", 11, .operator .bitAnd), ("|", 10, .operator .bitOr),
    ("^", 10, .operator .bitXor)]

def wordInfixes : List (String × Nat × Infix) :=
  [("lt", 13, .operator .textLess), ("gt", 13, .operator .textGreater),
    ("le", 13, .operator .textAtMost), ("ge", 13, .operator .textAtLeast),
    ("eq", 12, .operator .textEqual), ("ne", 12, .operator .textDifferent),
    ("cmp", 12, .operator .textOrder)]

/-- The operator at the head of a text with its length. -/
def infixAt? (text : Octets) : Option (Nat × Nat × Infix) :=
  let w := wordAhead text
  match wordInfixes.find? fun entry => entry.1.toList == w with
  | some (name, level, op) =>
    if isArrowed (text.drop w.length) then none else some (name.length, level, op)
  | none =>
    match text with
    | 'x' :: c :: _ =>
      if c = '=' then none
      else if isNameChar c && !c.isDigit then none
      else some (1, 17, .operator .replicate)
    | _ =>
      if "**".toList.isPrefixOf text then none
      else
        match infixes.find? fun entry => entry.1.toList.isPrefixOf text with
        | none => none
        | some (name, level, op) =>
          let next := (text.drop name.length).head?
          let isComparison := level = 12 || level = 13 || level = 18
          if next = some '=' && !isComparison then none
          else if name = "=~" || name = "!~" || !(name = "=" ) then some (name.length, level, op)
          else none

inductive Assignment where
  | plain
  | update (op : Operator)
  | logic (op : Logic)

def assignments : List (String × Assignment) :=
  [("**=", .update .power), ("||=", .logic .either), ("&&=", .logic .both), ("//=", .logic .given),
    ("<<=", .update .shiftLeft), (">>=", .update .shiftRight), ("+=", .update .add),
    ("-=", .update .subtract), ("*=", .update .multiply), ("/=", .update .divide),
    ("%=", .update .remainder), (".=", .update .join), ("x=", .update .replicate),
    ("&=", .update .bitAnd), ("|=", .update .bitOr), ("^=", .update .bitXor), ("=", .plain)]

def assignmentAt? (text : Octets) : Option (Nat × Assignment) :=
  match assignments.find? fun entry => entry.1.toList.isPrefixOf text with
  | some (name, assignment) =>
    let next := (text.drop name.length).head?
    if name = "=" && (next = some '=' || next = some '~' || next = some '>') then none
    else some (name.length, assignment)
  | none => none

/-! ## Functions -/

def topicFunctions : List String :=
  ["length", "lc", "uc", "lcfirst", "ucfirst", "fc", "ord", "chr", "abs", "int", "sqrt", "sin",
    "cos", "exp", "log", "hex", "oct", "ref", "quotemeta", "rmdir", "readlink", "chomp", "chop",
    "stat", "defined", "lstat", "pos", "unlink", "require", "alarm", "glob"]

def unaryFunctions : List String :=
  ["shift", "pop", "keys", "values", "each", "delete", "exists", "scalar", "rand", "srand", "exit",
    "sleep", "umask", "localtime", "gmtime", "undef", "close", "closedir", "eof", "fileno", "chdir",
    "caller", "readdir", "lock", "readline", "local"]

def plainFunctions : List String := ["time", "times", "wantarray", "wait", "getppid", "fork"]

def listFunctions : List String :=
  ["push", "unshift", "splice", "join", "split", "reverse", "die", "warn", "sprintf", "chmod",
    "mkdir", "rename", "open", "opendir", "pack", "unpack", "system", "exec", "kill", "index",
    "rindex", "substr", "atan2", "return", "binmode", "seek", "read", "select", "utime", "link",
    "symlink", "bless", "waitpid", "syswrite", "truncate"]

def blockFunctions : List String :=
  ["map", "grep", "sort", "first", "any", "all", "none", "notall", "reduce", "reductions",
    "pairmap", "pairgrep"]

def importedFunctions : List String :=
  ["sum", "sum0", "max", "min", "product", "uniq", "uniqnum", "uniqstr", "uniqint", "shuffle",
    "floor", "ceil", "fmod", "pow", "strftime", "mktime", "maxstr", "minstr", "first", "any", "all",
    "none", "notall", "reduce", "reductions", "pairs", "pairkeys", "pairvalues", "pairmap",
    "pairgrep", "head", "tail", "encode_json", "decode_json", "Dumper", "dclone", "blessed",
    "reftype", "refaddr", "looks_like_number", "weaken", "unweaken", "isweak", "readonly", "basename", "dirname",
    "fileparse", "cwd", "getcwd", "realpath", "abs_path", "encode_base64", "decode_base64", "md5",
    "md5_hex", "md5_base64", "sha1", "sha1_hex", "sha1_base64", "sha224_hex", "sha256",
    "sha256_hex", "sha256_base64", "sha384_hex", "sha512_hex", "sha512_base64", "encode_utf8",
    "decode_utf8", "encode", "decode", "croak", "confess", "carp", "cluck", "round", "trunc",
    "lround", "isatty", "strtol", "strtod", "hostname", "INT_MAX", "INT_MIN", "UINT_MAX",
    "LONG_MAX", "LONG_MIN", "DBL_MAX", "DBL_MIN", "DBL_EPSILON", "EXIT_SUCCESS", "EXIT_FAILURE",
    "timegm", "timelocal"]

def importedConstants : List String :=
  ["INT_MAX", "INT_MIN", "UINT_MAX", "LONG_MAX", "LONG_MIN", "DBL_MAX", "DBL_MIN", "DBL_EPSILON",
    "EXIT_SUCCESS", "EXIT_FAILURE", "cwd", "getcwd", "hostname"]

def importedUnary : List String :=
  ["floor", "ceil", "blessed", "reftype", "refaddr", "looks_like_number", "encode_json",
    "decode_json", "dclone", "round", "trunc"]

def closingWords : List String := ["last", "next", "redo", "goto"]

def namingFunctions : List String :=
  ["open", "close", "binmode", "eof", "fileno", "opendir", "readdir", "closedir", "seek", "read",
    "syswrite", "select", "truncate", "stat", "lstat", "require", "readline", "defined", "exists"]

def quotingWords : List String := ["q", "qq", "qw", "qx", "qr", "m", "s", "tr", "y"]

def isFunction (name : Octets) : Bool :=
  let name := String.ofList name
  topicFunctions.contains name || unaryFunctions.contains name || listFunctions.contains name ||
    plainFunctions.contains name || importedFunctions.contains name

def isBuiltin (name : Octets) : Bool :=
  let word := String.ofList name
  (isFunction name || ["map", "grep", "sort"].contains word || closingWords.contains word) &&
    !importedFunctions.contains word

/-! ## The extent of tokens -/

def structuralWords : List String :=
  ["if", "unless", "while", "until", "for", "foreach", "else", "elsif", "and", "or", "not", "xor", "x",
    "eq", "ne", "lt", "gt", "le", "ge", "cmp", "my", "our", "local", "state", "sub", "package", "use",
    "no", "do", "eval", "print", "printf", "say", "return", "goto", "BEGIN", "END", "continue"]

def isKeyword (w : Octets) : Bool :=
  structuralWords.contains (String.ofList w) || isBuiltin w || quotingWords.contains (String.ofList w)

/-- How far the token goes that a text begins with; blanks behind it count where what follows
decides what it is. -/
def tokenSize (text : Octets) : Nat :=
  let blanksBehind (size : Nat) : Nat := size + ((text.drop size).takeWhile isSpaceChar).length
  let w := wordAhead text
  if !w.isEmpty then if isKeyword w then w.length else blanksBehind w.length
  else
    match text with
    | [] => 0
    | c :: cs =>
      let name := wordAhead cs
      if "$@%&".toList.contains c && !name.isEmpty then blanksBehind (1 + name.length)
      else if c.isDigit then (text.takeWhile fun c => isNameChar c || c == '.').length
      else if c = '\x22' || c = '\x27' || isBackquote c then
        match delimited c (cs.length + 1) 0 cs with
        | some (_, rest) => text.length - rest.length
        | none => 1
      else if c = ')' then blanksBehind 1
      else if c = '\x7b' then
        let inner := cs.dropWhile fun c => c == ' ' || c == '\t'
        let key := wordAhead inner
        match (inner.drop key.length).dropWhile fun c => c == ' ' || c == '\t' with
        | '\x7d' :: _ => if key.isEmpty then 1 else text.length - (inner.drop key.length).length
        | _ => 1
      else
        let signs := ["=>", "->", "++", "--"] ++ assignments.map (·.1) ++ infixes.map (·.1)
        let fitting := signs.filter fun sign => sign.toList.isPrefixOf text
        ((fitting.map String.length).max?).getD 1

def operandKind? (text : Octets) : Option String :=
  let w := wordAhead text
  if !w.isEmpty then if isKeyword w then none else some "Bareword"
  else
    match text with
    | '$' :: cs => if (wordAhead cs).isEmpty then none else some "Scalar"
    | '@' :: cs => if (wordAhead cs).isEmpty then none else some "Array"
    | c :: _ =>
      if c = '\x22' || c = '\x27' then some "String"
      else if c.isDigit then some "Number"
      else if isBackquote c then some "Backticks"
      else none
    | [] => none

end NextRelease.Shell.Perl
