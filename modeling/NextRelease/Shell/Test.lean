import NextRelease.Shell.Machine
import NextRelease.Shell.Sum

/-!
Conditions on texts, numbers and files.
-/

namespace NextRelease.Shell

namespace Test

inductive Operator where
  | unary
  | binary
  | not
  | both
  | either
  | opening
  | closing
  deriving DecidableEq

def operator? (word : Octets) : Option Operator :=
  let text := String.ofList word
  if ["-b", "-c", "-d", "-e", "-f", "-g", "-h", "-k", "-L", "-n", "-p", "-r", "-s", "-S", "-t",
    "-u", "-w", "-x", "-z", "-O", "-G"].contains text then some .unary
  else if ["=", "!=", "<", ">", "-eq", "-ne", "-gt", "-ge", "-lt", "-le", "-nt", "-ot",
    "-ef"].contains text then some .binary
  else if text = "!" then some .not
  else if text = "-a" then some .both
  else if text = "-o" then some .either
  else if text = "(" then some .opening
  else if text = ")" then some .closing
  else none

def isBinary : List Octets → Bool
  | word :: _ => operator? word == some .binary
  | [] => false

def operatorAt? : List Octets → Option Operator
  | [] => none
  | word :: rest =>
    match operator? word, rest with
    | some .unary, [] => none
    | some .unary, [_] => some .unary
    | some .unary, next :: _ => if isBinary [next] then none else some .unary
    | some .opening, [] => none
    | operator, _ => operator

inductive Problem where
  | about (word : Octets) (reason : String)
  | other (reason : String)

def Problem.text : Problem → Octets
  | about word reason => (if word.isEmpty then [] else word ++ ": ".toList) ++ reason.toList
  | other reason => reason.toList

abbrev Checked := Except Problem (Bool × List Octets)

def number (word : Octets) : Except Problem Int :=
  let (negative, digits) := match word.dropWhile Sum.isSpace with
    | '-' :: cs => (true, cs)
    | '+' :: cs => (false, cs)
    | cs => (false, cs)
  let n : Int := if negative then -(readNat digits : Int) else readNat digits
  let isRead := (digits.head?.map Char.isDigit).getD false &&
    (digits.dropWhile Char.isDigit).all Sum.isSpace && -Sum.largest - 1 ≤ n && n ≤ Sum.largest
  if isRead then .ok n else .error (.other ("Illegal number: " ++ String.ofList word))

def fileContent? (m : Machine) (path : Octets) : Option ByteArray :=
  match m.files.find? (m.route path) with
  | some (.file content) => some content
  | _ => none

def isExecutable (m : Machine) (path : Octets) : Bool :=
  match m.files.locate (m.route path) with
  | .ok place => m.hasKind .directory path || m.files.mayRun place
  | .error _ => false

def hasBit (m : Machine) (bit : Nat) (path : Octets) : Bool :=
  match m.status? path, m.files.locate (m.route path) with
  | .ok _, .ok place => m.files.mode place / bit % 2 == 1
  | _, _ => false

def isLink (m : Machine) (path : Octets) : Bool :=
  match m.files.locateEntry (m.route path) with
  | .ok place =>
    match m.files.get? place with
    | some (.link _) => true
    | _ => false
  | .error _ => false

def isNewer (m : Machine) (path other : Octets) : Bool :=
  let changed? (path : Octets) : Option Int :=
    match m.status? path, m.files.locate (m.route path) with
    | .ok _, .ok place => some (m.files.timesAt place).changed
    | _, _ => none
  match changed? path, changed? other with
  | some time, some before => before < time
  | _, _ => false

def checkUnary (m : Machine) (operator operand : Octets) : Bool :=
  let isThere := match m.status? operand with
    | .ok _ => true
    | .error _ => false
  match String.ofList operator with
  | "-n" => !operand.isEmpty
  | "-z" => operand.isEmpty
  | "-e" | "-r" | "-w" | "-O" | "-G" => isThere
  | "-f" => m.hasKind .file operand
  | "-d" => m.hasKind .directory operand
  | "-c" => m.hasKind .device operand && !m.isPipe operand
  | "-p" => m.isPipe operand
  | "-s" =>
    match fileContent? m operand with
    | some content => content.size != 0
    | none => m.hasKind .directory operand
  | "-x" => isExecutable m operand
  | "-h" | "-L" => isLink m operand
  | "-u" => hasBit m 2048 operand
  | "-g" => hasBit m 1024 operand
  | "-k" => hasBit m 512 operand
  | _ => false

def checkBinary (m : Machine) (left operator right : Octets) : Except Problem Bool :=
  let numbers (f : Int → Int → Bool) : Except Problem Bool := do
    return f (← number left) (← number right)
  match String.ofList operator with
  | "=" => .ok (left == right)
  | "!=" => .ok (left != right)
  | "<" => .ok (compare left right == .lt)
  | ">" => .ok (compare left right == .gt)
  | "-eq" => numbers (· == ·)
  | "-ne" => numbers (· != ·)
  | "-lt" => numbers (· < ·)
  | "-le" => numbers (· ≤ ·)
  | "-gt" => numbers (· > ·)
  | "-ge" => numbers (· ≥ ·)
  | "-ef" =>
    match m.files.locate (m.route left), m.files.locate (m.route right) with
    | .ok p, .ok q => .ok ((m.files.namesAt p).contains q && (m.files.get? p).isSome)
    | _, _ => .ok false
  | "-nt" => .ok (isNewer m left right)
  | "-ot" => .ok (isNewer m right left)
  | _ => .ok false

mutual

def checkEither (m : Machine) : (fuel : Nat) → List Octets → Checked
  | 0, _ => .error (.other "out of fuel")
  | fuel + 1, words => do
    let (first, rest) ← checkBoth m fuel words
    match operatorAt? rest with
    | some .either => do
      let (second, rest) ← checkEither m fuel (rest.drop 1)
      return (first || second, rest)
    | _ => return (first, rest)

def checkBoth (m : Machine) : (fuel : Nat) → List Octets → Checked
  | 0, _ => .error (.other "out of fuel")
  | fuel + 1, words => do
    let (first, rest) ← checkNot m fuel words
    match operatorAt? rest with
    | some .both => do
      let (second, rest) ← checkBoth m fuel (rest.drop 1)
      return (first && second, rest)
    | _ => return (first, rest)

def checkNot (m : Machine) : (fuel : Nat) → List Octets → Checked
  | 0, _ => .error (.other "out of fuel")
  | fuel + 1, words =>
    match operatorAt? words with
    | some .not => do
      let (value, rest) ← checkNot m fuel (words.drop 1)
      return (!value, rest)
    | _ => checkPrimary m fuel words

def checkPrimary (m : Machine) : (fuel : Nat) → List Octets → Checked
  | 0, _ => .error (.other "out of fuel")
  | fuel + 1, words =>
    match operatorAt? words, words with
    | _, [] => .ok (false, [])
    | some .opening, _ :: rest =>
      if operatorAt? rest = some .closing then .ok (false, rest.drop 1)
      else do
        let (value, rest) ← checkEither m fuel rest
        match operatorAt? rest with
        | some .closing => return (value, rest.drop 1)
        | _ => throw (.other "closing paren expected")
    | some .unary, operator :: operand :: rest => .ok (checkUnary m operator operand, rest)
    | _, left :: operator :: rest =>
      if operatorAt? (operator :: rest) = some .binary then
        match rest with
        | [] => .error (.about operator "argument expected")
        | right :: rest => do return (← checkBinary m left operator right, rest)
      else .ok (!left.isEmpty, operator :: rest)
    | _, [word] => .ok (!word.isEmpty, [])

end

def checkAll (m : Machine) (words : List Octets) : Except Problem Bool := do
  let (value, rest) ← checkEither m (8 * words.length + 8) words
  if rest.isEmpty then return value
  else throw (.about (words[words.length - rest.length - 1]?.getD []) "unexpected operator")

/-- Whether a condition holds. Three words around a binary operator are always its operands. -/
def check (m : Machine) : List Octets → Except Problem Bool
  | [] => .ok false
  | [left, operator, right] =>
    if operator? operator = some .binary then checkBinary m left operator right
    else if left = ['('] ∧ right = [')'] then checkAll m [operator]
    else if left = ['!'] then (check m [operator, right]).map (!·)
    else checkAll m [left, operator, right]
  | [first, second, third, fourth] =>
    if first = ['('] ∧ fourth = [')'] then checkAll m [second, third]
    else if first = ['!'] then (check m [second, third, fourth]).map (!·)
    else checkAll m [first, second, third, fourth]
  | words => checkAll m words

end Test

end NextRelease.Shell
