import NextRelease.Shell.Octets

/-!
Sums: arithmetic on numbers of sixty-four bits, with variables, conditions and assignments.
-/

namespace NextRelease.Shell

namespace Sum

inductive Token where
  | number (n : Int)
  | name (name : Octets)
  | sign (text : String)
  | stray
  deriving DecidableEq

inductive Term where
  | number (n : Int)
  | named (name : Octets)
  | unary (sign : String) (term : Term)
  | binary (sign : String) (left right : Term)
  | choose (condition accepted refused : Term)
  | assign (name : Octets) (sign : Option String) (term : Term)

def wrap (n : Int) : Int := Int.bmod n 18446744073709551616

def largest : Int := 9223372036854775807

def digitOf? (base : Nat) (c : Char) : Option Nat :=
  let value :=
    if c.isDigit then some (c.toNat - 48)
    else if 'a' ≤ c ∧ c ≤ 'f' then some (c.toNat - 87)
    else if 'A' ≤ c ∧ c ≤ 'F' then some (c.toNat - 55)
    else none
  value.filter (· < base)

def digitsOf (base : Nat) (cs : Octets) : Octets := cs.takeWhile fun c => (digitOf? base c).isSome

def valueOf (base : Nat) (digits : Octets) : Nat :=
  digits.foldl (fun n c => base * n + (digitOf? base c).getD 0) 0

def cutNumber (cs : Octets) : Nat × Octets :=
  let take (base : Nat) (cs : Octets) : Nat × Octets :=
    let digits := digitsOf base cs
    (valueOf base digits, cs.drop digits.length)
  match cs with
  | '0' :: x :: d :: rest =>
    if (x = 'x' ∨ x = 'X') ∧ (digitOf? 16 d).isSome then take 16 (d :: rest) else take 8 cs
  | '0' :: _ => take 8 cs
  | cs => take 10 cs

def isSpace (c : Char) : Bool := c == ' ' || (9 ≤ c.toNat && c.toNat ≤ 13)

/-- Reads the value of a variable; blanks may stand on both sides. -/
def readValue? (cs : Octets) : Option Int :=
  let (negative, digits) := match cs.dropWhile isSpace with
    | '-' :: cs => (true, cs)
    | '+' :: cs => (false, cs)
    | cs => (false, cs)
  let starts := (digits.head?.map Char.isDigit).getD false
  let (n, rest) := if starts then cutNumber digits else (0, cs)
  let n : Int := if starts then min n largest else 0
  if rest.all isSpace then some (if negative then -n else n) else none

def signs : List String :=
  ["<<=", ">>=", "<<", ">>", "<=", ">=", "==", "!=", "&&", "||", "*=", "/=", "%=", "+=", "-=", "&=",
    "^=", "|=", "<", ">", "=", "!", "&", "|", "^", "*", "/", "%", "+", "-", "~", "?", ":", "(", ")"]

def tokens : (fuel : Nat) → Octets → List Token
  | 0, _ => []
  | _, [] => []
  | fuel + 1, c :: cs =>
    if isSpace c then tokens fuel cs
    else if c.isDigit then
      let (n, rest) := cutNumber (c :: cs)
      .number (min n largest) :: tokens fuel rest
    else if isNameStart c then
      .name ((c :: cs).takeWhile isNameChar) :: tokens fuel ((c :: cs).dropWhile isNameChar)
    else
      match signs.find? fun sign => sign.toList.isPrefixOf (c :: cs) with
      | some sign => .sign sign :: tokens fuel ((c :: cs).drop sign.length)
      | none => [.stray]

/-- How tightly the signs between two terms bind. -/
def strength? : String → Option Nat
  | "||" => some 1
  | "&&" => some 2
  | "|" => some 3
  | "^" => some 4
  | "&" => some 5
  | "==" | "!=" => some 6
  | "<" | "<=" | ">" | ">=" => some 7
  | "<<" | ">>" => some 8
  | "+" | "-" => some 9
  | "*" | "/" | "%" => some 10
  | _ => none

def assigned? (sign : String) : Option (Option String) :=
  match sign with
  | "=" => some none
  | "*=" => some (some "*")
  | "/=" => some (some "/")
  | "%=" => some (some "%")
  | "+=" => some (some "+")
  | "-=" => some (some "-")
  | "<<=" => some (some "<<")
  | ">>=" => some (some ">>")
  | "&=" => some (some "&")
  | "^=" => some (some "^")
  | "|=" => some (some "|")
  | _ => none

abbrev Parsed := Except String (Term × List Token)

mutual

def readAssignment : (fuel : Nat) → List Token → Parsed
  | 0, _ => .error "out of fuel"
  | fuel + 1, tokens =>
    match tokens with
    | .name name :: .sign sign :: rest =>
      match assigned? sign with
      | some combined => do
        let (term, rest) ← readAssignment fuel rest
        return (.assign name combined term, rest)
      | none => readChoice fuel tokens
    | _ => readChoice fuel tokens

def readChoice : (fuel : Nat) → List Token → Parsed
  | 0, _ => .error "out of fuel"
  | fuel + 1, tokens => do
    let (condition, rest) ← readBinary fuel 1 tokens
    match rest with
    | .sign "?" :: rest => do
      let (accepted, rest) ← readAssignment fuel rest
      match rest with
      | .sign ":" :: rest => do
        let (refused, rest) ← readChoice fuel rest
        return (.choose condition accepted refused, rest)
      | _ => throw "expecting ':'"
    | rest => return (condition, rest)

def readBinary : (fuel least : Nat) → List Token → Parsed
  | 0, _, _ => .error "out of fuel"
  | fuel + 1, least, tokens => do
    let (first, rest) ← readPrimary fuel tokens
    readJoined fuel least first rest

def readJoined : (fuel least : Nat) → Term → List Token → Parsed
  | 0, _, _, _ => .error "out of fuel"
  | fuel + 1, least, first, tokens =>
    match tokens with
    | .sign sign :: rest =>
      match strength? sign with
      | some strength =>
        if least ≤ strength then do
          let (second, rest) ← readBinary fuel (strength + 1) rest
          readJoined fuel least (.binary sign first second) rest
        else .ok (first, tokens)
      | none => .ok (first, tokens)
    | _ => .ok (first, tokens)

def readPrimary : (fuel : Nat) → List Token → Parsed
  | 0, _ => .error "out of fuel"
  | fuel + 1, tokens =>
    match tokens with
    | .number n :: rest => .ok (.number n, rest)
    | .name name :: rest => .ok (.named name, rest)
    | .sign "(" :: rest => do
      let (term, rest) ← readAssignment fuel rest
      match rest with
      | .sign ")" :: rest => return (term, rest)
      | _ => throw "expecting ')'"
    | .sign sign :: rest =>
      if ["+", "-", "!", "~"].contains sign then do
        let (term, rest) ← readPrimary fuel rest
        return (.unary sign term, rest)
      else .error "expecting primary"
    | _ => .error "expecting primary"

end

inductive Problem where
  | malformed (reason : String)
  | illegalNumber (text : Octets)
  deriving DecidableEq

def truth (b : Bool) : Int := if b then 1 else 0

def bitwise (f : Nat → Nat → Nat) (m n : Int) : Int :=
  wrap (f (m % 18446744073709551616).toNat (n % 18446744073709551616).toNat)

def combine (sign : String) (m n : Int) : Except Problem Int :=
  match sign with
  | "*" => .ok (wrap (m * n))
  | "/" => if n = 0 then .error (.malformed "division by zero") else .ok (wrap (Int.tdiv m n))
  | "%" => if n = 0 then .error (.malformed "division by zero") else .ok (Int.tmod m n)
  | "+" => .ok (wrap (m + n))
  | "-" => .ok (wrap (m - n))
  | "<<" => .ok (wrap (m * Nat.pow 2 (n % 64).toNat))
  | ">>" => .ok (Int.fdiv m (Nat.pow 2 (n % 64).toNat))
  | "<" => .ok (truth (m < n))
  | "<=" => .ok (truth (m ≤ n))
  | ">" => .ok (truth (n < m))
  | ">=" => .ok (truth (n ≤ m))
  | "==" => .ok (truth (m == n))
  | "!=" => .ok (truth (m != n))
  | "&" => .ok (bitwise Nat.land m n)
  | "^" => .ok (bitwise Nat.xor m n)
  | _ => .ok (bitwise Nat.lor m n)

abbrev Assigned := List (Octets × Int)

def variableValue (lookup : Octets → Octets) (assigned : Assigned) (name : Octets) :
    Except Problem Int :=
  match assigned.lookup name with
  | some n => .ok n
  | none =>
    match readValue? (lookup name) with
    | some n => .ok n
    | none => .error (.illegalNumber (lookup name))

def Term.value (lookup : Octets → Octets) : Term → Assigned → Except Problem (Int × Assigned)
  | number n, assigned => .ok (n, assigned)
  | named name, assigned => do return (← variableValue lookup assigned name, assigned)
  | unary sign term, assigned => do
    let (n, assigned) ← term.value lookup assigned
    let n := match sign with
      | "-" => wrap (-n)
      | "!" => truth (n == 0)
      | "~" => -n - 1
      | _ => n
    return (n, assigned)
  | binary sign left right, assigned => do
    let (m, assigned) ← left.value lookup assigned
    if sign = "&&" ∧ m = 0 then return (0, assigned)
    else if sign = "||" ∧ m ≠ 0 then return (1, assigned)
    else
      let (n, assigned) ← right.value lookup assigned
      if sign = "&&" ∨ sign = "||" then return (truth (n != 0), assigned)
      else return (← combine sign m n, assigned)
  | choose condition accepted refused, assigned => do
    let (c, assigned) ← condition.value lookup assigned
    if c ≠ 0 then accepted.value lookup assigned else refused.value lookup assigned
  | assign name sign term, assigned => do
    let (n, assigned) ← term.value lookup assigned
    let n ← match sign with
      | none => pure n
      | some sign => do combine sign (← variableValue lookup assigned name) n
    return (n, (name, n) :: assigned)

def evaluate (lookup : Octets → Octets) (text : Octets) : Except Problem (Int × Assigned) := do
  let tokens := tokens (text.length + 1) text
  match readAssignment (16 * tokens.length + 16) tokens with
  | .error reason => throw (.malformed reason)
  | .ok (term, []) => term.value lookup []
  | .ok (_, _) => throw (.malformed "expecting EOF")

end Sum

end NextRelease.Shell
