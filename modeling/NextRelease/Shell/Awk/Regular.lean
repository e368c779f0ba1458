import NextRelease.Shell.Format
import NextRelease.Shell.Tool.Regex

/-!
The regular expressions of programs for records: extended ones with escapes, which count also in
brackets. An empty operand is refused unless it stands in a group behind something; braces, and a
closing parenthesis that closes nothing, stand for themselves.
-/

namespace NextRelease.Shell.Awk

def regexEscape : Octets → Char × Octets
  | [] => ('\\', [])
  | 'e' :: cs => ('e', cs)
  | 'x' :: cs =>
    let digits := (Sum.digitsOf 16 cs).take 2
    if digits.isEmpty then ('x', cs)
    else (Char.ofNat (Sum.valueOf 16 digits), cs.drop digits.length)
  | c :: cs => (takeEscape? (c :: cs)).getD (c, cs)

def bracketChar : Octets → Option (Char × Octets)
  | [] => none
  | '\\' :: cs => if cs.isEmpty then none else some (regexEscape cs)
  | c :: cs => some (c, cs)

def classNames : List String :=
  ["alpha", "digit", "alnum", "upper", "lower", "space", "blank", "punct", "print", "graph",
    "cntrl", "xdigit"]

def bracketRanges : (fuel : Nat) → (isFirst : Bool) → Octets → Option (List Range × Octets)
  | 0, _, _ | _, _, [] => none
  | fuel + 1, isFirst, c :: cs =>
    if c = ']' && !isFirst then some ([], cs)
    else if c = '[' && cs.head? = some ':' then
      match cutClassName (marked false (cs.drop 1)) with
      | some (name, rest) =>
        if classNames.contains name then
          (bracketRanges fuel false (plain rest)).map fun (ranges, rest) =>
            (.named name :: ranges, rest)
        else none
      | none => none
    else
      match bracketChar (c :: cs) with
      | none => none
      | some (first, rest) =>
        match rest with
        | '-' :: ']' :: _ | [] =>
          (bracketRanges fuel false rest).map fun (ranges, rest) =>
            (.chars first first :: ranges, rest)
        | '-' :: more =>
          match bracketChar more with
          | some (last, rest) =>
            (bracketRanges fuel false rest).map fun (ranges, rest) =>
              (.chars first last :: ranges, rest)
          | none => none
        | _ =>
          (bracketRanges fuel false rest).map fun (ranges, rest) =>
            (.chars first first :: ranges, rest)

def readRepetitions : (fuel : Nat) → Regex → Octets → Except String (Regex × Octets)
  | 0, inner, cs => .ok (inner, cs)
  | fuel + 1, inner, cs =>
    match cs with
    | '*' :: rest => readRepetitions fuel (.repeated 0 none inner) rest
    | '+' :: rest => readRepetitions fuel (.repeated 1 none inner) rest
    | '?' :: rest => readRepetitions fuel (.repeated 0 (some 1) inner) rest
    | _ => .ok (inner, cs)

def readPlainItem (inGroup : Bool) : Octets → Except String (Regex × Octets)
  | '\\' :: rest =>
    let (c, rest) := regexEscape rest
    .ok (.atom (.char c), rest)
  | '.' :: rest => .ok (.atom .any, rest)
  | '[' :: rest =>
    let negated := rest.head? = some '^'
    match bracketRanges (rest.length + 1) true (if negated then rest.drop 1 else rest) with
    | some (ranges, rest) => .ok (.atom (.oneOf negated ranges), rest)
    | none => .error "bad class -- [], [^] or ["
  | '$' :: rest =>
    let atEnd := match rest with
      | [] | '|' :: _ => true
      | ')' :: _ => inGroup
      | _ => false
    .ok (if atEnd then .finish else .atom (.char '$'), rest)
  | c :: rest =>
    if "*+?".toList.contains c then .error "missing operand" else .ok (.atom (.char c), rest)
  | [] => .ok (.empty, [])

mutual

def readAlternatives : (fuel : Nat) → (inGroup strict : Bool) → Octets →
    Except String (Regex × Octets)
  | 0, _, _, _ => .error "missing operand"
  | fuel + 1, inGroup, strict, cs => do
    let (first, rest) ← readItems fuel inGroup strict cs
    let isEmpty := rest.length = cs.length
    match rest with
    | '|' :: rest => do
      if strict && isEmpty then throw "missing operand"
      let (second, rest) ← readAlternatives fuel inGroup strict rest
      return (.choice first second, rest)
    | rest => do
      if strict && isEmpty then throw "missing operand"
      return (first, rest)
termination_by structural fuel => fuel

/-- Reads what stands one behind the other. -/
def readItems : (fuel : Nat) → (inGroup isFirst : Bool) → Octets → Except String (Regex × Octets)
  | 0, _, _, _ => .error "missing operand"
  | fuel + 1, inGroup, isFirst, cs => do
    match cs with
    | [] | '|' :: _ => return (.empty, cs)
    | '^' :: rest => do
      if rest.head? = some '*' || rest.head? = some '+' then throw "syntax error ^* or ^+"
      let (more, rest) ← readItems fuel inGroup isFirst rest
      return (.sequence .start more, rest)
    | '(' :: rest => do
      if rest.isEmpty then throw "missing ')'"
      let (inner, rest) ← readAlternatives fuel true isFirst rest
      match rest with
      | ')' :: rest => do
        let (first, rest) ← readRepetitions (rest.length + 1) inner rest
        let (more, rest) ← readItems fuel inGroup false rest
        return (.sequence first more, rest)
      | _ => throw "missing ')'"
    | c :: _ => do
      if c = ')' && inGroup then return (.empty, cs)
      let (item, rest) ← readPlainItem inGroup cs
      let (first, rest) ← readRepetitions (rest.length + 1) item rest
      let (more, rest) ← readItems fuel inGroup false rest
      return (.sequence first more, rest)
termination_by structural fuel => fuel

end

def readRegex (text : Octets) : Except String Regex := do
  if text.isEmpty then return .empty
  let (regex, _) ← readAlternatives (4 * text.length + 4) false true text
  return regex

end NextRelease.Shell.Awk
