import NextRelease.Shell.Machine
import NextRelease.Shell.Pattern
import NextRelease.Shell.Sum
import NextRelease.SortedSet

/-!
From words to fields. The pieces of a word are replaced by what they stand for, what was replaced
outside quotes is split at the characters of `IFS`, and fields that are patterns are replaced by the
names of the files that they match.
-/

namespace NextRelease.Shell

inductive Fragment where
  | text (text : Octets) (quoted splits : Bool)
  | boundary
  deriving DecidableEq

def Fragment.marked : Fragment → Marked
  | text cs quoted _ => Shell.marked quoted cs
  | boundary => [(' ', true)]

def markedText (fragments : List Fragment) : Marked := fragments.flatMap Fragment.marked

def plainTextOf (fragments : List Fragment) : Octets := plain (markedText fragments)

def argumentFragments (quoted : Bool) (arguments : List Octets) : List Fragment :=
  (arguments.map fun a => Fragment.text a quoted (!quoted)).intersperse .boundary

def valueFragments (m : Machine) (name value : Octets) (quoted : Bool) : List Fragment :=
  if name = ['@'] ∨ (name = ['*'] ∧ quoted = false) then argumentFragments quoted m.arguments
  else [.text value quoted (!quoted)]

def isMissing (orEmpty : Bool) : Option Octets → Bool
  | none => true
  | some value => orEmpty && value.isEmpty

def demandText (name : Octets) (orEmpty : Bool) (message : Octets) : Octets :=
  name ++ ": ".toList ++
    if message.isEmpty then
      "parameter not set".toList ++ if orEmpty then " or null".toList else []
    else message

def requireValue (name : Octets) : Act Octets := do
  let m ← get
  match m.value? name with
  | some value => return value
  | none =>
    if m.hasOption 'u' && name != ['@'] && name != ['*'] then
      failWith (demandText name false [])
    return []

/-- The number that a sum comes to; what it assigns is assigned. -/
def sumValue (text : Octets) : Act Int := do
  let m ← get
  match Sum.evaluate (fun name => (m.value? name).getD []) text with
  | .error (.malformed reason) =>
    failWith ("arithmetic expression: ".toList ++ reason.toList ++ ": \"".toList ++ text ++
      "\"".toList)
  | .error (.illegalNumber value) => failWith ("Illegal number: ".toList ++ value)
  | .ok (n, assigned) => do
    assigned.reverse.forM fun a => assign a.1 (intText a.2)
    return n

mutual

/-- What a piece stands for; `splits` tells whether text outside quotes is split. -/
def expandPiece (substitute : Option Node → Act Octets) (splits : Bool) :
    Piece → Act (List Fragment)
  | .literal text quoted => return [.text text quoted (splits && !quoted)]
  | .command script quoted => do return [.text (← substitute script) quoted (!quoted)]
  | .sum terms quoted => do
    let text := plainTextOf (← expandPieces substitute false terms)
    return [.text (intText (← sumValue text)) quoted (!quoted)]
  | .parameter name use word quoted => do
    let m ← get
    let value := m.value? name
    match use with
    | .value => do
      let value ← requireValue name
      return valueFragments (← get) name value quoted
    | .length => do
      let value ← requireValue name
      return [.text (natText value.length) quoted (!quoted)]
    | .otherwise orEmpty =>
      if isMissing orEmpty value then
        return .text [] quoted false :: (← expandPieces substitute (!quoted) word)
      else return valueFragments m name (value.getD []) quoted
    | .instead orEmpty =>
      if isMissing orEmpty value then return [.text [] quoted false]
      else return .text [] quoted false :: (← expandPieces substitute (!quoted) word)
    | .assign orEmpty =>
      if isMissing orEmpty value then
        if !isName name then failWith (name ++ ": bad variable name".toList)
        let text := plainTextOf (← expandPieces substitute false word)
        assign name text
        return [.text text quoted (!quoted)]
      else return valueFragments m name (value.getD []) quoted
    | .demand orEmpty =>
      if isMissing orEmpty value then
        let message := plainTextOf (← expandPieces substitute false word)
        failWith (demandText name orEmpty message)
      else return valueFragments m name (value.getD []) quoted
    | .dropFront longest => do
      let value ← requireValue name
      let pattern := markedText (← expandPieces substitute false word)
      return [.text (dropFront longest pattern value) quoted (!quoted)]
    | .dropBack longest => do
      let value ← requireValue name
      let pattern := markedText (← expandPieces substitute false word)
      return [.text (dropBack longest pattern value) quoted (!quoted)]
    | .unknown => failWith "Bad substitution".toList

def expandPieces (substitute : Option Node → Act Octets) (splits : Bool) :
    List Piece → Act (List Fragment)
  | [] => return []
  | piece :: pieces => do
    let first ← expandPiece substitute splits piece
    return first ++ (← expandPieces substitute splits pieces)

end

/-! ## Tildes -/

def homeOf? (m : Machine) (name : Octets) : Option Octets :=
  if name.isEmpty then (m.bindings.lookup "HOME".toList).bind Variable.value
  else if name = "root".toList then some "/root".toList
  else none

def replaceTildeIn? (m : Machine) (endsWord : Bool) : Octets → Option (Octets × Octets)
  | '~' :: text =>
    let name := text.takeWhile (· != '/')
    if name.length < text.length || endsWord then
      (homeOf? m name).map fun home => (home, text.drop name.length)
    else none
  | _ => none

def replaceTilde (m : Machine) : Word → Word
  | .literal text false :: word =>
    match replaceTildeIn? m word.isEmpty text with
    | some (home, rest) => .literal home true :: consLiteral rest false word
    | none => .literal text false :: word
  | word => word

def replaceTildes (m : Machine) (atHead : Bool) : Word → Word
  | .literal text false :: word =>
    let replaced (endsWord : Bool) (part : Octets) : Word :=
      match replaceTildeIn? m endsWord part with
      | some (home, rest) => [.literal home true, .literal rest false]
      | none => [.literal part false]
    let parts := Text.splitOn ':' text
    let last := parts.length - 1
    let pieces := parts.mapIdx fun i part =>
      if i = 0 && !atHead then [Piece.literal part false]
      else replaced (i != last || word.isEmpty) part
    pieces.intersperse [.literal [':'] false] |>.flatten |>.append (replaceTildes m false word)
  | piece :: word => piece :: replaceTildes m false word
  | [] => []

/-! ## Fields -/

structure Splitting where
  field : Option Marked := none
  afterBlank : Bool := false

def Machine.separators (m : Machine) : Octets :=
  match m.bindings.lookup "IFS".toList with
  | some { value := some ifs, .. } => ifs
  | _ => " \t\n".toList

def isBlank (c : Char) : Bool := c == ' ' || c == '\t' || c == '\n'

def splitText (separators : Octets) : Octets → Splitting → List Marked × Splitting
  | [], s => ([], s)
  | c :: cs, s =>
    let after (fields : List Marked) (s : Splitting) : List Marked × Splitting :=
      let (more, s) := splitText separators cs s
      (fields ++ more, s)
    if !separators.contains c then after [] { field := some (s.field.getD [] ++ [(c, false)]) }
    else
      match s.field with
      | some field => after [field] { afterBlank := isBlank c }
      | none =>
        if isBlank c then after [] s
        else if s.afterBlank then after [] {}
        else after [[]] {}

def splitFragments (separators : Octets) : List Fragment → Splitting → List Marked
  | [], s => s.field.toList
  | .boundary :: fragments, s => s.field.toList ++ splitFragments separators fragments {}
  | .text text quoted splits :: fragments, s =>
    if splits then
      let (fields, s) := splitText separators text s
      fields ++ splitFragments separators fragments s
    else if text.isEmpty && !quoted then splitFragments separators fragments s
    else
      splitFragments separators fragments { field := some (s.field.getD [] ++ marked quoted text) }

/-! ## File names -/

def entriesOf (m : Machine) (path : Octets) (hidden : Bool) : List Octets :=
  match m.files.locate (m.route path) with
  | .error _ => []
  | .ok place =>
    let names := (m.files.below place).filterMap fun entry =>
      match entry.1 with
      | [name] => some (octets name)
      | _ => none
    if hidden then ['.'] :: ['.', '.'] :: names else names.filter (·.head? != some '.')

def splitPath : Marked → List Marked
  | [] => [[]]
  | (c, quoted) :: cs =>
    match splitPath cs with
    | [] => [[(c, quoted)]]
    | first :: rest => if c = '/' then [] :: first :: rest else ((c, quoted) :: first) :: rest

def matchPaths (m : Machine) : (front : Octets) → List Marked → List Octets
  | front, [] => [front]
  | front, part :: parts =>
    let goOn (name : Octets) : List Octets :=
      if parts.isEmpty then [front ++ name]
      else
        let path := front ++ name ++ ['/']
        if m.hasKind .directory path then matchPaths m path parts else []
    if isPattern part then
      let hidden := part.head?.map (·.1) == some '.'
      let names := (entriesOf m (if front.isEmpty then ['.'] else front) hidden).filter
        (matchesPattern part)
      names.flatMap goOn
    else
      let name := plain part
      if parts.isEmpty && !name.isEmpty && !m.files.hasEntry (m.route (front ++ name)) then []
      else goOn name

def matchFiles (m : Machine) (field : Marked) : List Octets :=
  if m.hasOption 'f' || !isPattern field then [plain field]
  else
    match SortedSet.ofList (matchPaths m [] (splitPath field)) with
    | [] => [plain field]
    | paths => paths

/-! ## Words -/

def expandWord (substitute : Option Node → Act Octets) (word : Word) : Act (List Octets) := do
  let word := replaceTilde (← get) word
  let fragments ← expandPieces substitute false word
  let m ← get
  return (splitFragments m.separators fragments {}).flatMap (matchFiles m)

def expandWords (substitute : Option Node → Act Octets) : List Word → Act (List Octets)
  | [] => return []
  | word :: words => do
    let fields ← expandWord substitute word
    return fields ++ (← expandWords substitute words)

def expandText (substitute : Option Node → Act Octets) (word : Word) : Act Octets := do
  return plainTextOf (← expandPieces substitute false (replaceTilde (← get) word))

def expandValue (substitute : Option Node → Act Octets) (word : Word) : Act Octets := do
  let m ← get
  return plainTextOf (← expandPieces substitute false (replaceTildes m true word))

def expandPattern (substitute : Option Node → Act Octets) (word : Word) : Act Marked := do
  return markedText (← expandPieces substitute false (replaceTilde (← get) word))

end NextRelease.Shell
