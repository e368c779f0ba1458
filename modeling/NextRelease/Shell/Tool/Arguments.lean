import NextRelease.Shell.Expand
import NextRelease.Shell.Tool.Basic

/-!
Bringing the arguments of a call into the order in which scripts read them: the options, each with
its value behind it, and after two hyphens the operands.
-/

namespace NextRelease.Shell.Tool

namespace Arguments

structure Rule where
  name : Octets
  letters : Octets := []
  names : List Flag := []
  isAlternative : Bool := false
  isQuiet : Bool := false
  isSilent : Bool := false
  isQuoted : Bool := true
  isOther : Bool := false

inductive Order where
  | permuted
  | required
  | inPlace

def lettersOf : Octets → List Flag
  | [] => []
  | ':' :: cs => lettersOf cs
  | letter :: ':' :: ':' :: cs => { letter, takesValue := .maybe } :: lettersOf cs
  | letter :: ':' :: cs => { letter, takesValue := .always } :: lettersOf cs
  | letter :: cs => { letter } :: lettersOf cs

def written (rule : Rule) (text : Octets) : Octets :=
  if !rule.isQuoted then text
  else
    ['\x27'] ++ (text.flatMap fun c =>
      if c = '\x27' then "'\\''".toList
      else if rule.isOther && c = '\\' then "\\\\".toList
      else if rule.isOther && c = '!' then "'\\!'".toList
      else if rule.isOther && c = '\n' then "\\n".toList
      else if rule.isOther && isBlank c then ['\x27', '\\', c, '\x27']
      else [c]) ++ ['\x27']

structure Read where
  out : Octets := []
  operands : List Octets := []
  mistakes : List Octets := []
  isMistaken : Bool := false

def Read.withOut (r : Read) (text : Octets) : Read := { r with out := text ++ r.out }

def Read.withMistake (r : Read) (text : Octets) : Read :=
  { r with mistakes := text :: r.mistakes, isMistaken := true }

def readLetters (rule : Rule) (flags : List Flag) (goOn : List Octets → Read)
    (words : List Octets) : Octets → Read
  | [] => goOn words
  | c :: cs =>
    let refuse (r : Read) (text : String) : Read := r.withMistake (text.toList ++ [c, '\x27'])
    let shown : Octets := [' ', '-', c]
    let valued (value : Octets) : Octets := shown ++ ' ' :: written rule value
    match flags.find? fun flag => flag.letter == c with
    | none => refuse (readLetters rule flags goOn words cs) "invalid option -- '"
    | some flag =>
      match flag.takesValue, cs, words with
      | .never, _, _ => (readLetters rule flags goOn words cs).withOut shown
      | .maybe, _, _ => (goOn words).withOut (valued cs)
      | .always, [], value :: words => (goOn words).withOut (valued value)
      | .always, [], [] => refuse (goOn []) "option requires an argument -- '"
      | .always, _, _ => (goOn words).withOut (valued cs)

/-- Reads an option that is written out behind some hyphens. -/
def readName (rule : Rule) (hyphens : Octets) (goOn : List Octets → Read) (words : List Octets)
    (word : Octets) : Read :=
  let (name, value) := Text.cut '=' word
  match flagFor rule.names word name with
  | .error text => (goOn words).withMistake text
  | .ok flag =>
    let shown := " --".toList ++ flag.name.toList
    let quoted := '\x27' :: hyphens ++ flag.name.toList ++ ['\x27']
    let valued (value : Octets) : Octets := shown ++ ' ' :: written rule value
    match flag.takesValue, value, words with
    | .never, some _, _ =>
      (goOn words).withMistake ("option ".toList ++ quoted ++ " doesn't allow an argument".toList)
    | .never, none, _ => (goOn words).withOut shown
    | _, some value, _ => (goOn words).withOut (valued value)
    | .maybe, none, _ => (goOn words).withOut (valued [])
    | .always, none, value :: words => (goOn words).withOut (valued value)
    | .always, none, [] =>
      (goOn []).withMistake ("option ".toList ++ quoted ++ " requires an argument".toList)

def read (rule : Rule) (order : Order) (flags : List Flag) : (fuel : Nat) → List Octets → Read
  | 0, words => { operands := words }
  | _, [] => {}
  | fuel + 1, word :: words =>
    let goOn : List Octets → Read := read rule order flags fuel
    match word with
    | ['-', '-'] => { operands := words }
    | '-' :: '-' :: name => readName rule ['-', '-'] goOn words name
    | '-' :: c :: cs =>
      let isLetter := flags.any fun flag => flag.letter == c
      let fits := rule.names.any fun flag => (Text.cut '=' (c :: cs)).1.isPrefixOf flag.name.toList
      if rule.isAlternative && (!cs.isEmpty || !isLetter) && (fits || !isLetter) then
        readName rule ['-'] goOn words (c :: cs)
      else readLetters rule flags goOn words (c :: cs)
    | _ =>
      match order with
      | .required => { operands := word :: words }
      | .inPlace => (goOn words).withOut (' ' :: written rule word)
      | .permuted =>
        let r := goOn words
        { r with operands := word :: r.operands }

def readNames (text : Octets) : Except Octets (List Flag) :=
  let isBetween (c : Char) : Bool := c == ',' || isBlank c
  let words := (text.splitBy fun a b => isBetween a == isBetween b).filter fun word =>
    !word.any isBetween
  words.mapM fun word =>
    let name := word.reverse.dropWhile (· == ':') |>.reverse
    let colons := word.length - name.length
    if name.isEmpty then .error "empty long option after -l or --long argument".toList
    else
      .ok { letter := ' ', name := String.ofList name
            takesValue := if colons = 0 then .never else if colons = 1 then .always else .maybe }

def flags : List Flag :=
  [⟨'a', "alternative", false⟩, ⟨'l', "longoptions", true⟩, ⟨'n', "name", true⟩,
    ⟨'o', "options", true⟩, ⟨'q', "quiet", false⟩, ⟨'Q', "quiet-output", false⟩,
    ⟨'s', "shell", true⟩, ⟨'T', "test", false⟩, ⟨'u', "unquoted", false⟩]

def readRule (name : Octets) (options : Options) : Except Octets Rule := do
  let names ← (options.values 'l').mapM readNames
  let shells ← (options.values 's').mapM fun word =>
    match String.ofList word with
    | "sh" | "bash" => pure false
    | "csh" | "tcsh" => pure true
    | _ => throw "unknown shell after -s or --shell argument".toList
  return { name := (options.value? 'n').getD name, names := names.flatten
           isAlternative := options.has 'a', isQuiet := options.has 'q'
           isSilent := options.has 'Q', isQuoted := !options.has 'u'
           isOther := shells.getLast? == some true }

def write (rule : Rule) (letters : Octets) (words : List Octets) : Act Unit := do
  let (order, letters) := match letters with
    | '+' :: cs => (Order.required, cs)
    | '-' :: cs => (.inPlace, cs)
    | cs => (.permuted, cs)
  let r := read rule order (lettersOf letters) (words.length + 1) words
  if !rule.isQuiet && letters.head? != some ':' then r.mistakes.forM (report rule.name)
  else if !rule.isQuiet then
    (r.mistakes.filter fun text => !("option requires".toList.isPrefixOf text ||
      " requires an argument".toList.isSuffixOf text || "invalid".toList.isPrefixOf text ||
      "unrecognized".toList.isPrefixOf text)).forM (report rule.name)
  if !rule.isSilent then
    print (r.out ++ " --".toList ++ (r.operands.flatMap fun word => ' ' :: written rule word) ++
      ['\n'])
  if r.isMistaken then finish 1

end Arguments

def getopt : Tool := fun name arguments => do
  finish 0
  match arguments with
  | [] => misuse 2 name "missing optstring argument".toList
  | first :: words =>
    if first.head? != some '-' then
      Arguments.write { name, isQuoted := false }
        (first.dropWhile fun c => c == '-' || c == '+') words
    else
      match readOptions true Arguments.flags (arguments.length + 1) arguments with
      | .error text => misuse 2 name text
      | .ok (options, words) =>
        if options.has 'T' then finish 4
        else
          match Arguments.readRule name options, options.value? 'o', words with
          | .error text, _, _ => misuse 2 name text
          | .ok rule, some letters, words => Arguments.write rule letters words
          | .ok rule, none, letters :: words => Arguments.write rule letters words
          | .ok _, none, [] => misuse 2 name "missing optstring argument".toList

end NextRelease.Shell.Tool
