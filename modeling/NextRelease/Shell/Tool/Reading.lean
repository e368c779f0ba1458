import NextRelease.Shell.Test
import NextRelease.Shell.Tool.Basic
import NextRelease.Shell.Tool.Regex

/-!
Tools that hand whole texts on: as they are, to several files, or backwards.
-/

namespace NextRelease.Shell.Tool

/-! ## Whole texts -/

def visible (tabs : Bool) (c : Char) : Octets :=
  let low (n : Nat) : Octets :=
    if n < 32 then ['^', Char.ofNat (n + 64)] else if n = 127 then "^?".toList else [Char.ofNat n]
  if c = '\n' || (c = '\t' && !tabs) then [c]
  else if c.toNat < 128 then low c.toNat
  else "M-".toList ++ low (c.toNat - 128)

structure LinesSoFar where
  count : Nat := 0
  afterEmpty : Bool := false
  inLine : Bool := false

def showLines (options : Options) : LinesSoFar → List Octets → Octets × LinesSoFar
  | soFar, [] => ([], soFar)
  | soFar, line :: lines =>
    let isEmpty := line == ['\n'] && !soFar.inLine
    if isEmpty && soFar.afterEmpty && options.has 's' then showLines options soFar lines
    else
      let isNumbered := !soFar.inLine && if options.has 'b' then !isEmpty else options.has 'n'
      let count := if isNumbered then soFar.count + 1 else soFar.count
      let front := if isNumbered then padLeft 6 (natText count) ++ ['\t'] else []
      let tabs := options.has 'T' || options.has 'A' || options.has 't'
      let shows := options.has 'v' || options.has 'A' || options.has 'e' || options.has 't'
      let ends := options.has 'E' || options.has 'A' || options.has 'e'
      let isWhole := line.getLast? == some '\n'
      let text := withoutBreak line
      let (text, return_) := if ends && isWhole && !shows && text.getLast? == some '\r' then
        (text.dropLast, "^M".toList) else (text, [])
      let text := if shows then text.flatMap (visible tabs)
        else if tabs then text.flatMap fun c => if c = '\t' then "^I".toList else [c]
        else text
      let back := if isWhole then (if ends then ['$', '\n'] else ['\n']) else []
      let (more, soFar) := showLines options ⟨count, isEmpty, !isWhole⟩ lines
      (front ++ text ++ return_ ++ back ++ more, soFar)

def isOutput (m : Machine) (path : Octets) : Bool :=
  match m.channel? 1, m.files.locate (m.route path) with
  | some (.file place), .ok source =>
    (descriptorAt? path).isNone && (m.files.namesAt place).contains source &&
      (Test.fileContent? m path).any fun content => content.size != 0
  | _, _ => false

def cat : Tool :=
  withOptions false
    [⟨'n', "number", false⟩, ⟨'b', "number-nonblank", false⟩, ⟨'s', "squeeze-blank", false⟩,
      ⟨'E', "show-ends", false⟩, ⟨'T', "show-tabs", false⟩, ⟨'A', "show-all", false⟩,
      ⟨'v', "show-nonprinting", false⟩, ⟨'e', "", false⟩, ⟨'t', "", false⟩, ⟨'u', "", false⟩]
    1 fun name options operands => do
      if ((← get).channel? 1).isNone then
        fail 1 name "standard output: Bad file descriptor".toList
      else
        let _ ← (inputs operands).foldlM
          (fun soFar path => do
            if isOutput (← get) path then
              fail 1 name (quotedIfPeculiar path ++ ": input file is output file".toList)
              return soFar
            match ← content path with
            | .ok text =>
              if options.all (·.1 == 'u') then
                print text
                return soFar
              else
                let (text, soFar) := showLines options soFar (lines text)
                print text
                return soFar
            | .error fault => do
              fail 1 name (quotedIfPeculiar path ++ ": ".toList ++ fault.text)
              return soFar)
          ({} : LinesSoFar)
        complainIfClosed name operands "closing standard input".toList

def outputErrorModes : List (List String × Unit) :=
  ["warn", "warn-nopipe", "exit", "exit-nopipe"].map fun mode => ([mode], ())

/-- Appends what is read to files and to the output. -/
def tee : Tool :=
  withOptions false
    [⟨'a', "append", false⟩, ⟨'i', "ignore-interrupts", false⟩, ⟨'p', "", false⟩,
      ⟨'P', "output-error", .maybe⟩] 1
    fun name options operands => do
      let modes ← ((options.values 'P').filter (!·.isEmpty)).mapM
        (choose 1 name (octets "‘--output-error’") outputErrorModes)
      if modes.all Option.isSome then
        let starts ← operands.mapM fun path => do
          let m ← get
          if (descriptorOf? path).isSome || m.hasKind .device path then return some []
          let before ← if options.has 'a' then content path else pure (.ok [])
          let before := before.toOption.getD []
          match ← writeFile path before with
          | .ok () => return some before
          | .error fault => do
            fail 1 name (about path fault)
            return none
        if ((← get).channel? 0).isNone then
          fail 1 name ("read error: ".toList ++ closedText)
          fail 1 name ("standard input: ".toList ++ closedText)
        let text ← readAll 0
        print text
        match (← get).lost with
        | some reason => do
          fail 1 name ("'standard output': ".toList ++ reason)
          modify fun m => { m with lost := none }
        | none => pure ()
        (operands.zip starts).forM fun entry => do
          match entry.2 with
          | some before => do
            let _ ← writeFile entry.1 (before ++ text)
          | none => pure ()

def splitAtPlaces : (passed : Nat) → Octets → List Nat → List Octets
  | _, text, [] => [text]
  | passed, text, place :: places =>
    text.take (place - passed) :: splitAtPlaces place (text.drop (place - passed)) places

def separatorsBefore (matches? : Octets → Option Nat) (text : Octets) :
    (start last : Nat) → List (Nat × Nat)
  | 0, _ => []
  | start + 1, last =>
    match matches? ((text.take last).drop start) with
    | some size =>
      (start, start + size) :: separatorsBefore matches? text start start
    | none => separatorsBefore matches? text start last

def recordsOf (matches? : Octets → Option Nat) (before : Bool) (text : Octets) : List Octets :=
  let found := (separatorsBefore matches? text text.length text.length).reverse
  splitAtPlaces 0 text (found.map fun place => if before then place.1 else place.2)

def separatorAt? (separator : Octets) (pattern? : Option Regex) (text : Octets) : Option Nat :=
  match pattern? with
  | some regex =>
    ((Regex.matchAt? {} regex [] text).map fun found => found.text.length).filter (0 < ·)
  | none => if separator.isPrefixOf text then some separator.length else none

def tac : Tool :=
  withOptions false [⟨'b', "before", false⟩, ⟨'r', "regex", false⟩, ⟨'s', "separator", true⟩] 1
    fun name options operands => do
      let separator := (options.value? 's').getD ['\n']
      let separator := if separator.isEmpty then ['\x00'] else separator
      let pattern := if options.has 'r' then (Regex.read .basic separator).map some else .ok none
      match pattern with
      | .error reason => fail 1 name reason.toList
      | .ok pattern? => do
        let isPlain := separator == ['\n'] && !options.has 'b' && !options.has 'r'
        let texts ← (inputs operands).mapM fun path => do
          match ← readWhole (content path) with
          | .ok text =>
            return (if isPlain then lines text
              else recordsOf (separatorAt? separator pattern?) (options.has 'b') text).reverse
          | .error (.file .isADirectory) => do
            fail 1 name (quotedIfPeculiar path ++ ": read error: Invalid argument".toList)
            return []
          | .error .closed => do
            fail 1 name "'standard input': read error: Bad file descriptor".toList
            return []
          | .error fault => do
            fail 1 name ("failed to open ".toList ++ shellQuoted path ++ " for reading: ".toList ++
              fault.text)
            return []
        print (texts.flatten.flatten)
        complainIfClosed name operands ['-']

def characters (text : Octets) : List Octets :=
  match String.fromUTF8? (toBytes text) with
  | some s => s.toList.map fun c => octets (String.ofList [c])
  | none => text.map fun c => [c]

def rev : Tool :=
  withOptions false [] 1 fun name _ operands => do
    let texts ← (inputs operands).mapM fun path => do
      match ← content path with
      | .ok text =>
        return (lines text).flatMap fun line =>
          (characters (withoutBreak line)).reverse.flatten ++
            line.drop (withoutBreak line).length
      | .error fault => do
        fail 1 name ("cannot open ".toList ++ path ++ ": ".toList ++ fault.text)
        return []
    print texts.flatten

end NextRelease.Shell.Tool
