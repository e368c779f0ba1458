import NextRelease.Shell.Difference
import NextRelease.Shell.Pattern
import NextRelease.Shell.Tool.Compare
import NextRelease.Shell.Tool.Filing
import NextRelease.Shell.Tool.Status

/-!
What tells two files apart, line by line: as commands that change the one into the other, or as the
lines themselves with some lines around them.
-/

namespace NextRelease.Shell.Tool

namespace Diff

inductive Style where
  | normal
  | unified (context : Nat)
  | context (context : Nat)
  | editor
  | forwardEditor
  | revisions
  deriving DecidableEq

structure Side where
  heading : Octets
  lines : List Octets

structure Job where
  style : Style
  options : Options
  words : List Octets

def keyOf (options : Options) (line : Octets) : Octets :=
  let ignoresEnd := options.has 'b' || options.has 'w' || options.has 'Z'
  let text := if ignoresEnd then withoutBreak line else line
  let isSpace (c : Char) : Bool := c == ' ' || (9 ≤ c.toNat && c.toNat ≤ 13)
  let trimmed (text : Octets) : Octets := (text.reverse.dropWhile isSpace).reverse
  let text := if options.has 'w' then text.filter fun c => !isSpace c
    else if options.has 'b' then
      ((trimmed text).splitBy fun a b => isSpace a && isSpace b).flatMap fun run =>
        if run.all isSpace then [' '] else run
    else if options.has 'Z' then trimmed text
    else text
  if options.has 'i' then text.map Char.toLower else text

def numbered (texts : List Octets) : List Nat :=
  let distinct := texts.foldl
    (fun (found : List Octets) text => if found.contains text then found else text :: found) []
  texts.map fun text => distinct.idxOf text

/-- The hunks between two files. -/
def hunksOf (style : Style) (options : Options) (left right : List Octets) :
    List Difference.Hunk :=
  let horizon := match style with
    | .unified n | .context n => n
    | _ => 0
  let numbers := numbered ((left ++ right).map (keyOf options))
  let found := Difference.hunks horizon (numbers.take left.length) (numbers.drop left.length)
  if options.has 'B' then
    found.filter fun hunk =>
      let lines := (left.drop hunk.left).take hunk.deleted ++
        (right.drop hunk.right).take hunk.inserted
      lines.any fun line => line != ['\n']
  else found

def marked (mark line : Octets) : Octets :=
  mark ++ line ++ if line.getLast? == some '\n' then []
    else "\n\\ No newline at end of file\n".toList

def range (first count : Nat) : Octets :=
  if count ≤ 1 then natText (first + count)
  else natText (first + 1) ++ ',' :: natText (first + count)

def linesIn (lines : List Octets) (first count : Nat) : List Octets := (lines.drop first).take count

def normalHunk (left right : List Octets) (hunk : Difference.Hunk) : Octets :=
  let letter := if hunk.inserted = 0 then 'd' else if hunk.deleted = 0 then 'a' else 'c'
  let mark (sign : Char) (lines : List Octets) : Octets := lines.flatMap (marked [sign, ' '])
  range hunk.left hunk.deleted ++ letter :: range hunk.right hunk.inserted ++ '\n' ::
    mark '<' (linesIn left hunk.left hunk.deleted) ++
    (if letter = 'c' then "---\n".toList else []) ++
    mark '>' (linesIn right hunk.right hunk.inserted)

def groupsOf (context : Nat) : List Difference.Hunk → List (List Difference.Hunk)
  | [] => []
  | hunk :: hunks =>
    match groupsOf context hunks with
    | [] => [[hunk]]
    | [] :: groups => [hunk] :: groups
    | (next :: group) :: groups =>
      if next.left - (hunk.left + hunk.deleted) ≤ 2 * context then
        (hunk :: next :: group) :: groups
      else [hunk] :: (next :: group) :: groups

structure Extent where
  left : Nat
  leftEnd : Nat
  right : Nat
  rightEnd : Nat

def extentOf (context : Nat) (left right : List Octets) (group : List Difference.Hunk) : Extent :=
  match group.head?, group.getLast? with
  | some first, some last =>
    let before := min context (min first.left first.right)
    let leftEnd := last.left + last.deleted
    let rightEnd := last.right + last.inserted
    let behind := min context (min (left.length - leftEnd) (right.length - rightEnd))
    ⟨first.left - before, leftEnd + behind, first.right - before, rightEnd + behind⟩
  | _, _ => ⟨0, 0, 0, 0⟩

def unifiedLines (left right : List Octets) (stop : Nat) : (place : Nat) → List Difference.Hunk →
    Octets
  | place, [] => (linesIn left place (stop - place)).flatMap (marked [' '])
  | place, hunk :: hunks =>
    (linesIn left place (hunk.left - place)).flatMap (marked [' ']) ++
      (linesIn left hunk.left hunk.deleted).flatMap (marked ['-']) ++
      (linesIn right hunk.right hunk.inserted).flatMap (marked ['+']) ++
      unifiedLines left right stop (hunk.left + hunk.deleted) hunks

def unifiedGroup (context : Nat) (left right : List Octets) (group : List Difference.Hunk) :
    Octets :=
  let e := extentOf context left right group
  let range (first last : Nat) : Octets :=
    if last = first then natText first ++ ",0".toList
    else if last = first + 1 then natText last
    else natText (first + 1) ++ ',' :: natText (last - first)
  "@@ -".toList ++ range e.left e.leftEnd ++ " +".toList ++ range e.right e.rightEnd ++
    " @@\n".toList ++ unifiedLines left right e.leftEnd e.left group

def contextLines (lines : List Octets) (stop : Nat) :
    (place : Nat) → List (Nat × Nat × Char) → Octets
  | place, [] => (linesIn lines place (stop - place)).flatMap (marked [' ', ' '])
  | place, (first, count, mark) :: changed =>
    (linesIn lines place (first - place)).flatMap (marked [' ', ' ']) ++
      (linesIn lines first count).flatMap (marked [mark, ' ']) ++
      contextLines lines stop (first + count) changed

def contextGroup (context : Nat) (left right : List Octets) (group : List Difference.Hunk) :
    Octets :=
  let e := extentOf context left right group
  let range (first last : Nat) : Octets :=
    if last ≤ first + 1 then natText last
    else natText (first + 1) ++ ',' :: natText last
  let mark (hunk : Difference.Hunk) (alone : Char) : Char :=
    if hunk.deleted != 0 && hunk.inserted != 0 then '!' else alone
  let deleted := group.map fun hunk => (hunk.left, hunk.deleted, mark hunk '-')
  let inserted := group.map fun hunk => (hunk.right, hunk.inserted, mark hunk '+')
  let shownLines (lines : List Octets) (first last : Nat) (changed : List (Nat × Nat × Char)) :
      Octets :=
    if changed.all fun c => c.2.1 == 0 then [] else contextLines lines last first changed
  "***************\n*** ".toList ++ range e.left e.leftEnd ++ " ****\n".toList ++
    shownLines left e.left e.leftEnd deleted ++
    "--- ".toList ++ range e.right e.rightEnd ++ " ----\n".toList ++
    shownLines right e.right e.rightEnd inserted

def editorHunk (forward : Bool) (right : List Octets) (hunk : Difference.Hunk) : Octets :=
  let letter := if hunk.inserted = 0 then 'd' else if hunk.deleted = 0 then 'a' else 'c'
  let place := range hunk.left hunk.deleted
  let place := if forward then place.map fun c => if c = ',' then ' ' else c else place
  (if forward then letter :: place else place ++ [letter]) ++ ['\n'] ++
    if letter = 'd' then []
    else (linesIn right hunk.right hunk.inserted).flatten ++ ".\n".toList

def revisionHunk (right : List Octets) (hunk : Difference.Hunk) : Octets :=
  let count (n : Nat) : Octets := ' ' :: natText n ++ ['\n']
  (if hunk.deleted = 0 then [] else 'd' :: natText (hunk.left + 1) ++ count hunk.deleted) ++
    if hunk.inserted = 0 then []
    else 'a' :: natText (hunk.left + hunk.deleted) ++ count hunk.inserted ++
      (linesIn right hunk.right hunk.inserted).flatten

def written (style : Style) (left right : Side) (hunks : List Difference.Hunk) : Octets :=
  let heads (a b : String) : Octets :=
    a.toList ++ left.heading ++ '\n' :: b.toList ++ right.heading ++ ['\n']
  match style with
  | .normal => hunks.flatMap (normalHunk left.lines right.lines)
  | .unified n =>
    heads "--- " "+++ " ++ (groupsOf n hunks).flatMap (unifiedGroup n left.lines right.lines)
  | .context n =>
    heads "*** " "--- " ++ (groupsOf n hunks).flatMap (contextGroup n left.lines right.lines)
  | .editor => hunks.reverse.flatMap (editorHunk false right.lines)
  | .forwardEditor => hunks.flatMap (editorHunk true right.lines)
  | .revisions => hunks.flatMap (revisionHunk right.lines)

/-! ## Files -/

def note (status : Nat) : Act Unit := modify fun m => { m with status := max m.status status }

def readSide (name : Octets) (job : Job) (path : Octets) : Act (Option Octets) := do
  match ← content path with
  | .ok text => return some text
  | .error fault =>
    match fault, job.options.has 'N' with
    | .file .notFound, true => return some []
    | _, _ => do
      report name (path ++ ": ".toList ++ fault.text)
      note 2
      return none

/-- Compares two files; `inside` says that they were found in directories. -/
def compareFiles (name : Octets) (job : Job) (inside : Bool) (left right : Octets) : Act Unit := do
  let m ← get
  let isMissing (path : Octets) : Bool := !isStandard path && match m.status? path with
    | .error .notFound => true
    | _ => false
  let some a ← readSide name job left | do
    if isMissing right then let _ ← readSide name job right
    return
  let some b ← if left == right then pure (some a) else readSide name job right | return
  let both (front middle back : String) : Octets :=
    front.toList ++ left ++ middle.toList ++ right ++ back.toList
  let m ← get
  let isBinary := !job.options.has 'a' &&
    ((a.take 32768).contains '\x00' || (b.take 32768).contains '\x00')
  let (aLines, bLines) := (lines a, lines b)
  let found := if a == b then []
    else if isBinary || job.options.has 'q' then
      if isBinary then [⟨0, 1, 0, 1⟩] else hunksOf job.style job.options aLines bLines
    else hunksOf job.style job.options aLines bLines
  if found.isEmpty then
    if job.options.has 's' then print (both "Files " " and " " are identical\n")
  else
    note 1
    if job.options.has 'q' then print (both "Files " " and " " differ\n")
    else if isBinary then print (both "Binary files " " and " " differ\n")
    else
      let time (path : Octets) : Octets :=
        if isMissing path then fullTime m 0
        else
          match m.status? path, m.files.locate (m.route path) with
          | .ok _, .ok place => fullTime m (m.files.timesAt place).changed
          | _, _ => fullTime m m.files.now
      let labels := job.options.values 'L'
      let heading (i : Nat) (path : Octets) : Octets :=
        (labels[i]?).getD (path ++ '\t' :: time path)
      if inside then
        print (both (String.ofList (Text.joinWith ' ' ("diff".toList :: job.words) ++ [' ']))
          " " "\n")
      print (written job.style ⟨heading 0 left, aLines⟩ ⟨heading 1 right, bLines⟩ found)

def namesAt (m : Machine) (path : Octets) : List Octets :=
  match m.files.locate (m.route path) with
  | .error _ => []
  | .ok place => namesIn m place

def compareDirectories (name : Octets) (job : Job) : (fuel : Nat) → (left right : Octets) → Act Unit
  | 0, _, _ => return ()
  | fuel + 1, left, right => do
    let m ← get
    let isLeftOut (entry : Octets) : Bool :=
      (job.options.values 'x').any fun pattern =>
        matchesPattern (NextRelease.Shell.marked false pattern) entry
    let (as, bs) := (namesAt m left, namesAt m right)
    let all := (as ++ bs.filter fun n => !as.contains n).mergeSort fun a b => (compare a b).isLE
    (all.filter fun entry => !isLeftOut entry).forM fun entry => do
      let (a, b) := (joined left entry, joined right entry)
      let only (directory : Octets) : Act Unit := do
        note 1
        print ("Only in ".toList ++ directory ++ ": ".toList ++ entry ++ ['\n'])
      let kind (path : Octets) : Option FileKind := (m.status? path).toOption
      match kind a, kind b with
      | some .directory, some .directory =>
        if job.options.has 'r' then compareDirectories name job fuel a b
        else print ("Common subdirectories: ".toList ++ a ++ " and ".toList ++ b ++ ['\n'])
      | none, some .directory =>
        if job.options.has 'r' && job.options.has 'N' then compareDirectories name job fuel a b
        else only right
      | some .directory, none =>
        if job.options.has 'r' && job.options.has 'N' then compareDirectories name job fuel a b
        else only left
      | none, _ => if job.options.has 'N' then compareFiles name job true a b else only right
      | _, none => if job.options.has 'N' then compareFiles name job true a b else only left
      | some .directory, some _ => do
        note 1
        print ("File ".toList ++ a ++ " is a directory while file ".toList ++ b ++
          " is a regular file\n".toList)
      | some _, some .directory => do
        note 1
        print ("File ".toList ++ a ++ " is a regular file while file ".toList ++ b ++
          " is a directory\n".toList)
      | some _, some _ => compareFiles name job true a b

/-! ## Calls -/

def flags : List Flag :=
  plainFlags "0123456789ucenfdtTpalyH" ++ valueFlags "UCLxWFI" ++
    [⟨'q', "brief", false⟩, ⟨'s', "report-identical-files", false⟩, ⟨'i', "ignore-case", false⟩,
      ⟨'b', "ignore-space-change", false⟩, ⟨'w', "ignore-all-space", false⟩,
      ⟨'Z', "ignore-trailing-space", false⟩, ⟨'B', "ignore-blank-lines", false⟩,
      ⟨'E', "ignore-tab-expansion", false⟩, ⟨'r', "recursive", false⟩, ⟨'N', "new-file", false⟩,
      ⟨'a', "text", false⟩, ⟨'L', "label", true⟩, ⟨'x', "exclude", true⟩,
      ⟨'d', "minimal", false⟩, ⟨'e', "ed", false⟩, ⟨'f', "forward-ed", false⟩,
      ⟨'n', "rcs", false⟩, ⟨'M', "normal", false⟩, ⟨'K', "color", true⟩,
      ⟨'X', "strip-trailing-cr", false⟩]

def plainWord (word : Octets) : Octets :=
  match Text.cut '=' word with
  | (key, value) =>
    match String.ofList key, value with
    | "--unified", none => "-u".toList
    | "--unified", some value => "-U".toList ++ value
    | "--context", none => "-c".toList
    | "--context", some value => "-C".toList ++ value
    | "--color", none => "--color=auto".toList
    | _, _ => word

def styleOf (options : Options) : Style :=
  let digits := (options.map (·.1)).filter Char.isDigit
  let lines (value : Octets) : Nat :=
    if !value.isEmpty then readNat value else if digits.isEmpty then 3 else readNat digits
  match (options.filter fun option => "uUcCenfM".toList.contains option.1).getLast? with
  | some ('u', _) => .unified (lines [])
  | some ('U', value) => .unified (lines value)
  | some ('c', _) => .context (lines [])
  | some ('C', value) => .context (lines value)
  | some ('e', _) => .editor
  | some ('f', _) => .forwardEditor
  | some ('n', _) => .revisions
  | _ => .normal

end Diff

def diff : Tool := fun name arguments => do
  finish 0
  let words := arguments.map Diff.plainWord
  match readOptions false Diff.flags (words.length + 1) words with
  | .error text => cannotCompare name text
  | .ok (options, operands) =>
    match operands with
    | [] => cannotCompare name ("missing operand after '".toList ++
        (arguments.getLast?.getD name) ++ ['\x27'])
    | [_] => cannotCompare name ("missing operand after '".toList ++
        (arguments.getLast?.getD name) ++ ['\x27'])
    | [left, right] => do
      let m ← get
      let isOption (word : Octets) : Bool := word != left && word != right
      let job : Diff.Job :=
        { style := Diff.styleOf options, options
          words := (arguments.filter isOption).map quotedIfPeculiar }
      let isDirectory (path : Octets) : Bool := !isStandard path && m.hasKind .directory path
      let isMissing (path : Octets) : Bool :=
        !isStandard path && (descriptorOf? path).isNone && (m.status? path).toOption.isNone
      let missing := [left, right].filter isMissing
      if (isDirectory left || isDirectory right) && !missing.isEmpty then
        missing.forM fun path => fail 2 name (path ++ ": No such file or directory".toList)
        return
      match isDirectory left, isDirectory right with
      | true, true => Diff.compareDirectories name job 64 left right
      | true, false => Diff.compareFiles name job false (joined left (baseOf right)) right
      | false, true => Diff.compareFiles name job false left (joined right (baseOf left))
      | false, false => Diff.compareFiles name job false left right
    | _ :: _ :: extra :: _ => cannotCompare name ("extra operand '".toList ++ extra ++ ['\x27'])

end NextRelease.Shell.Tool
