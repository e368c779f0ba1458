import NextRelease.Shell.Tool.Basic

/-!
What tools share that work line by line, and the columns of lines.
-/

namespace NextRelease.Shell.Tool

def partsBefore (ending : Char) (text : Octets) : List Octets :=
  let parts := Text.splitOn ending text
  if parts.getLast? == some [] then parts.dropLast else parts

/-! ## Columns -/

inductive ColumnUnit where
  | field
  | char
  deriving DecidableEq

def ColumnUnit.pick {α : Type} (u : ColumnUnit) (field char : α) : α :=
  match u with
  | .field => field
  | .char => char

structure ColumnRange where
  first : Nat
  last : Option Nat

def ColumnRange.has (n : Nat) (r : ColumnRange) : Bool :=
  r.first ≤ n && r.last.all fun last => n ≤ last

structure PartRange where
  before : Octets := []
  after : Option Octets := none

def PartRange.finish (u : ColumnUnit) (r : PartRange) : Except Octets ColumnRange :=
  let fromOne : Octets :=
    (u.pick "fields" "byte/character positions" ++ " are numbered from 1").toList
  let first := readNat r.before
  match r.after with
  | none => if first = 0 then .error fromOne else .ok ⟨first, some first⟩
  | some after =>
    if r.before.isEmpty && after.isEmpty then
      .error "invalid range with no endpoint: -".toList
    else
      let first := if r.before.isEmpty then 1 else first
      if after.isEmpty then .ok ⟨first, none⟩
      else if readNat after < first then .error "invalid decreasing range".toList
      else .ok ⟨first, some (readNat after)⟩

def readColumns (u : ColumnUnit) : PartRange → Octets → Except Octets (List ColumnRange)
  | r, [] => do return [← r.finish u]
  | r, c :: cs =>
    if c = '-' then
      if r.after.isSome then
        .error (u.pick "invalid field range" "invalid byte or character range").toList
      else if !r.before.isEmpty && readNat r.before = 0 then
        ({} : PartRange).finish u |>.map fun _ => []
      else readColumns u { r with after := some [] } cs
    else if c = ',' || c = ' ' || c = '\t' then do
      let range ← r.finish u
      return range :: (← readColumns u {} cs)
    else if c.isDigit then
      readColumns u
        (match r.after with
        | none => { r with before := r.before ++ [c] }
        | some after => { r with after := some (after ++ [c]) }) cs
    else
      .error ((u.pick "invalid field value " "invalid byte/character position ").toList ++
        inQuotes (c :: cs))

/-- Why the options of a call do not go together, in the order in which that shows. -/
def columnMisuse? (options : Options) : Option String :=
  let lists := options.filter fun option => "bcf".toList.contains option.1
  if 1 < lists.length then some "only one list may be specified"
  else if (options.values 'd').any fun value => 1 < value.length then
    some "the delimiter must be a single character"
  else if lists.isEmpty then some "you must specify a list of bytes, characters, or fields"
  else if options.has 'f' then none
  else if options.has 'd' then
    some "an input delimiter may be specified only when operating on fields"
  else if options.has 's' then
    some "suppressing non-delimited lines makes sense\n\tonly when operating on fields"
  else none

def cut : Tool :=
  withOptions false
    [⟨'b', "bytes", true⟩, ⟨'c', "characters", true⟩, ⟨'f', "fields", true⟩,
      ⟨'d', "delimiter", true⟩, ⟨'n', "", false⟩, ⟨'s', "only-delimited", false⟩,
      ⟨'O', "output-delimiter", true⟩, ⟨'C', "complement", false⟩, ⟨'z', "zero-terminated", false⟩]
    1 fun name options operands => do
      let (u, list) := match options.value? 'f' with
        | some list => (ColumnUnit.field, list)
        | none => (.char, (options.value? 'b').getD ((options.value? 'c').getD []))
      match columnMisuse? options, readColumns u {} list with
      | some reason, _ => misuse 1 name reason.toList
      | none, .error reason => misuse 1 name reason
      | none, .ok ranges =>
        let isChosen (n : Nat) : Bool := ranges.any (ColumnRange.has n) != options.has 'C'
        let chosen {α : Type} (units : List α) : List (α × Nat) :=
          (units.zipIdx 1).filter fun e => isChosen e.2
        /- A range starts where the column in front of it is in none that this one is in. -/
        let starts (n : Nat) : Bool :=
          if options.has 'C' then !isChosen (n - 1) || n == 1
          else !ranges.any fun r => r.has n && r.has (n - 1)
        let separator := ((options.value? 'd').getD ['\t']).head?.getD '\x00'
        let joint := match options.value? 'O' with
          | some text => if text.isEmpty then ['\x00'] else text
          | none => u.pick [separator] []
        let cutLine (line : Octets) : Option Octets :=
          match u with
          | .char => some ((chosen line).zipIdx.flatMap fun e =>
              if 0 < e.2 && starts e.1.2 then joint ++ [e.1.1] else [e.1.1])
          | .field =>
            if line.contains separator then
              some (List.intercalate joint ((chosen (Text.splitOn separator line)).map (·.1)))
            else if options.has 's' then none
            else some line
        let ending := if options.has 'z' then '\x00' else '\n'
        (inputs operands).forM fun path => do
          let parts := partsBefore ending (← contents 1 name [path])
          print ((parts.filterMap cutLine).flatMap (· ++ [ending]))

end NextRelease.Shell.Tool
