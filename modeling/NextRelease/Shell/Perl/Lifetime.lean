import NextRelease.Shell.Perl.State

/-!
How long things live. Something lives as long as a variable leads to it, or something else that
lives; things that lead to each other keep themselves alive. Objects whose class has a function for
their end get it called, and references that do not keep alive what they lead to are lost with it.
-/

namespace NextRelease.Shell.Perl

/-! ## The variables that a function uses -/

mutual

/-- The variables, each under its name with its sigil, that an expression mentions. -/
def Expr.names : Expr → List Octets
  | .value _ => []
  | .named sigil name => [sigil.char :: name]
  | .own names _ => names.map fun (sigil, name) => sigil.char :: name
  | .interpolated es | .listMaker es | .tableMaker es | .list es | .call _ es | .builtin _ es =>
    namesOfAll es
  | .localized e | .deref _ e | .lastIndex e | .refer e | .negate e | .not e | .flip e | .step _ _ e
  | .readLine e | .fileTest _ e | .command e | .regex e _ => e.names
  | .item a b | .entry a b | .items a b | .entries a b | .pick a b | .binary _ a b | .logic _ a b
  | .range _ a b | .assign a b | .update _ a b | .logicUpdate _ a b => a.names ++ b.names
  | .choose a b c => a.names ++ b.names ++ c.names
  | .function _ body | .block body | .attempt body => namesOfStatements body
  | .find e _ pattern _ => namesOfSome e ++ pattern.names
  | .substitute e pattern replacement _ => namesOfSome e ++ pattern.names ++ replacement.names
  | .transliterate e _ _ _ => namesOfSome e
  | .invoke e es => e.names ++ namesOfAll es
  | .method e name _ es => e.names ++ name.names ++ namesOfAll es
  | .apply _ body es => namesOfBody body ++ namesOfAll es
  | .print _ e es => namesOfSome e ++ namesOfAll es

def namesOfAll : List Expr → List Octets
  | [] => []
  | e :: es => e.names ++ namesOfAll es

def namesOfSome : Option Expr → List Octets
  | none => []
  | some e => e.names

def namesOfBody : Option (List Statement) → List Octets
  | none => []
  | some body => namesOfStatements body

def namesOfStatement : Statement → List Octets
  | .expression _ e => e.names
  | .choose _ condition accepted refused =>
    condition.names ++ namesOfStatements accepted ++ namesOfStatements refused
  | .loop _ _ condition between body =>
    namesOfSome condition ++ namesOfSome between ++ namesOfStatements body
  | .each _ _ name values body => ('$' :: name) :: values.names ++ namesOfStatements body
  | .block _ body | .define _ body => namesOfStatements body

def namesOfStatements : List Statement → List Octets
  | [] => []
  | s :: rest => namesOfStatement s ++ namesOfStatements rest

end

mutual

def Expr.runsTexts : Expr → Bool
  | .builtin name es => name = "eval" || anyRunsTexts es
  | .interpolated es | .listMaker es | .tableMaker es | .list es | .call _ es => anyRunsTexts es
  | .substitute _ _ _ flags => 2 ≤ flags.count 'e'
  | .assign _ e | .logic _ _ e => e.runsTexts
  | .function _ body | .block body | .attempt body => statementsRunTexts body
  | _ => false

def anyRunsTexts : List Expr → Bool
  | [] => false
  | e :: es => e.runsTexts || anyRunsTexts es

def statementRunsTexts : Statement → Bool
  | .expression _ e => e.runsTexts
  | .choose _ condition accepted refused =>
    condition.runsTexts || statementsRunTexts accepted || statementsRunTexts refused
  | .loop _ _ _ _ body | .each _ _ _ _ body | .block _ body | .define _ body =>
    statementsRunTexts body

def statementsRunTexts : List Statement → Bool
  | [] => false
  | s :: rest => statementRunsTexts s || statementsRunTexts rest

end

def capturedBy (body : List Statement) (env : Env) : Env :=
  if statementsRunTexts body then env
  else
    let names : Std.HashSet Octets := Std.HashSet.ofList (namesOfStatements body)
    env.filter fun entry => names.contains entry.1

/-! ## What leads to what -/

def envNodes (env : Env) : List Node :=
  env.filterMap fun (name, id) => match name.head? with
    | some '$' => some (0, id)
    | some '@' => some (1, id)
    | some '%' => some (2, id)
    | _ => none

def State.nodesBehind (s : State) : Node → List Node
  | (0, id) => if s.weak.contains id then [] else ((s.cells[id]?).bind Scalar.target?).toList
  | (1, id) => ((s.lists[id]?).getD #[]).toList.reverse.map (0, ·)
  | (2, id) =>
    match s.tables[id]? with
    | some t => t.keys.filterMap fun key => (t.cell? key).map (0, ·)
    | none => []
  | (_, id) => match s.codes[id]? with
    | some code => envNodes (code.env.getD [])
    | none => []

def State.reached (s : State) : (fuel : Nat) → List Node → Std.HashSet Node → Std.HashSet Node
  | 0, _, seen | _, [], seen => seen
  | fuel + 1, node :: todo, seen =>
    if seen.contains node then s.reached fuel todo seen
    else s.reached fuel (s.nodesBehind node ++ todo) (seen.insert node)

def State.trail (s : State) : (fuel : Nat) → List Node → Std.HashSet Node → List Node
  | 0, _, _ | _, [], _ => []
  | fuel + 1, node :: todo, seen =>
    if seen.contains node then s.trail fuel todo seen
    else node :: s.trail fuel (s.nodesBehind node ++ todo) (seen.insert node)

def State.searchBound (s : State) : Nat :=
  let members := s.lists.foldl (fun n l => n + l.size) 0 +
    s.tables.foldl (fun n t => n + t.entries.size) 0
  let captured := s.codes.foldl (fun n code => n + (code.env.getD []).length) 0
  4 * (s.cells.size + s.lists.size + s.tables.size + s.codes.size + members + captured + 64) +
    8 * (s.envs.foldl (fun n env => n + env.length) 0 + s.env.length + s.globals.size)

def State.livingNodes (s : State) (isAtEnd : Bool) : List Node :=
  let shared := envNodes s.globals.toList
  let functions := s.functions.toList.map fun (_, id) => ((3, id) : Node)
  let methods := s.overloads.filterMap fun entry => entry.2.target?
  let saved : List Node := s.saved.flatMap fun one => match one with
    | .binding name (some id) => envNodes [(name, id)]
    | .cell _ v => v.target?.toList
    | .entry _ _ (some id) => [(0, id)]
    | .function _ (some id) => [(3, id)]
    | _ => []
  let frames := s.frames.map fun frame => ((1, frame.arguments) : Node)
  let own := if isAtEnd then [] else
    (s.env :: s.topEnv :: s.envs).flatMap fun env => envNodes env
  shared ++ functions ++ methods ++ saved ++ frames ++ own

/-! ## What ends -/

def State.isUnderway (s : State) (birth : Nat) : Bool :=
  s.gaps.any fun (began, paused) => began < birth && birth ≤ paused

def State.endingObjects (s : State) (bound : Nat) (living : Std.HashSet Node) : List Mortal :=
  let dead := s.mortals.filter fun m => !living.contains m.node && !s.isUnderway m.birth
  let sets := dead.map fun m => (m.node, s.reached bound (s.nodesBehind m.node) {})
  let rings := sets.filter fun (node, behind) => behind.contains node
  dead.filter fun m => !rings.any fun (node, behind) => node == m.node || behind.contains m.node

def State.lostCells (s : State) (bound : Nat) (living : Std.HashSet Node) : List Nat :=
  s.weak.toList.filter fun id =>
    match (s.cells[id]?).bind Scalar.target? with
    | some node =>
      !living.contains node && !(s.reached bound (s.nodesBehind node) {}).contains node &&
        !s.mortals.any fun m => m.node == node && s.isUnderway m.birth
    | none => false

/-- The objects that end, in the order in which they do: what leads to others before them, and of
what does not hang together the last one first; those of the last statement come last. -/
def State.endingOrder (s : State) (bound : Nat) (ending : List Mortal) : List Mortal :=
  let behind (m : Mortal) : Std.HashSet Node := s.reached bound (s.nodesBehind m.node) {}
  let sets := ending.map fun m => (m, behind m)
  let isHeld (m : Mortal) : Bool :=
    sets.any fun (other, nodes) => other.node != m.node && nodes.contains m.node
  let isLate (m : Mortal) : Bool := s.lastBegan < m.birth
  let key (m n : Mortal) : Bool :=
    if isLate m == isLate n then n.birth ≤ m.birth else isLate n
  let tops := (ending.filter fun m => !isHeld m).mergeSort key
  let others := ending.filter isHeld
  let below (m : Mortal) : List Mortal :=
    (s.trail bound (s.nodesBehind m.node) {}).filterMap fun node =>
      others.find? fun other => other.node == node
  let ordered := tops.flatMap fun m => m :: below m
  let seen := ordered.map Mortal.node
  ordered.foldl (fun done m => if done.any fun d => d.node == m.node then done else done ++ [m]) [] ++
    others.filter fun m => !seen.contains m.node

namespace Work

def asStatement {α : Type} (s : Statement) (work : Work α) : Work α := do
  let births := (← get).births
  modify fun s => { s with began := births }
  let a ← work
  match s with
  | .expression _ _ => modify fun s => { s with lastBegan := births }
  | _ => pure ()
  return a

def inGap {α : Type} (work : Work α) : Work α := do
  let outer ← get
  modify fun s => { s with gaps := (outer.began, outer.births) :: outer.gaps }
  let a ← work
  modify fun s => { s with gaps := outer.gaps }
  return a

def noteObject (node : Node) (className : Octets) : Work Unit := do
  if (← methodIn? (← lineageOf className) "DESTROY".toList).isSome then
    modify fun s =>
      if s.mortals.any fun m => m.node == node then s
      else { s with births := s.births + 1, mortals := ⟨node, s.births + 1⟩ :: s.mortals }

def takeEnding (isAtEnd : Bool) (kept : List Scalar) : Work (List Mortal) := do
  let s ← get
  if s.mortals.isEmpty && s.weak.isEmpty then return []
  let bound := s.searchBound
  let living := s.reached bound (kept.filterMap Scalar.target? ++ s.livingNodes isAtEnd) {}
  let lost := s.lostCells bound living
  let ending := s.endingOrder bound (s.endingObjects bound living)
  lost.forM fun id => setCell id .undefined
  modify fun s => { s with
    weak := lost.foldl (fun weak id => weak.erase id) s.weak
    mortals := s.mortals.filter fun m => !ending.any fun e => e.node == m.node }
  return ending

def takeRemaining : Work (List Mortal) := do
  let left := (← get).mortals
  modify fun s => { s with mortals := [] }
  return left

end Work

end NextRelease.Shell.Perl
