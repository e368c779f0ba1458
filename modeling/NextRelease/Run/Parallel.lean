import NextRelease.Run.World

/-!
Calls that go on side by side. The wait for them ends when all have ended, or earlier once one of
those that have ended failed; a call that has not begun by then is withdrawn. What is reported is
the first failure, in the order of the calls, among those that have ended by then.
-/

namespace NextRelease

/-- Where a call stands when the wait for the calls ends. -/
inductive Standing (α : Type) where
  | ended (result : Except Halt α)
  | going (result : Except Halt α)
  | withdrawn

namespace Standing

variable {α : Type}

def hasEnded : Standing α → Bool
  | ended _ => true
  | going _ => false
  | withdrawn => false

def result : Standing α → Except Halt α
  | ended r => r
  | going r => r
  | withdrawn => .error (.fault .withdrawn)

end Standing

namespace Parallel

variable {α : Type}

def firstFailure? : List (Standing α) → Option Halt
  | [] => none
  | .ended (.error cause) :: _ => some cause
  | _ :: calls => firstFailure? calls

/-- The values of all calls in order, or the first failure among those that have ended. -/
def gather (calls : List (Standing α)) : Except Halt (List α) :=
  match firstFailure? calls with
  | some cause => .error cause
  | none => calls.mapM Standing.result

def isOver (calls : List (Standing α)) : Bool :=
  calls.all Standing.hasEnded || (firstFailure? calls).isSome

/-- Waits until all calls have ended; there has to be at least one. -/
def all (calls : List (Except Halt α)) : Except Halt (List α) :=
  if calls.isEmpty then .error (.fault .noCalls) else gather (calls.map .ended)

end Parallel

/-- Where two strands stand when the wait for them ends. -/
structure Strands (α : Type) where
  left : Standing α
  right : Standing α

namespace Strands

variable {α : Type}

def ended? : Script α → Option (Except Halt α)
  | .done value => some (.ok value)
  | .halt cause => some (.error cause)
  | .ask _ _ => none

def advance (host : Host) (lane : Lane) : Script α → World → Script α × World
  | .ask request next, w =>
    let (answer, w) := request.perform host lane w
    (next answer, w)
  | script, w => (script, w)

def finish (host : Host) (lane : Lane) (patience : Patience) (other : Except Halt α)
    (begun : Bool) (script : Script α) (w : World) : Standing α × World :=
  match other, patience with
  | .ok _, _ | .error _, .untilAllEnd =>
    let (result, w) := script.exec host lane w
    (.ended result, w)
  | .error _, .untilFailure =>
    let (result, w) := script.exec host lane w
    (.going result, w)
  | .error _, .untilFailureWithdrawing =>
    if begun then
      let (result, w) := script.exec host lane w
      (.going result, w)
    else (.withdrawn, w)

/-- Performs two scripts, request by request in turns while neither has ended; of each it is known
whether it has begun. -/
def run (host : Host) (leftLane rightLane : Lane) (patience : Patience) :
    List Side → (leftBegun rightBegun : Bool) → Script α → Script α → World → Strands α × World
  | turns, leftBegun, rightBegun, p, q, w =>
    match ended? p, ended? q with
    | some a, _ =>
      let (standing, w) := finish host rightLane patience a rightBegun q w
      (⟨.ended a, standing⟩, w)
    | none, some b =>
      let (standing, w) := finish host leftLane patience b leftBegun p w
      (⟨standing, .ended b⟩, w)
    | none, none =>
      match turns with
      | [] =>
        let (a, w) := p.exec host leftLane w
        let (standing, w) := finish host rightLane patience a rightBegun q w
        (⟨.ended a, standing⟩, w)
      | .left :: turns =>
        let (p, w) := advance host leftLane p w
        run host leftLane rightLane patience turns true rightBegun p q w
      | .right :: turns =>
        let (q, w) := advance host rightLane q w
        run host leftLane rightLane patience turns leftBegun true p q w

def outcome (strands : Strands α) : Except Halt (α × α) :=
  match Parallel.firstFailure? [strands.left, strands.right] with
  | some cause => .error cause
  | none => do return (← strands.left.result, ← strands.right.result)

end Strands

end NextRelease
