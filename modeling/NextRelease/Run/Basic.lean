import NextRelease.Run.Parallel

/-!
Runs: scripts, pairs of strands and scratch directories put together. Whatever stops a run, the
world that it leaves is there to look at.
-/

namespace NextRelease

def Run (α : Type) : Type := Host → World → Except Halt α × World

namespace Run

variable {α β : Type}

protected def pure (value : α) : Run α := fun _ w => (.ok value, w)

protected def bind (run : Run α) (f : α → Run β) : Run β := fun host w =>
  match run host w with
  | (.ok value, w) => f value host w
  | (.error cause, w) => (.error cause, w)

instance : Monad Run where
  pure := Run.pure
  bind := Run.bind

def halt (cause : Halt) : Run α := fun _ w => (.error cause, w)

def fail (cause : Failure) : Run α := halt (.failure cause)

def ofScript (script : Script α) : Run α := fun host w => script.exec host .main w

instance : MonadLift Script Run := ⟨ofScript⟩

def attempt (run : Run α) : Run (Except Halt α) := fun host w =>
  let (result, w) := run host w
  (.ok result, w)

def both (leftLane rightLane : Lane) (p q : Script α) : Run (α × α) := fun host w =>
  let schedule := host.schedule w.events
  let (strands, w) :=
    Strands.run host leftLane rightLane schedule.patience schedule.turns false false p q w
  (strands.outcome, w)

end Run

def removeTree (path : Path) : (retries attempt : Nat) → Script Bool
  | 0, _ => do
    Script.note .warning ("Could not remove temporary directory [" ++ toString path ++ "]")
    return false
  | retries + 1, attempt =>
    .ask (.removeTree path) fun
      | .gone => return true
      | .failed cause => Script.fault (.files cause)
      | .refused reason => do
        Script.note .debug ("Removing " ++ toString path ++ " failed (attempt " ++
          toString attempt ++ "): " ++ reason)
        removeTree path retries (attempt + 1)

namespace Scratch

def stem : String := "liskov-semver-"

def removeRetries : Nat := 5

def makeFirst (tree : FileTree) (cwd : Place) : List Path → Except FileFault (Path × FileTree)
  | [] => .error .alreadyExists
  | path :: paths =>
    match tree.makeDirectory (path.route cwd) with
    | .ok tree => .ok (path, tree)
    | .error .alreadyExists => makeFirst tree cwd paths
    | .error fault => .error fault

def make (stem : String) (base : Option Path) : Run Path := fun host w =>
  let directory := base.getD host.temporary
  let paths := host.randomNames.map fun name => directory.child (stem ++ name)
  match makeFirst w.files host.cwd paths with
  | .error fault =>
    (.error (.fault (.files fault)), w.record (.failed .main (.makeScratch paths) w.files fault))
  | .ok (path, tree) =>
    let w := { w with files := tree }.record (.scratch path)
    (.ok path, w.record (.note .main .debug ("Created scratch workspace " ++ toString path)))

end Scratch

def Run.withScratch {α : Type} (stem : String) (base : Option Path) (work : Path → Run α) :
    Run α := fun host w =>
  match Scratch.make stem base host w with
  | (.error cause, w) => (.error cause, w)
  | (.ok path, w) =>
    let (result, w) := work path host w
    -- whatever the removal answers, the work ended as it did
    let (_, w) := (removeTree path Scratch.removeRetries 1).exec host .main w
    (result, w)

end NextRelease
