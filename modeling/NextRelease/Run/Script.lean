import NextRelease.Command.Basic
import NextRelease.Error

/-!
Scripts: what a run asks of its surroundings, one request at a time. A script is the tree of its
possible courses, so a statement about every branch holds whatever the surroundings answer.
-/

namespace NextRelease

inductive Level where
  | debug
  | info
  | warning
  deriving DecidableEq

def Level.name : Level → String
  | debug => "DEBUG"
  | info => "INFO"
  | warning => "WARNING"

/-- The answer to a command: its result, or why there is none. -/
abbrev Reply := Except Halt CommandResult

inductive Request : Type → Type where
  | run (command : Command) : Request Reply
  | note (level : Level) (text : String) : Request Unit
  | status (path : Path) : Request (Except FileFault FileKind)
  | resolve (path : Path) (depth : Nat) : Request (Except FileFault Place)
  | read (path : Path) : Request (Except FileFault ByteArray)
  | write (path : Path) (content : ByteArray) : Request (Except FileFault Unit)
  | makeDirectory (path : Path) : Request (Except FileFault Unit)
  | move (source : Place) (destination : Path) : Request (Except FileFault Unit)
  | removeTree (path : Path) : Request FileTree.Removal

inductive Script (α : Type) : Type 1 where
  | done (value : α)
  | halt (cause : Halt)
  | ask {β : Type} (request : Request β) (next : β → Script α)

namespace Script

variable {α β : Type}

def bind : Script α → (α → Script β) → Script β
  | done value, f => f value
  | halt cause, _ => halt cause
  | ask request next, f => ask request fun answer => bind (next answer) f

instance : Monad Script where
  pure := done
  bind := bind

@[simp] theorem pure_eq (value : α) : (pure value : Script α) = done value := rfl

@[simp] theorem done_bind (value : α) (f : α → Script β) : (done value >>= f) = f value := rfl

@[simp] theorem halt_bind (cause : Halt) (f : α → Script β) :
    ((halt cause : Script α) >>= f) = halt cause := rfl

@[simp] theorem ask_bind {γ : Type} (request : Request γ) (next : γ → Script α)
    (f : α → Script β) : (ask request next >>= f) = ask request fun answer => next answer >>= f :=
  rfl

theorem bind_assoc {γ : Type} (script : Script α) (f : α → Script β) (g : β → Script γ) :
    (script >>= f) >>= g = script >>= fun value => f value >>= g := by
  induction script with
  | done value => rfl
  | halt cause => rfl
  | ask request next ih =>
    simp only [ask_bind]
    congr 1
    funext answer
    exact ih answer

def fail (cause : Failure) : Script α := halt (.failure cause)

def fault (cause : Fault) : Script α := halt (.fault cause)

def ofExcept : Except Halt α → Script α
  | .ok value => done value
  | .error cause => halt cause

def run (argv : List String) (cwd : Path) : Script CommandResult :=
  ask (.run ⟨argv, cwd⟩) ofExcept

def note (level : Level) (text : String) : Script Unit := ask (.note level text) done

def info (text : String) : Script Unit := note .info text

def files (request : Request (Except FileFault α)) : Script α :=
  ask request fun
    | .ok value => done value
    | .error cause => fault (.files cause)

def resolve (path : Path) (depth : Nat) : Script Place := files (.resolve path depth)

def isFile (path : Path) : Script Bool :=
  ask (.status path) fun
    | .ok kind => done (kind == .file)
    | .error cause => if cause.isAbsence then done false else fault (.files cause)

def readText (path : Path) : Script String := do
  match Text.decode? (← files (.read path)) with
  | some text => return text
  | none => fault .undecodable

def writeBytes (path : Path) (content : ByteArray) : Script Unit := files (.write path content)

def writeString (path : Path) (text : String) : Script Unit := writeBytes path text.toUTF8

end Script

end NextRelease
