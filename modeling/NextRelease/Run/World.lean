import NextRelease.Run.Script

/-!
The surroundings of a run: the file tree and the events so far, and the host that answers. A host's
runner answers each command from everything that happened before it and may change any file.
-/

namespace NextRelease

/-- Which part of a run an event belongs to: the run itself or one of the strands that go on side
by side. -/
inductive Lane where
  | main
  | previous
  | current
  | forward
  | backward
  deriving DecidableEq

inductive FileOperation where
  | status (path : Path)
  | resolve (path : Path) (depth : Nat)
  | read (path : Path)
  | write (path : Path) (content : ByteArray)
  | makeDirectory (path : Path)
  | move (source : Place) (destination : Path)
  | makeScratch (paths : List Path)

def FileOperation.isMiss : FileOperation → FileFault → Bool
  | status _, fault => fault.isAbsence
  | _, _ => false

inductive Event where
  | command (lane : Lane) (command : Command) (before : FileTree) (reply : Reply)
  | note (lane : Lane) (level : Level) (text : String)
  | read (lane : Lane) (path : Path) (files : FileTree)
  | move (lane : Lane) (source : Place) (destination : Path)
  | scratch (path : Path)
  | failed (lane : Lane) (operation : FileOperation) (files : FileTree) (fault : FileFault)

structure Runner where
  respond : List Event → FileTree → Command → Reply × FileTree

inductive Side where
  | left
  | right
  deriving DecidableEq

/-- How long two strands are waited for. -/
inductive Patience where
  | untilAllEnd
  | untilFailure
  | untilFailureWithdrawing
  deriving DecidableEq

structure Schedule where
  turns : List Side := []
  patience : Patience := .untilAllEnd

structure Host where
  runner : Runner
  cwd : Place
  /-- Where scratch directories are made. -/
  temporary : Path
  /-- The random parts of names, in the order in which they are tried. -/
  randomNames : List String
  schedule : List Event → Schedule := fun _ => {}

structure World where
  files : FileTree
  events : List Event := []

namespace World

def record (w : World) (event : Event) : World := { w with events := w.events ++ [event] }

def look (w : World) (lane : Lane) (operation : FileOperation) {α : Type} :
    Except FileFault α → Except FileFault α × World
  | .ok value => (.ok value, w)
  | .error fault =>
    (.error fault,
      if operation.isMiss fault then w else w.record (.failed lane operation w.files fault))

def update (w : World) (lane : Lane) (operation : FileOperation) :
    Except FileFault FileTree → Except FileFault Unit × World
  | .ok tree => (.ok (), { w with files := tree })
  | .error fault => w.look lane operation (.error fault)

end World

def Request.perform (host : Host) (lane : Lane) {α : Type} : Request α → World → α × World
  | .run command, w =>
    let (reply, tree) := host.runner.respond w.events w.files command
    (reply, { w with files := tree }.record (.command lane command w.files reply))
  | .note level text, w => ((), w.record (.note lane level text))
  | .status path, w => w.look lane (.status path) (w.files.status (path.route host.cwd))
  | .resolve path depth, w => w.look lane (.resolve path depth) (w.files.resolve host.cwd path depth)
  | .read path, w =>
    (w.record (.read lane path w.files)).look lane (.read path)
      (w.files.read (path.route host.cwd))
  | .write path content, w =>
    w.update lane (.write path content) (w.files.write (path.route host.cwd) content)
  | .makeDirectory path, w =>
    w.update lane (.makeDirectory path) (w.files.makeDirectory (path.route host.cwd))
  | .move source destination, w =>
    (w.record (.move lane source destination)).update lane (.move source destination)
      (w.files.moveFile source (destination.route host.cwd))
  | .removeTree path, w =>
    let (removal, tree) := w.files.removeTree (path.route host.cwd)
    (removal, { w with files := tree })

def Script.exec (host : Host) (lane : Lane) {α : Type} : Script α → World → Except Halt α × World
  | .done value, w => (.ok value, w)
  | .halt cause, w => (.error cause, w)
  | .ask request next, w =>
    let (answer, w) := request.perform host lane w
    (next answer).exec host lane w

theorem Script.exec_bind (host : Host) (lane : Lane) {α β : Type} (script : Script α)
    (f : α → Script β) (w : World) :
    (script >>= f).exec host lane w =
      match script.exec host lane w with
      | (.ok value, w) => (f value).exec host lane w
      | (.error cause, w) => (.error cause, w) := by
  induction script generalizing w with
  | done value => rfl
  | halt cause => rfl
  | ask request next ih => exact ih _ _

end NextRelease
