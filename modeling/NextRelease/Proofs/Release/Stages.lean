import NextRelease.Proofs.Run.Ensuring
import NextRelease.Release

/-! The stages of the release command: it proposes a version, for which it writes no manifest and
makes no tag, then it publishes that version, and last it reports how all this has ended. -/

namespace NextRelease.Release

/-- What there is to publish. -/
structure Proposal where
  repo : Repository
  current : Option Reference
  version : String

/-- The repository and the package in it, which has a manifest. -/
def prepare (order : Order) (directory : Path) : Script (Repository × Decision.Subject) := do
  let repo ← Repository.discover directory order.depth
  let _ ← Manifest.load (directory.child Manifest.fileName) order.depth
  let subject ← Decision.Subject.of repo directory order.settings (order.depth - 1)
  return (repo, subject)

/-- Everything up to the version that is to be reported. -/
def propose (order : Order) (directory : Path) : Run Proposal := do
  let (repo, subject) ← prepare order directory
  let decision ← Decision.decide subject
  let version ←
    (Script.ofExcept ((checkExpected decision.version order.expected).mapError Refused.halt) :
      Script String)
  return ⟨repo, decision.current, version⟩

def update (order : Order) (path : Path) (version : String) : Script Unit := do
  if order.update then
    Manifest.writeVersion path version order.depth
    Script.info ("Updated " ++ toString path ++ " to " ++ version)

def publish (order : Order) (path : Path) (proposal : Proposal) : Script String := do
  update order path proposal.version
  if order.tag then
    createVersionTag proposal.repo proposal.current proposal.version order.settings
  return proposal.version

theorem perform_eq (order : Order) (directory : Path) :
    perform order directory = propose order directory >>= fun proposal =>
      (publish order (directory.child Manifest.fileName) proposal : Run String) := by
  unfold perform propose prepare publish update
  simp only [Run.lift_bind, Run.bind_assoc]
  congr 1
  funext repo
  congr 1
  funext _
  congr 1
  funext subject
  congr 1
  funext decision
  congr 1
  funext version
  cases order.update <;> cases order.tag <;> simp [Run.lift_bind, Run.bind_assoc] <;> rfl

def Order.report (order : Order) : Except Halt String → Except Halt Report
  | .ok version => .ok { exit := 0, out := if order.silent then "" else version ++ "\n" }
  | .error (.failure cause) => .ok { exit := 1, err := errorLine cause.message }
  | .error cause => .error cause

theorem run_eq (order : Order) (host : Host) (w : World) :
    run order host w =
      match w.files.resolve host.cwd order.directory (order.depth + 1) with
      | .error fault => (.error (.fault (.files fault)),
          w.record (.failed .main (.resolve order.directory (order.depth + 1)) w.files fault))
      | .ok place => (order.report (perform order (.ofPlace place) host w).1,
          (perform order (.ofPlace place) host w).2) := by
  change Run.bind (Run.ofScript (Script.resolve order.directory (order.depth + 1))) _ host w = _
  unfold Run.bind Run.ofScript Script.resolve Script.files
  simp only [Script.exec, Request.perform]
  cases w.files.resolve host.cwd order.directory (order.depth + 1) with
  | error fault => rfl
  | ok place =>
    change Run.bind (perform order (.ofPlace place)).attempt _ host w = _
    unfold Run.bind Run.attempt
    dsimp only
    cases perform order (.ofPlace place) host w with
    | mk result v =>
      cases result with
      | ok version => rfl
      | error cause => cases cause <;> rfl

theorem ensures_run {order : Order} {host : Host} {w : World}
    {ends : Except Halt Report → List Event → World → Prop}
    (hfault : ∀ fault, w.files.resolve host.cwd order.directory (order.depth + 1) = .error fault →
      ends (.error (.fault (.files fault)))
        [.failed .main (.resolve order.directory (order.depth + 1)) w.files fault]
        (w.record (.failed .main (.resolve order.directory (order.depth + 1)) w.files fault)))
    (hwork : ∀ place, (perform order (.ofPlace place)).Ensures host w fun result record w' =>
      ends (order.report result) record w') : (run order).Ensures host w ends := by
  unfold Run.Ensures
  rw [run_eq]
  cases hplace : w.files.resolve host.cwd order.directory (order.depth + 1) with
  | error fault => exact ⟨_, rfl, hfault fault hplace⟩
  | ok place => exact hwork place

end NextRelease.Release
