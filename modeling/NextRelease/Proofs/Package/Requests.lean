import NextRelease.Decision
import NextRelease.Proofs.Repository.Queries

/-! The requests of the parts of a run, and the commands among them. Most only look; a strand makes
the directory of its clone and moves its archive, and nothing else. -/

namespace NextRelease

open Script

variable {commands : Command → Prop}

theorem Script.looks_info (commands : Command → Prop) (text : String) :
    (info text).Only (Request.Looks commands) := only_note trivial

section

variable {kind : ∀ {β : Type}, Request β → Prop} (hnote : ∀ level text, kind (.note level text))

theorem Manifest.only_load {path : Path} (hstatus : kind (.status path)) (hread : kind (.read path))
    (depth : Nat) : (load path depth).Only kind := by
  refine only_bind (only_isFile hstatus) fun found => ?_
  split
  · exact only_bind (only_readText hread) fun text => only_ofExcept _
  · trivial

theorem Dialect.only_detectAmong {directory : Path} {markers : List (String × Dialect)}
    (h : ∀ marker ∈ markers, kind (.status (directory.child marker.1))) :
    (detectAmong directory markers).Only kind := by
  induction markers with
  | nil => trivial
  | cons marker markers ih =>
    refine only_bind (only_isFile (h marker List.mem_cons_self)) fun found => ?_
    split
    · trivial
    · exact ih fun marker hmarker => h marker (List.mem_cons_of_mem _ hmarker)

include hnote

theorem Repository.only_clone (repo : Repository) {reference : String} {target : Path}
    (h : kind (.run ⟨repo.cloneCommand reference target, target.parent⟩)) :
    (repo.clone reference target).Only kind := by
  refine only_bind (only_note (hnote _ _)) fun _ => only_bind (only_run h) fun result => ?_
  split
  · exact only_note (hnote _ _)
  · trivial

namespace Packaging

variable {directory : Path} {reference : String} {dialect : Dialect}

theorem only_rename {name : String}
    (h : kind (.run ⟨dialect.commands.rename ++ ["name=" ++ name], directory⟩)) :
    (rename directory name dialect reference).Only kind := by
  refine only_bind (only_note (hnote _ _)) fun _ => only_bind (only_run h) fun result => ?_
  split <;> trivial

theorem only_install {production : Bool}
    (h : kind (.run ⟨if production then dialect.commands.installProduction
      else dialect.commands.install, directory⟩)) :
    (install directory dialect reference production).Only kind := by
  refine only_bind (only_note (hnote _ _)) fun _ => only_bind (only_run h) fun result => ?_
  split
  · exact only_note (hnote _ _)
  · trivial

theorem only_runBuild (hstatus : kind (.status (directory.child Manifest.fileName)))
    (hread : kind (.read (directory.child Manifest.fileName)))
    (h : kind (.run ⟨dialect.commands.build, directory⟩)) (depth : Nat) :
    (runBuild directory dialect reference depth).Only kind := by
  refine only_bind (Manifest.only_load hstatus hread depth) fun manifest => ?_
  split
  · refine only_bind (only_note (hnote _ _)) fun _ => only_bind (only_run h) fun result => ?_
    split
    · exact only_note (hnote _ _)
    · trivial
  · exact only_note (hnote _ _)

end Packaging

end

theorem Repository.looks_clone (repo : Repository) {reference : String} {target : Path}
    (h : commands ⟨repo.cloneCommand reference target, target.parent⟩) :
    (repo.clone reference target).Only (Request.Looks commands) :=
  repo.only_clone (fun _ _ => trivial) h

theorem Manifest.looks_load (commands : Command → Prop) (path : Path) (depth : Nat) :
    (load path depth).Only (Request.Looks commands) := only_load trivial trivial depth

theorem Dialect.looks_detect (commands : Command → Prop) (directory : Path) :
    (detect directory).Only (Request.Looks commands) := only_detectAmong fun _ _ => trivial

theorem Witness.asks_writeWorkspace (scratch : Path) (previous current : Artifact) :
    (writeWorkspace scratch previous current).Only (Request.Asks fun _ => False) :=
  only_bind (only_files trivial) fun _ => only_bind (only_files trivial) fun _ => only_files trivial

theorem looks_typeCheck {checker program : String} {directory : Path}
    (h : commands ⟨checkCommand checker program, directory⟩) :
    (typeCheck checker directory program).Only (Request.Looks commands) := by
  refine only_bind (only_note trivial) fun _ => only_bind (only_run h) fun result => ?_
  have hend : (do
      info (checker ++ " on " ++ program ++ ": " ++ if result.ok then "ok" else "failed")
      return result.ok : Script Bool).Only (Request.Looks commands) :=
    only_bind (only_note trivial) fun _ => trivial
  dsimp only
  split
  · exact hend
  · exact only_bind (only_note trivial) fun _ => hend

namespace Packaging

variable {directory scratch : Path} {name reference : String} {dialect : Dialect}

theorem looks_rename (h : commands ⟨dialect.commands.rename ++ ["name=" ++ name], directory⟩) :
    (rename directory name dialect reference).Only (Request.Looks commands) :=
  only_rename (fun _ _ => trivial) h

theorem looks_install {production : Bool}
    (h : commands ⟨if production then dialect.commands.installProduction
      else dialect.commands.install, directory⟩) :
    (install directory dialect reference production).Only (Request.Looks commands) :=
  only_install (fun _ _ => trivial) h

theorem looks_runBuild (h : commands ⟨dialect.commands.build, directory⟩) (depth : Nat) :
    (runBuild directory dialect reference depth).Only (Request.Looks commands) :=
  only_runBuild (fun _ _ => trivial) trivial trivial h depth

inductive Work (packaging : Packaging) (reference : String) (revision : Revision)
    (scratch : Path) : Command → Prop
  | clone : Work packaging reference revision scratch
      ⟨packaging.repo.cloneCommand reference (scratch.child revision.name),
        (scratch.child revision.name).parent⟩
  | rename (dialect : Dialect) : Work packaging reference revision scratch
      ⟨dialect.commands.rename ++ ["name=" ++ packageName revision.name],
        packaging.packageDirectory (scratch.child revision.name)⟩
  | install (dialect : Dialect) : Work packaging reference revision scratch
      ⟨dialect.commands.install, packaging.packageDirectory (scratch.child revision.name)⟩
  | build (dialect : Dialect) : Work packaging reference revision scratch
      ⟨dialect.commands.build, packaging.packageDirectory (scratch.child revision.name)⟩
  | pack (dialect : Dialect) : Work packaging reference revision scratch
      ⟨dialect.commands.pack, packaging.packageDirectory (scratch.child revision.name)⟩

def StrandRequest (commands : Command → Prop) (scratch : Path) {β : Type} : Request β → Prop
  | .run command => commands command
  | .makeDirectory path => ∃ revision : Revision, path = scratch.child revision.name
  | .move _ destination => ∃ revision : Revision, destination = archivePath scratch revision.name
  | .note .. | .status _ | .resolve .. | .read _ => True
  | .write .. | .removeTree _ => False

theorem StrandRequest.of_looks {β : Type} {request : Request β}
    (h : request.Looks commands) : StrandRequest commands scratch request := by
  cases request with
  | run command => exact h
  | _ => trivial

theorem StrandRequest.asks {β : Type} {request : Request β}
    (h : StrandRequest commands scratch request) : request.Asks commands := by
  cases request with
  | run command => exact h
  | _ => trivial

theorem only_pack (h : commands ⟨dialect.commands.pack, directory⟩) (revision : Revision)
    (depth : Nat) :
    (pack directory (archivePath scratch revision.name) dialect reference depth).Only
      (StrandRequest commands scratch) := by
  refine only_bind (only_note trivial) fun _ => only_bind (only_run h) fun result => ?_
  split
  · trivial
  · dsimp only
    split
    · trivial
    · refine only_bind (only_files trivial) fun packed => only_bind (only_isFile trivial) fun found => ?_
      split
      · exact only_bind (only_files ⟨revision, rfl⟩) fun _ =>
          only_bind (only_note trivial) fun _ => trivial
      · trivial

theorem only_build (packaging : Packaging) (reference : Reference) (revision : Revision)
    (scratch : Path) :
    (packaging.build reference revision.name scratch).Only
      (StrandRequest (packaging.Work reference.name revision scratch) scratch) := by
  have looks {α : Type} {script : Script α}
      (h : script.Only (Request.Looks (packaging.Work reference.name revision scratch))) :
      script.Only (StrandRequest (packaging.Work reference.name revision scratch) scratch) :=
    h.mono fun _ => StrandRequest.of_looks
  refine only_bind (only_files ⟨revision, rfl⟩) fun _ =>
    only_bind (looks (Repository.looks_clone _ .clone)) fun _ => ?_
  refine only_bind (looks (Manifest.looks_load ..)) fun _ =>
    only_bind (looks (Dialect.looks_detect ..)) fun dialect => only_bind (only_note trivial) fun _ => ?_
  refine only_bind (looks (looks_rename (.rename dialect))) fun _ =>
    only_bind (looks (looks_install (.install dialect))) fun _ =>
      only_bind (looks (looks_runBuild (.build dialect) _)) fun _ => ?_
  refine only_bind (only_pack (.pack dialect) revision _) fun archive =>
    only_bind (looks (Manifest.looks_load ..)) fun manifest => ?_
  dsimp only
  split <;> trivial

end Packaging

namespace Decision

variable (s : Subject)

theorem looks_ensureClean : (ensureClean s).Only (Request.Looks s.repo.Query) := by
  unfold ensureClean
  split
  · refine only_bind s.repo.looks_isDirty fun dirty => ?_
    split <;> trivial
  · trivial

theorem looks_ensureReachable (previous current : Reference) :
    (ensureReachable s previous current).Only (Request.Looks s.repo.Query) := by
  unfold ensureReachable
  split
  · refine only_bind (s.repo.looks_isAncestor _ _) fun descendant => ?_
    split <;> trivial
  · trivial

theorem looks_previousReference :
    s.previousReference.Only (Request.Looks s.repo.Query) := by
  unfold Subject.previousReference
  split
  · exact only_bind (s.repo.looks_resolveReference _ _) fun _ => trivial
  · exact s.repo.looks_highestVersion _ _

theorem looks_currentReference : s.currentReference.Only (Request.Looks s.repo.Query) := by
  unfold Subject.currentReference
  split
  · exact s.repo.looks_resolveReference _ _
  · exact s.repo.looks_currentReference

end Decision

end NextRelease
