import NextRelease.Proofs.Decision.Stages
import NextRelease.Proofs.Package.Clone

/-! The files of the scratch directory. From the making of the directory until the witnesses are
checked their two routes stay plain, so each file holds its own program when it is checked. -/

namespace NextRelease

/-! ## Names -/

theorem Witness.isEntryName_forwardFile : IsEntryName forwardFile := ⟨by cbv, by decide⟩

theorem Witness.isEntryName_backwardFile : IsEntryName backwardFile := ⟨by cbv, by decide⟩

theorem Witness.forwardFile_ne_name (revision : Revision) : forwardFile ≠ revision.name := by
  cases revision <;> decide

theorem Witness.backwardFile_ne_name (revision : Revision) : backwardFile ≠ revision.name := by
  cases revision <;> decide

/-- The commands of a record, which was made after a past, neither changed what is written at the end
of a route nor put anything but a plain file there. -/
structure Host.Spared (host : Host) (route : Route) (past record : List Event) : Prop where
  plain : host.Kept (fun tree => tree.Plain route) past record
  content : ∀ bytes, host.Kept (fun tree => tree.read route = .ok bytes) past record

/-! ## The strands -/

/-- The route of a file in the scratch directory. -/
def scratchRoute (host : Host) (scratch : Path) (name : String) : Route :=
  (scratch.child name).route host.cwd

theorem names_scratchRoute (host : Host) (scratch : Path) {name : String} (h : IsEntryName name) :
    (scratchRoute host scratch name).names = (scratch.route host.cwd).names ++ [name] :=
  scratch.names_route_child host.cwd h

theorem World.files_update_ok {w : World} {lane : Lane} {operation : FileOperation}
    {result : Except FileFault FileTree} (holds : FileTree → Prop) (hw : holds w.files)
    (h : ∀ tree, result = .ok tree → holds tree) :
    holds (w.update lane operation result).2.files := by
  cases result with
  | ok tree => exact h tree rfl
  | error fault =>
    rw [update_error, files_look]
    exact hw

theorem Packaging.StrandRequest.leaves_plain {host : Host} {scratch : Path} {name : String}
    (hname : IsEntryName name) (hrevision : ∀ revision : Revision, name ≠ revision.name)
    {commands : Command → Prop} {β : Type} {request : Request β}
    (h : StrandRequest commands scratch request) :
    request.Leaves host fun tree => tree.Plain (scratchRoute host scratch name) := by
  have hlooks (h : request.Looks fun _ => False) :
      request.Leaves host fun tree => tree.Plain (scratchRoute host scratch name) := h.leaves
  cases request with
  | run command => trivial
  | write path content => exact h.elim
  | removeTree path => exact h.elim
  | makeDirectory path =>
    obtain ⟨revision, rfl⟩ := h
    exact fun _ w hw => w.files_update_ok (·.Plain _) hw fun tree hmade =>
      hw.makeDirectory hmade (hrevision revision) hname.2 revision.isEntryName_name.2
        (names_scratchRoute host scratch hname)
        (scratch.names_route_child host.cwd revision.isEntryName_name)
  | move source destination =>
    exact fun lane w hw => World.files_update_ok (w := w.record (.move lane source destination))
      (·.Plain _) hw fun tree hmoved => (FileTree.changesFiles_moveFile hmoved).plain hw
  | _ => exact hlooks trivial

/-! ## The witnesses -/

/-- Both witness files hold their programs: the one passes `current` where the type of `previous` is
expected, the other one `previous` where the type of `current` is. -/
def Witness.Written (host : Host) (scratch : Path) (previous current : List Text)
    (tree : FileTree) : Prop :=
  tree.read (scratchRoute host scratch forwardFile) =
      .ok (String.ofList (program previous current "previous" "current")).toUTF8 ∧
    tree.read (scratchRoute host scratch backwardFile) =
      .ok (String.ofList (program previous current "current" "previous")).toUTF8

theorem exec_writeString {host : Host} {lane : Lane} {path : Path} {text : String} {w w' : World}
    (h : (Script.writeString path text).exec host lane w = (.ok (), w')) :
    w.files.write (path.route host.cwd) text.toUTF8 = .ok w'.files ∧ w'.events = w.events := by
  have hperform := Script.exec_files h
  simp only [Request.perform] at hperform
  cases hwrite : w.files.write (path.route host.cwd) text.toUTF8 with
  | error fault =>
    rw [hwrite] at hperform
    simpa using congrArg Prod.fst hperform
  | ok tree =>
    rw [hwrite] at hperform
    cases hperform
    exact ⟨rfl, rfl⟩

theorem Witness.events_writeWorkspace {host : Host} {lane : Lane} {scratch : Path}
    {old new : Artifact} {w w' : World}
    (h : (writeWorkspace scratch old new).exec host lane w = (.ok (), w')) :
    w'.events = w.events := by
  obtain ⟨_, u, hmanifest, h⟩ := Script.exec_bind_ok.1 h
  obtain ⟨_, v, hfirst, hsecond⟩ := Script.exec_bind_ok.1 h
  rw [(exec_writeString hsecond).2, (exec_writeString hfirst).2, (exec_writeString hmanifest).2]

theorem Witness.writeWorkspace_written {host : Host} {lane : Lane} {scratch : Path}
    {old new : Artifact} {w w' : World}
    (hforward : w.files.Plain (scratchRoute host scratch forwardFile))
    (hbackward : w.files.Plain (scratchRoute host scratch backwardFile))
    (h : (writeWorkspace scratch old new).exec host lane w = (.ok (), w')) :
    Written host scratch old.entryPoints new.entryPoints w'.files := by
  obtain ⟨_, u, hmanifest, h⟩ := Script.exec_bind_ok.1 h
  obtain ⟨_, v, hfirst, hsecond⟩ := Script.exec_bind_ok.1 h
  obtain ⟨hmanifest, _⟩ := exec_writeString hmanifest
  obtain ⟨hfirst, _⟩ := exec_writeString hfirst
  obtain ⟨hsecond, _⟩ := exec_writeString hsecond
  have hnames := names_scratchRoute host scratch isEntryName_forwardFile
  have hnames' := names_scratchRoute host scratch isEntryName_backwardFile
  have hchanges := FileTree.changesFiles_write hmanifest
  have hchanges' := FileTree.changesFiles_write hfirst
  constructor
  · refine (hchanges'.plain (hchanges.plain hbackward)).read_write_beside
      (hchanges'.plain (hchanges.plain hforward)) (by decide) isEntryName_backwardFile.2
      isEntryName_forwardFile.2 hnames' hnames ?_ hsecond
    exact (hchanges.plain hforward).read_write isEntryName_forwardFile.2 hnames hfirst
  · exact (hchanges'.plain (hchanges.plain hbackward)).read_write isEntryName_backwardFile.2 hnames'
      hsecond

end NextRelease
