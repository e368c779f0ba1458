import NextRelease.Package.Artifact
import NextRelease.Proofs.Package.Manifest

/-! What packing a revision leaves in the record: the commands of the package manager in order, and
the last reading of the manifest, from which the artifact has its version and its entry points. -/

namespace NextRelease

open Script

variable {host : Host} {lane : Lane} {record : List Event}

theorem Dialect.course_detectAmong {directory : Path} {markers : List (String × Dialect)}
    {dialect : Dialect}
    (h : (detectAmong directory markers).Course host lane record (.ok dialect)) : record = [] := by
  induction markers generalizing record with
  | nil => exact h.1
  | cons marker markers ih =>
    obtain ⟨front, found, rest, rfl, hfront, hrest⟩ := course_bind_ok.1 h
    rw [course_isFile hfront, List.nil_append]
    cases found with
    | true => exact hrest.1
    | false => exact ih hrest

def Dialect.foundIn (host : Host) (tree : FileTree) (directory : Path) : Dialect :=
  ((lockFiles.find? fun marker =>
    tree.hasKind .file ((directory.child marker.1).route host.cwd)).map (·.2)).getD npm

theorem Dialect.foundIn_of_detect {directory : Path} {dialect : Dialect} {w w' : World}
    (h : (detect directory).exec host lane w = (.ok dialect, w')) :
    dialect = foundIn host w.files directory := by
  unfold detect at h
  unfold foundIn
  generalize lockFiles = markers at h
  induction markers with
  | nil =>
    cases h
    rfl
  | cons marker markers ih =>
    obtain ⟨found, v, hfound, h⟩ := exec_bind_ok.1 h
    obtain rfl := exec_isFile hfound
    rw [List.find?_cons, ← hasKind_of_isFile hfound]
    cases found with
    | true =>
      cases h
      rfl
    | false => exact ih h

theorem Dialect.status_of_detect {directory : Path} {cause : Halt} {w w' : World}
    (h : (detect directory).exec host lane w = (.error cause, w')) :
    ∃ marker ∈ lockFiles, ∃ fault,
      w.files.status ((directory.child marker.1).route host.cwd) = .error fault ∧
        fault.isAbsence = false := by
  unfold detect at h
  generalize lockFiles = markers at h ⊢
  induction markers with
  | nil => cases h
  | cons marker markers ih =>
    obtain hfailed | ⟨found, v, hfound, h⟩ := exec_bind_error.1 h
    · exact ⟨marker, List.mem_cons_self, status_of_isFile hfailed⟩
    · obtain rfl := exec_isFile hfound
      cases found with
      | true => cases h
      | false =>
        obtain ⟨other, hother, hstatus⟩ := ih h
        exact ⟨other, List.mem_cons_of_mem _ hother, hstatus⟩

def IsQuiet (record : List Event) : Prop := commandsOf record = [] ∧ readsOf record = []

theorem isQuiet_of_info {text : String} (h : (info text).Course host lane record (.ok ())) :
    IsQuiet record := by
  obtain ⟨rfl, _⟩ := course_info.1 h
  exact ⟨rfl, rfl⟩

theorem isQuiet_of_done (h : (pure () : Script Unit).Course host lane record (.ok ())) :
    IsQuiet record := by
  obtain ⟨rfl, _⟩ := course_done.1 h
  exact ⟨rfl, rfl⟩

theorem course_required {text : String} {argv : List String} {cwd : Path} {next : Script Unit}
    {failure : CommandResult → Failure}
    (hnext : ∀ {rest}, next.Course host lane rest (.ok ()) → IsQuiet rest)
    (h : (info text >>= fun _ => run argv cwd >>= fun result =>
      if result.ok then next else fail (failure result)).Course host lane record (.ok ())) :
    ∃ result, result.ok ∧ readsOf record = [] ∧
      commandsOf record = [(⟨argv, cwd⟩, .ok result)] := by
  obtain ⟨rest, rfl, hrun⟩ := course_info_bind.1 h
  obtain ⟨result, before, rest, rfl, hend⟩ := course_run_bind hrun
  split at hend
  · next hok =>
    obtain ⟨hcommands, hreads⟩ := hnext hend
    exact ⟨result, hok, hreads, congrArg (_ :: ·) hcommands⟩
  · exact nomatch (course_fail.1 hend).2

theorem Repository.course_clone {repo : Repository} {reference : String} {target : Path}
    (h : (repo.clone reference target).Course host lane record (.ok ())) :
    ∃ result, result.ok ∧ readsOf record = [] ∧
      commandsOf record = [(⟨repo.cloneCommand reference target, target.parent⟩, .ok result)] :=
  course_required isQuiet_of_info h

namespace Packaging

theorem course_rename {directory : Path} {name reference : String} {dialect : Dialect}
    (h : (rename directory name dialect reference).Course host lane record (.ok ())) :
    ∃ result, result.ok ∧ readsOf record = [] ∧
      commandsOf record =
        [(⟨dialect.commands.rename ++ ["name=" ++ name], directory⟩, .ok result)] :=
  course_required isQuiet_of_done h

def installCommand (dialect : Dialect) (production : Bool) : List String :=
  if production then dialect.commands.installProduction else dialect.commands.install

theorem course_install {directory : Path} {dialect : Dialect} {reference : String}
    {production : Bool}
    (h : (install directory dialect reference production).Course host lane record (.ok ())) :
    ∃ result, result.ok ∧ readsOf record = [] ∧
      commandsOf record = [(⟨installCommand dialect production, directory⟩, .ok result)] :=
  course_required isQuiet_of_info h

theorem course_runBuild {directory : Path} {dialect : Dialect} {reference : String} {depth : Nat}
    (h : (runBuild directory dialect reference depth).Course host lane record (.ok ())) :
    ∃ manifest tree,
      Manifest.HeldBy manifest tree ((directory.child Manifest.fileName).route host.cwd) depth ∧
      readsOf record = [(directory.child Manifest.fileName, tree)] ∧
      if Manifest.hasScript manifest (Text.ofString "build") then
        ∃ result, result.ok ∧
          commandsOf record = [(⟨dialect.commands.build, directory⟩, .ok result)]
      else commandsOf record = [] := by
  obtain ⟨front, manifest, rest, rfl, hfront, hrest⟩ := course_bind_ok.1 h
  obtain ⟨tree, rfl, hheld⟩ := Manifest.course_load hfront
  refine ⟨manifest, tree, hheld, ?_⟩
  split at hrest
  · next hscript =>
    obtain ⟨result, hok, hreads, hcommands⟩ := course_required isQuiet_of_info hrest
    rw [if_pos hscript]
    exact ⟨congrArg (_ :: ·) hreads, result, hok, hcommands⟩
  · next hscript =>
    obtain ⟨hcommands, hreads⟩ := isQuiet_of_info hrest
    rw [if_neg hscript]
    exact ⟨congrArg (_ :: ·) hreads, hcommands⟩

theorem course_pack {directory destination archive : Path} {dialect : Dialect}
    {reference : String} {depth : Nat}
    (h : (pack directory destination dialect reference depth).Course host lane record
      (.ok archive)) :
    archive = destination ∧ ∃ text result before rest, result.ok ∧
      record = .note lane .info text ::
        .command lane ⟨dialect.commands.pack, directory⟩ before (.ok result) :: rest ∧
      commandsOf rest = [] ∧ readsOf rest = [] := by
  obtain ⟨rest, rfl, hrun⟩ := course_info_bind.1 h
  obtain ⟨result, before, rest, rfl, hend⟩ := course_run_bind hrun
  split at hend
  · exact nomatch (course_fail.1 hend).2
  · next hok =>
    simp only [Bool.not_eq_true, Bool.not_eq_false'] at hok
    simp only at hend
    split at hend
    · exact nomatch (course_fail.1 hend).2
    · obtain ⟨resolving, packed, looking, rfl, hresolve, hlook⟩ := course_bind_ok.1 hend
      obtain rfl := course_resolve hresolve
      obtain ⟨looked, found, moving, rfl, hfound, hmove⟩ := course_bind_ok.1 hlook
      obtain rfl := course_isFile hfound
      cases found with
      | false => exact nomatch (course_fail.1 hmove).2
      | true =>
        obtain ⟨moved, _, noted, rfl, hmoved, hnote⟩ := course_bind_ok.1 hmove
        obtain rfl := course_move hmoved
        obtain ⟨last, rfl, hlast⟩ := course_info_bind.1 hnote
        obtain ⟨rfl, harchive⟩ := course_done.1 hlast
        exact ⟨Except.ok.inj harchive, _, result, before, _, hok, rfl, rfl, rfl⟩

def manifestPath (packaging : Packaging) (scratch : Path) (role : String) : Path :=
  (packaging.packageDirectory (scratch.child role)).child Manifest.fileName

structure Packed (packaging : Packaging) (reference : Reference) (role : String) (scratch : Path)
    (host : Host) (lane : Lane) (manifest : Fields) (record : List Event) : Prop where
  packed : ∃ (dialect : Dialect) (front rest : List Event) (before tree : FileTree)
    (cloned renamed installed packed : CommandResult) (built : List (Command × Reply)),
    let clone := scratch.child role
    let directory := packaging.packageDirectory clone
    record = front ++ .command lane ⟨dialect.commands.pack, directory⟩ before (.ok packed) :: rest ∧
    (cloned.ok ∧ renamed.ok ∧ installed.ok ∧ packed.ok) ∧
    commandsOf front =
      (⟨packaging.repo.cloneCommand reference.name clone, clone.parent⟩, .ok cloned) ::
      (⟨dialect.commands.rename ++ ["name=" ++ packageName role], directory⟩, .ok renamed) ::
      (⟨dialect.commands.install, directory⟩, .ok installed) :: built ∧
    (built = [] ∨ ∃ result : CommandResult, result.ok ∧
      built = [(⟨dialect.commands.build, directory⟩, .ok result)]) ∧
    commandsOf rest = [] ∧ readsOf rest = [(packaging.manifestPath scratch role, tree)] ∧
    Manifest.HeldBy manifest tree ((packaging.manifestPath scratch role).route host.cwd)
      packaging.depth

theorem Packed.read {packaging : Packaging} {reference : Reference} {role : String} {scratch : Path}
    {manifest : Fields} (h : packaging.Packed reference role scratch host lane manifest record) :
    ∃ path tree, (path, tree) ∈ readsOf record ∧
      Manifest.HeldBy manifest tree (path.route host.cwd) packaging.depth := by
  obtain ⟨_, front, rest, _, tree, _, _, _, _, _, rfl, _, _, _, _, hreads, hheld⟩ := h.packed
  exact ⟨_, tree, by simp [hreads], hheld⟩

section

variable {α : Type} {value : α}

theorem course_cloning {repo : Repository} {reference : String} {target directory manifest : Path}
    {depth : Nat} {text : Dialect → String} {next : Dialect → Script α}
    (h : (do
      repo.clone reference target
      let _ ← Manifest.load manifest depth
      let dialect ← Dialect.detect directory
      info (text dialect)
      next dialect).Course host lane record (.ok value)) :
    ∃ dialect front rest, record = front ++ rest ∧
      (next dialect).Course host lane rest (.ok value) ∧ ∃ cloned, cloned.ok ∧
        commandsOf front = [(⟨repo.cloneCommand reference target, target.parent⟩, .ok cloned)] := by
  obtain ⟨clones, _, _, rfl, hclone, hloading⟩ := course_bind_ok.1 h
  obtain ⟨cloned, hcloned, _, hclones⟩ := Repository.course_clone hclone
  obtain ⟨_, _, _, rfl, hload, hdetecting⟩ := course_bind_ok.1 hloading
  obtain ⟨tree, rfl, _⟩ := Manifest.course_load hload
  obtain ⟨_, dialect, _, rfl, hdetect, hnoting⟩ := course_bind_ok.1 hdetecting
  obtain rfl := Dialect.course_detectAmong hdetect
  obtain ⟨rest, rfl, hrest⟩ := course_info_bind.1 hnoting
  exact ⟨dialect, clones ++ [.read lane manifest tree, .note lane .info (text dialect)], rest,
    by simp, hrest, cloned, hcloned, by simp [hclones]⟩

theorem course_preparing {directory : Path} {role reference : String} {dialect : Dialect} {depth : Nat}
    {next : Script α}
    (h : (do
      rename directory (packageName role) dialect reference
      install directory dialect reference false
      runBuild directory dialect reference depth
      next).Course host lane record (.ok value)) :
    ∃ front rest, record = front ++ rest ∧ next.Course host lane rest (.ok value) ∧
      ∃ renamed installed built, renamed.ok ∧ installed.ok ∧
        commandsOf front =
          (⟨dialect.commands.rename ++ ["name=" ++ packageName role], directory⟩, .ok renamed) ::
          (⟨dialect.commands.install, directory⟩, .ok installed) :: built ∧
        (built = [] ∨ ∃ result : CommandResult, result.ok ∧
          built = [(⟨dialect.commands.build, directory⟩, .ok result)]) := by
  obtain ⟨renames, _, _, rfl, hrename, hinstalling⟩ := course_bind_ok.1 h
  obtain ⟨renamed, hrenamed, _, hrenames⟩ := course_rename hrename
  obtain ⟨installs, _, _, rfl, hinstall, hbuilding⟩ := course_bind_ok.1 hinstalling
  obtain ⟨installed, hinstalled, _, hinstalls⟩ := course_install hinstall
  obtain ⟨builds, _, rest, rfl, hbuild, hrest⟩ := course_bind_ok.1 hbuilding
  obtain ⟨_, _, _, _, hbuilds⟩ := course_runBuild hbuild
  refine ⟨renames ++ (installs ++ builds), rest, by simp, hrest, renamed, installed,
    commandsOf builds, hrenamed, hinstalled, ?_, ?_⟩
  · simp [hrenames, hinstalls, installCommand]
  · split at hbuilds
    · exact .inr hbuilds
    · exact .inl hbuilds

theorem course_report {path : Path} {depth : Nat} {source : String}
    {report : Fields → Option String → α}
    (h : (do
      let manifest ← Manifest.load path depth
      match Manifest.declaredVersion manifest source with
      | .error cause => fail cause
      | .ok version => return report manifest version).Course host lane record (.ok value)) :
    ∃ tree manifest version, record = [.read lane path tree] ∧
      Manifest.HeldBy manifest tree (path.route host.cwd) depth ∧
      Manifest.Declares manifest version ∧
      value = report manifest (version.map fun v => String.ofList v.render) := by
  obtain ⟨_, manifest, _, rfl, hload, hend⟩ := course_bind_ok.1 h
  obtain ⟨tree, rfl, hheld⟩ := Manifest.course_load hload
  split at hend
  · exact nomatch (course_fail.1 hend).2
  · next declared hdeclared =>
    obtain ⟨rfl, hvalue⟩ := course_done.1 hend
    obtain ⟨version, hversion, rfl⟩ := Manifest.declares_of_declaredVersion hdeclared
    exact ⟨tree, manifest, version, rfl, hheld, hversion, Except.ok.inj hvalue⟩

end

theorem course_build {packaging : Packaging} {reference : Reference} {role : String}
    {scratch : Path} {artifact : Artifact}
    (h : (packaging.build reference role scratch).Course host lane record (.ok artifact)) :
    ∃ manifest version, packaging.Packed reference role scratch host lane manifest record ∧
      Manifest.Declares manifest version ∧
      artifact = ⟨role, reference, Manifest.entryPoints manifest,
        version.map fun v => String.ofList v.render, archivePath scratch role⟩ := by
  obtain ⟨_, _, _, rfl, hmake, hcloning⟩ := course_bind_ok.1 h
  obtain rfl := course_makeDirectory hmake
  obtain ⟨dialect, clones, _, rfl, hpreparing, cloned, hcloned, hclones⟩ := course_cloning hcloning
  obtain ⟨prepares, _, rfl, hpacking, renamed, installed, built, hrenamed, hinstalled, hprepares,
    hbuilt⟩ := course_preparing hpreparing
  obtain ⟨_, archive, _, rfl, hpack, hreporting⟩ := course_bind_ok.1 hpacking
  obtain ⟨rfl, text, packed, before, rest, hpacked, rfl, hcommands, hreads⟩ := course_pack hpack
  obtain ⟨tree, manifest, version, rfl, hheld, hversion, hartifact⟩ := course_report hreporting
  refine ⟨manifest, version, ⟨dialect, clones ++ (prepares ++ [.note lane .info text]),
    rest ++ [.read lane (packaging.manifestPath scratch role) tree], before, tree, cloned, renamed,
    installed, packed, built, ?_, ⟨hcloned, hrenamed, hinstalled, hpacked⟩, ?_, hbuilt, ?_, ?_,
    hheld⟩, hversion, hartifact⟩
  · simp [manifestPath]
  · simp [hclones, hprepares]
  · simp [hcommands]
  · simp [hreads]

end Packaging

end NextRelease
