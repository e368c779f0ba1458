import NextRelease.Proofs.Decision.Gating
import NextRelease.Proofs.Decision.Raising
import NextRelease.Proofs.Package.Clone

/-! What a decision keeps to. It asks the repository in its root directory, works in its scratch
directory and nowhere else, tags nothing, and leaves no scratch directory behind. -/

namespace NextRelease

open Script

/-- A command that may make a tag or change one. -/
def Command.Tags (command : Command) : Prop :=
  ∃ rest, command.argv = "git" :: "tag" :: rest ∧ rest.head? ≠ some "--list"

/-- A path that leads to a directory or, without a way up, to something below it. -/
def Path.IsWithin (directory path : Path) : Prop :=
  path.slashes = directory.slashes ∧
    ∃ names, path.names = directory.names ++ names ∧ ".." ∉ names

theorem Path.isWithin_self (directory : Path) : directory.IsWithin directory :=
  ⟨rfl, [], (List.append_nil _).symm, List.not_mem_nil⟩

/-! ## Commands -/

theorem Repository.IsQuery.not_tags {command : Command} (h : IsQuery command.argv) :
    ¬command.Tags := by
  rintro ⟨rest, hargv, hrest⟩
  rw [hargv] at h
  generalize hall : "git" :: "tag" :: rest = argv at h
  cases h <;> simp_all [verifyCommand, ancestorCommand]

theorem Dialect.not_tags (dialect : Dialect) {argv : List String} {cwd : Path}
    (h : argv ∈ [dialect.commands.install, dialect.commands.installProduction,
      dialect.commands.build, dialect.commands.pack]) : ¬Command.Tags ⟨argv, cwd⟩ := by
  rintro ⟨rest, hargv, _⟩
  cases hargv
  cases dialect <;> simp [commands] at h

theorem Dialect.not_tags_rename (dialect : Dialect) (name : String) (cwd : Path) :
    ¬Command.Tags ⟨dialect.commands.rename ++ [name], cwd⟩ := by
  rintro ⟨rest, hargv, _⟩
  cases dialect <;> simp [commands] at hargv

namespace Packaging

variable {packaging : Packaging} {reference : String} {revision : Revision} {scratch : Path}
  {command : Command}

theorem Work.not_tags (h : packaging.Work reference revision scratch command) : ¬command.Tags := by
  cases h with
  | clone => simp [Command.Tags, Repository.cloneCommand]
  | rename dialect => exact dialect.not_tags_rename _ _
  | install dialect => exact dialect.not_tags (by simp)
  | build dialect => exact dialect.not_tags (by simp)
  | pack dialect => exact dialect.not_tags (by simp)

theorem Work.isWithin (h : packaging.Work reference revision scratch command)
    (hrelative : packaging.packagePath.slashes = 0)
    (hnames : ".." ∉ packaging.packagePath.names) : scratch.IsWithin command.cwd := by
  have hclone := scratch.child_eq revision.isEntryName_name
  have hparent : scratch.IsWithin (scratch.child revision.name).parent := by
    rw [hclone, Path.parent, List.dropLast_concat]
    exact scratch.isWithin_self
  have hpackage : scratch.IsWithin (packaging.packageDirectory (scratch.child revision.name)) := by
    have hup : ".." ≠ revision.name := by cases revision <;> decide
    refine ⟨?_, revision.name :: packaging.packagePath.names, ?_, by simp [hup, hnames]⟩
    · simp [packageDirectory, Path.join, Path.isAbsolute, hrelative, hclone]
    · simp [packageDirectory, Path.join, Path.isAbsolute, hrelative, hclone]
  cases h with
  | clone => exact hparent
  | rename dialect => exact hpackage
  | install dialect => exact hpackage
  | build dialect => exact hpackage
  | pack dialect => exact hpackage

end Packaging

namespace Decision

variable {s : Subject} {host : Host} {w w' : World} {front record : List Event}

structure Subject.IsInside (s : Subject) : Prop where
  relative : s.packagePath.slashes = 0
  names : ".." ∉ s.packagePath.names

theorem exec_placeOf? {path : Path} {depth : Nat} {place : Place}
    (h : (placeOf? path depth).exec host .main w = (.ok (some place), w')) :
    ".." ∉ place ∧ w' = w := by
  simp only [placeOf?, Script.exec, Request.perform] at h
  cases hresolve : w.files.resolve host.cwd path depth with
  | error cause =>
    rw [hresolve] at h
    cases cause <;> cases h
  | ok found =>
    rw [hresolve] at h
    cases h
    exact ⟨FileTree.not_mem_of_resolve hresolve, rfl⟩

theorem Subject.of_ok {repo : Repository} {directory : Path} {settings : Settings} {depth : Nat}
    (h : (Subject.of repo directory settings depth).exec host .main w = (.ok s, w')) :
    s.IsInside ∧ s.repo = repo ∧ s.settings = settings := by
  obtain ⟨found, v, hfound, h⟩ := exec_bind_ok.1 h
  cases found with
  | none => cases h
  | some place =>
    obtain ⟨found', v', hfound', h⟩ := exec_bind_ok.1 h
    cases found' with
    | none => cases h
    | some root =>
      dsimp only at h
      split at h
      · cases h
        exact ⟨⟨rfl, fun hmem => (exec_placeOf? hfound).1 (List.mem_of_mem_drop hmem)⟩, rfl, rfl⟩
      · cases h

/-- A command keeps to the repository's queries or to the scratch directory. -/
def Subject.Confines (s : Subject) (record : List Event) (command : Command) : Prop :=
  ¬command.Tags ∧
    (s.repo.Query command ∨ ∃ scratch, .scratch scratch ∈ record ∧ scratch.IsWithin command.cwd)

theorem Subject.Admits.not_tags {lane : Lane} {command : Command} {before : FileTree}
    {reply : Reply} (h : s.Admits host front (.command lane command before reply)) :
    ¬command.Tags := by
  cases h with
  | query hquery => exact hquery.words.not_tags
  | work _ _ hwork => exact hwork.elim (·.not_tags) (·.not_tags)
  | @install _ _ _ dialect => exact dialect.not_tags (by simp)
  | check => simp [Command.Tags, checkCommand]

theorem Subject.Admits.confines {lane : Lane} {command : Command} {before : FileTree}
    {reply : Reply} (hinside : s.IsInside)
    (h : s.Admits host front (.command lane command before reply)) : s.Confines front command := by
  refine ⟨h.not_tags, ?_⟩
  cases h with
  | query hquery => exact .inl hquery
  | work _ hscratch hwork =>
    obtain hwork | hwork := hwork
    · exact .inr ⟨_, hscratch, hwork.isWithin hinside.relative hinside.names⟩
    · exact .inr ⟨_, hscratch, hwork.isWithin hinside.relative hinside.names⟩
  | @install _ _ scratch _ _ _ _ hscratch _ =>
    exact .inr ⟨scratch, hscratch, scratch.isWithin_self⟩
  | @check _ _ scratch _ _ _ _ _ hscratch =>
    exact .inr ⟨scratch, hscratch, scratch.isWithin_self⟩

/-! ## The scratch directory -/

/-- There was at most one scratch directory, and it is gone unless every attempt to remove it was
refused. -/
structure Tidy (host : Host) (record : List Event) (files : FileTree) : Prop where
  unique : ∀ scratch scratch', .scratch scratch ∈ record → .scratch scratch' ∈ record →
    scratch = scratch'
  removed : ∀ scratch, .scratch scratch ∈ record → Scratch.Removed host scratch record files

section Tidy

variable {rest : List Event} {files : FileTree}

theorem Tidy.append (h : Tidy host front files) (hrest : ∀ scratch, .scratch scratch ∉ rest) :
    Tidy host (front ++ rest) files := by
  have hfront {scratch : Path} (hmem : .scratch scratch ∈ front ++ rest) : .scratch scratch ∈ front :=
    (List.mem_append.1 hmem).resolve_right (hrest scratch)
  exact ⟨fun _ _ hmem hmem' => h.unique _ _ (hfront hmem) (hfront hmem'),
    fun scratch hmem => (h.removed scratch (hfront hmem)).mono (List.prefix_append _ _).isInfix⟩

theorem Tidy.prepend (h : Tidy host rest files) (hfront : ∀ scratch, .scratch scratch ∉ front) :
    Tidy host (front ++ rest) files := by
  have hrest {scratch : Path} (hmem : .scratch scratch ∈ front ++ rest) : .scratch scratch ∈ rest :=
    (List.mem_append.1 hmem).resolve_left (hfront scratch)
  exact ⟨fun _ _ hmem hmem' => h.unique _ _ (hrest hmem) (hrest hmem'),
    fun scratch hmem => (h.removed scratch (hrest hmem)).mono (List.suffix_append _ _).isInfix⟩

end Tidy

variable {previous current : Reference}

theorem scriptlike_examine (s : Subject) (previous current : Reference) (scratch : Path)
    (w : World) : (examine s previous current scratch).Scriptlike host w :=
  Run.scriptlike_bind (Run.scriptlike_both (by decide) _ _) fun _ _ =>
    Run.scriptlike_bind (Run.scriptlike_bind (Run.scriptlike_lift _) fun _ _ =>
      Run.scriptlike_bind (Run.scriptlike_lift _) fun _ _ =>
        Run.scriptlike_bind (Run.scriptlike_lift _) fun _ _ =>
          Run.scriptlike_bind (Run.scriptlike_both (by decide) _ _) fun _ _ =>
            Run.ensures_pure (by simp)) fun _ _ => Run.ensures_pure (by simp)

end Decision

end NextRelease
