import NextRelease.Proofs.Package.Clone
import NextRelease.Witness

/-! The scratch directory while both revisions are packed. Each has a clone and an archive there to
itself; all else stays as it was when the directory was made. -/

namespace NextRelease

open FileTree

def Revision.archiveName (revision : Revision) : String := packageName revision.name ++ ".tgz"

def Revision.entries (revision : Revision) : List String := [revision.name, revision.archiveName]

def Revision.other : Revision → Revision
  | previous => current
  | current => previous

theorem Revision.entries_disjoint {revision : Revision} {name : String}
    (h : name ∈ revision.entries) : name ∉ revision.other.entries := by
  cases revision <;> revert h <;> simp only [entries, List.mem_cons, List.not_mem_nil, or_false]
  · rintro (rfl | rfl) <;> decide
  · rintro (rfl | rfl) <;> decide

theorem Revision.isEntryName_archive (revision : Revision) :
    IsEntryName revision.archiveName := by
  cases revision
  · exact ⟨by cbv, by decide⟩
  · exact ⟨by cbv, by decide⟩

theorem Dialect.isEntryName_of_mem {marker : String × Dialect} (h : marker ∈ lockFiles) :
    IsEntryName marker.1 := by
  simp only [lockFiles, List.mem_cons, List.not_mem_nil, or_false] at h
  obtain rfl | rfl | rfl | rfl := h
  · exact ⟨by cbv, by decide⟩
  · exact ⟨by cbv, by decide⟩
  · exact ⟨by cbv, by decide⟩
  · exact ⟨by cbv, by decide⟩

namespace Packaging

def Territory (scratch : Place) (revision : Revision) (place : Place) : Prop :=
  ∃ name ∈ revision.entries, scratch ++ [name] <+: place

theorem eq_of_prefixes {scratch place : Place} {name name' : String}
    (h : scratch ++ [name] <+: place) (h' : scratch ++ [name'] <+: place) : name = name' := by
  have := List.prefix_of_prefix_length_le h h' (by simp)
  simpa using this.eq_of_length (by simp)

theorem Territory.disjoint {scratch place : Place} {revision : Revision}
    (h : Territory scratch revision place) : ¬Territory scratch revision.other place := by
  obtain ⟨name, hname, hplace⟩ := h
  rintro ⟨name', hname', hplace'⟩
  exact Revision.entries_disjoint hname (eq_of_prefixes hplace hplace' ▸ hname')

theorem territory_clone {scratch place : Place} {revision : Revision}
    (h : scratch ++ [revision.name] <+: place) : Territory scratch revision place :=
  ⟨revision.name, by simp [Revision.entries], h⟩

theorem territory_archive (scratch : Place) (revision : Revision) :
    Territory scratch revision (scratch ++ [revision.archiveName]) :=
  ⟨_, by simp [Revision.entries], List.prefix_refl _⟩

def Elsewhere (made : FileTree) (scratch : Place) (tree : FileTree) : Prop :=
  AgreeOutside (fun place => ∃ revision, Territory scratch revision place) made tree

def workspaceFiles : List String :=
  [Manifest.fileName, Witness.forwardFile, Witness.backwardFile] ++ Dialect.lockFiles.map (·.1)

structure Fits (packaging : Packaging) (host : Host) (scratch : Path) : Prop where
  revisions : ∀ revision : Revision, ∀ name ∈ revision.entries, host.Accepts (scratch.child name)
  workspace : ∀ name ∈ workspaceFiles, host.Accepts (scratch.child name)
  package : ∀ revision : Revision, ∀ name ∈ Manifest.fileName :: Dialect.lockFiles.map (·.1),
    host.Accepts ((packaging.packageDirectory (scratch.child revision.name)).child name)
  relative : packaging.packagePath.slashes = 0
  names : ∀ name ∈ packaging.packagePath.names, IsName name

structure Room (packaging : Packaging) (host : Host) (scratch : Path) (made : FileTree) : Prop
    extends packaging.Fits host scratch where
  named : ∃ name ∈ host.randomNames, scratch = host.scratchNamed name
  straight : made.Straight (host.place scratch)
  empty : ∀ place, host.place scratch <+: place → place ≠ host.place scratch →
    made.get? place = none

section Stages

variable {packaging : Packaging} {host : Host} {lane : Lane} {scratch : Path} {made : FileTree}
  {tree tree' : FileTree} {revision : Revision} {version : Option Version} {dialect : Dialect}
  {reference : String} {cloned : Place → FileTree → Prop}

theorem Elsewhere.refl (made : FileTree) (scratch : Place) : Elsewhere made scratch made :=
  AgreeOutside.refl _ _

theorem apart_elsewhere {territory : Place → Prop} {scratch : Place} (revision : Revision)
    (h : ∀ place, territory place → Territory scratch revision place) :
    Apart territory (Elsewhere made scratch) :=
  fun _ _ hagree helsewhere => helsewhere.trans (hagree.mono fun place hplace => ⟨revision, h place hplace⟩)

theorem Elsewhere.get?_name {scratch : Place} (h : Elsewhere made scratch tree) {name : String}
    (hname : ∀ revision : Revision, name ∉ revision.entries) :
    tree.get? (scratch ++ [name]) = made.get? (scratch ++ [name]) := by
  refine h _ ?_
  rintro ⟨revision, name', hname', hinside⟩
  exact hname revision (eq_of_prefixes hinside (List.prefix_refl _) ▸ hname')

theorem Elsewhere.straight {scratch : Place} (h : Elsewhere made scratch tree)
    (hmade : made.Straight scratch) : tree.Straight scratch := by
  refine ⟨hmade.names, fun front hfront => ?_⟩
  rw [h front, hmade.directories front hfront]
  rintro ⟨revision, name, _, hinside⟩
  have := (hinside.trans hfront).length_le
  rw [List.length_append, List.length_singleton] at this
  omega

theorem Room.get?_entry (hroom : packaging.Room host scratch made) (name : String) :
    made.get? (host.place scratch ++ [name]) = none :=
  hroom.empty _ (List.prefix_append _ _) fun heq => by simpa using congrArg List.length heq

theorem Room.get?_territory (hroom : packaging.Room host scratch made) {place : Place}
    (hplace : Territory (host.place scratch) revision place) : made.get? place = none := by
  obtain ⟨name, _, rest, rfl⟩ := hplace
  refine hroom.empty _ ((List.prefix_append _ _).trans (List.prefix_append _ _)) fun heq => ?_
  simpa using congrArg List.length heq

def Around (made : FileTree) (scratch : Place) (revision : Revision) (tree : FileTree) : Prop :=
  Elsewhere made scratch tree ∧
    tree.get? (scratch ++ [revision.archiveName]) = none

theorem apart_around_other {scratch : Place} :
    Apart (Territory scratch revision.other) (Around made scratch revision) :=
  (apart_elsewhere revision.other fun _ => id).and
    (apart_get? (territory_archive scratch revision).disjoint (· = none))

theorem apart_around_clone {scratch : Place} :
    Apart (scratch ++ [revision.name] <+: ·) (Around made scratch revision) := by
  refine (apart_elsewhere revision fun _ => territory_clone).and (apart_get? ?_ (· = none))
  intro hinside
  have hname := eq_of_prefixes hinside (List.prefix_refl _)
  cases revision <;> exact absurd hname (by decide)

theorem apart_of_clone {scratch : Place} {holds : FileTree → Prop}
    (h : Apart (fun place => ¬scratch ++ [revision.name] <+: place) holds) :
    Apart (Territory scratch revision.other) holds :=
  h.mono fun _ hterritory hclone => (territory_clone hclone).disjoint hterritory

theorem apart_checkout (clone : Place) :
    Apart (fun place => ¬clone <+: place) (packaging.Checkout version · clone) := by
  intro tree tree' hagree h
  have hbelow (rest : Place) : tree'.get? (clone ++ rest) = tree.get? (clone ++ rest) :=
    hagree _ (not_not_intro (List.prefix_append _ _))
  constructor
  · intro front hfront
    rw [hbelow, h.directories front hfront]
  · rw [List.append_assoc, hbelow, ← List.append_assoc]
    exact h.manifest

theorem apart_fresh (clone : Place) :
    Apart (fun place => ¬clone <+: place) (packaging.Fresh dialect · clone) := by
  intro tree tree' hagree h
  have hbelow (name : String) : tree'.get? (clone ++ packaging.packagePath.names ++ [name]) =
      tree.get? (clone ++ packaging.packagePath.names ++ [name]) := by
    rw [List.append_assoc]
    exact hagree _ (not_not_intro (List.prefix_append _ _))
  constructor
  · rw [← h.locked]
    simp only [Dialect.lockedAt, holdsFile, hbelow]
  · simpa only [hbelow] using h.noLink

theorem apart_archived (clone : Place) {directory : Path} {result : CommandResult} :
    Apart (fun place => ¬clone <+: place)
      (packaging.Archived host directory dialect result · clone) := by
  intro tree tree' hagree h
  have hbelow (rest : Place) : tree'.get? (clone ++ rest) = tree.get? (clone ++ rest) :=
    hagree _ (not_not_intro (List.prefix_append _ _))
  refine ⟨h.name, h.other, ?_, h.accepted⟩
  rw [List.append_assoc, hbelow, ← List.append_assoc]
  exact h.file

theorem place_packageDirectory (hrelative : packaging.packagePath.slashes = 0) :
    host.place (packaging.packageDirectory (scratch.child revision.name)) =
      host.place scratch ++ [revision.name] ++ packaging.packagePath.names := by
  have hclone : host.place (scratch.child revision.name) = host.place scratch ++ [revision.name] :=
    scratch.names_route_child host.cwd revision.isEntryName_name
  rw [← hclone]
  by_cases hslashes : (scratch.child revision.name).slashes = 0
  · simp [packageDirectory, Path.join, Path.isAbsolute, Host.place, Path.route, Path.fromRoot,
      hrelative, hslashes]
  · simp [packageDirectory, Path.join, Path.isAbsolute, Host.place, Path.route, Path.fromRoot,
      hrelative, hslashes]

/-! ## Routes into the clone -/

variable (hroom : packaging.Room host scratch made)

include hroom

theorem Room.entry (helsewhere : Elsewhere made (host.place scratch) tree) {name : String}
    (hname : IsEntryName name) (haccepts : host.Accepts (scratch.child name)) :
    tree.Entry ((scratch.child name).route host.cwd) (host.place scratch) name :=
  ⟨helsewhere.straight hroom.straight, scratch.names_route_child host.cwd hname, hname.2, haccepts⟩

theorem Room.names_directory :
    host.place (packaging.packageDirectory (scratch.child revision.name)) =
      host.place scratch ++ [revision.name] ++ packaging.packagePath.names :=
  place_packageDirectory hroom.relative

theorem Room.straight_package
    (helsewhere : Elsewhere made (host.place scratch) tree)
    (h : ∀ front, front <+: packaging.packagePath.names →
      tree.get? (host.place scratch ++ [revision.name] ++ front) = some .directory) :
    tree.Straight
      (host.place scratch ++ [revision.name] ++ packaging.packagePath.names) := by
  have hclone := (helsewhere.straight hroom.straight).child revision.isEntryName_name.2
    (by simpa using h [] List.nil_prefix)
  constructor
  · intro name hname
    obtain hname | hname := List.mem_append.1 hname
    · exact hclone.names name hname
    · exact hroom.names name hname
  · intro front hfront
    obtain hfront' | ⟨rest, rfl⟩ :=
      List.prefix_or_prefix_of_prefix hfront (List.prefix_append _ _)
    · exact hclone.directories front hfront'
    · exact h rest ((List.prefix_append_right_inj _).1 hfront)

theorem Room.entry_package
    (helsewhere : Elsewhere made (host.place scratch) tree)
    (h : ∀ front, front <+: packaging.packagePath.names →
      tree.get? (host.place scratch ++ [revision.name] ++ front) = some .directory)
    {name : String} (hname : IsEntryName name)
    (haccepts : host.Accepts
      ((packaging.packageDirectory (scratch.child revision.name)).child name)) :
    tree.Entry (((packaging.packageDirectory (scratch.child revision.name)).child name).route
        host.cwd)
      (host.place scratch ++ [revision.name] ++ packaging.packagePath.names) name :=
  ⟨hroom.straight_package helsewhere h,
    (Path.names_route_child _ _ hname).trans (congrArg (· ++ [name]) hroom.names_directory),
    hname.2, haccepts⟩

end Stages

end Packaging

end NextRelease
