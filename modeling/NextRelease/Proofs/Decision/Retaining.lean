import NextRelease.Proofs.Decision.Working
import NextRelease.Proofs.Files.Sharing
import NextRelease.Proofs.Run.Territory

/-! Places that a decision retains. Where the commands leave some places alone, so does a decision,
except that a file may be gone that a package manager reported as its archive. A file that is still
read after that is the one that was there. -/

namespace NextRelease

open FileTree Script

def FileTree.Retains (kept : Place → Bool) (tree tree' : FileTree) : Prop :=
  ∀ place node, kept place → tree.get? place = some node →
    tree'.get? place = some node ∨ tree'.get? place = none ∧ ∃ content, node = .file content

structure Host.LeavesAlone (host : Host) (kept : Place → Bool) (w : World) (record : List Event) :
    Prop where
  grounded : w.files.Grounded
  sharing : w.files.SharesAlike
  grounds : host.Kept FileTree.Grounded w.events record
  shares : host.Kept FileTree.SharesAlike w.events record
  alone : ∀ tree, host.Kept (AgreeOutside (fun place => kept place = false) tree) w.events record
  works : ∀ scratch, .scratch scratch ∈ record → ∀ directory,
    host.Kept (Workplace host scratch directory) w.events record

/-! ## The work in a scratch directory -/

structure Guards (host : Host) (scratch : Path) (directory : Place) (kept : Place → Bool)
    (base tree : FileTree) : Prop where
  work : Workplace host scratch directory tree
  retains : base.Retains kept tree

section Guarding

variable {host : Host} {scratch : Path} {directory : Place} {kept : Place → Bool}
  {base tree tree' : FileTree}

theorem FileTree.Retains.of_get? (h : base.Retains kept tree)
    (hget : ∀ place node, base.get? place = some node → tree'.get? place = tree.get? place) :
    base.Retains kept tree' := by
  intro place node hplace hnode
  rw [hget place node hnode]
  exact h place node hplace hnode

variable (hbelow : ∀ place, directory <+: place → base.get? place = none)

include hbelow

theorem not_prefix_of_get? {place : Place} {node : FileNode} (h : base.get? place = some node) :
    ¬directory <+: place := fun hprefixed => by
  cases h.symm.trans (hbelow place hprefixed)

namespace Guards

theorem makeDirectory (h : Guards host scratch directory kept base tree) {revision : Revision}
    (hmade : tree.makeDirectory ((scratch.child revision.name).route host.cwd) = .ok tree') :
    Guards host scratch directory kept base tree' := by
  obtain ⟨hwork, hget⟩ := h.work.makeDirectory hmade
  refine ⟨hwork, h.retains.of_get? fun place node hnode => ?_⟩
  rw [hget, if_neg (not_prefix_child (not_prefix_of_get? hbelow hnode) _)]

theorem write (h : Guards host scratch directory kept base tree) {name : String}
    (hname : name ∈ scratchFiles) {content : ByteArray}
    (hwrite : tree.write (scratchRoute host scratch name) content = .ok tree') :
    Guards host scratch directory kept base tree' := by
  obtain ⟨hwork, hget⟩ := h.work.write hname hwrite
  refine ⟨hwork, h.retains.of_get? fun place node hnode => ?_⟩
  rw [hget, if_neg (not_prefix_child (not_prefix_of_get? hbelow hnode) _)]

theorem moveFile (h : Guards host scratch directory kept base tree) {name : String}
    (hname : name ∈ scratchFiles) {source : Place}
    (hmove : tree.moveFile source (scratchRoute host scratch name) = .ok tree') :
    Guards host scratch directory kept base tree' := by
  obtain ⟨hwork, _, content, hsource, hget⟩ := h.work.moveFile hname hmove
  refine ⟨hwork, fun place node hplace hnode => ?_⟩
  rw [hget, if_neg (not_prefix_child (not_prefix_of_get? hbelow hnode) _)]
  by_cases hmoved : place = source
  · rw [if_pos hmoved]
    rcases h.retains place node hplace hnode with hsame | ⟨hnone, _⟩
    · rw [hmoved] at hsame
      exact .inr ⟨rfl, content, Option.some.inj (hsame.symm.trans hsource)⟩
    · rw [hmoved] at hnone
      cases hnone.symm.trans hsource
  · rw [if_neg hmoved]
    exact h.retains place node hplace hnode

theorem removeTree (h : Guards host scratch directory kept base tree) :
    base.Retains kept (tree.removeTree (scratch.route host.cwd)).2 :=
  h.retains.of_get? fun _ _ hnode => h.work.removeTree (not_prefix_of_get? hbelow hnode)

end Guards

theorem Request.Works.leaves_guards {β : Type} {request : Request β} (h : request.Works scratch) :
    request.Leaves host (Guards host scratch directory kept base) := by
  have hlooks (h : request.Looks fun _ => False) :
      request.Leaves host (Guards host scratch directory kept base) := h.leaves
  cases request with
  | run command => trivial
  | removeTree path => exact h.elim
  | write path content =>
    obtain ⟨name, hname, rfl⟩ := h
    exact fun _ w hw => w.files_update_ok _ hw fun _ hwrite => hw.write hbelow hname hwrite
  | makeDirectory path =>
    obtain ⟨revision, rfl⟩ := h
    exact fun _ w hw => w.files_update_ok _ hw fun _ hmade => hw.makeDirectory hbelow hmade
  | move source destination =>
    -- The destination stays a variable, or the tree would be computed.
    obtain ⟨revision, hdestination⟩ := h
    refine fun lane w hw => World.files_update_ok
      (w := w.record (.move lane source destination)) _ hw fun _ hmove => ?_
    rw [hdestination] at hmove
    exact hw.moveFile hbelow (archiveName_mem revision) hmove
  | _ => exact hlooks trivial

end Guarding

theorem Request.leaves_sharesAlike {β : Type} (request : Request β) (host : Host) :
    request.Leaves host SharesAlike := by
  have hlooks (h : request.Looks fun _ => False) : request.Leaves host SharesAlike := h.leaves
  cases request with
  | run command => trivial
  | write path content => exact fun _ w hw => w.files_update_ok _ hw fun _ => hw.write
  | makeDirectory path => exact fun _ w hw => w.files_update_ok _ hw fun _ => hw.makeDirectory
  | move source destination =>
    exact fun lane w hw => World.files_update_ok (w := w.record (.move lane source destination)) _ hw
      fun _ => hw.moveFile
  | removeTree path => exact fun _ _ hw => hw.removeTree _
  | _ => exact hlooks trivial

/-! ## The decision -/

namespace Host.LeavesAlone

variable {host : Host} {kept : Place → Bool} {w v : World} {front rest record : List Event}

theorem of_append_left (h : host.LeavesAlone kept w (front ++ rest)) :
    host.LeavesAlone kept w front where
  grounded := h.grounded
  sharing := h.sharing
  grounds := h.grounds.of_append_left
  shares := h.shares.of_append_left
  alone tree := (h.alone tree).of_append_left
  works scratch hscratch directory :=
    (h.works scratch (List.mem_append_left _ hscratch) directory).of_append_left

theorem looked (h : host.LeavesAlone kept w record) (hlooked : w.Looked host v)
    (hevents : v.events = w.events ++ record) :
    v.files.Grounded ∧ AgreeOutside (fun place => kept place = false) w.files v.files :=
  ⟨hlooked.keeps h.grounded hevents h.grounds,
    hlooked.keeps (.refl _ _) hevents (h.alone w.files)⟩

theorem guards (h : host.LeavesAlone kept w record) (scratch : Path)
    (hscratch : .scratch scratch ∈ record) (directory : Place) (base : FileTree) :
    host.Kept (Guards host scratch directory kept base) w.events record := by
  intro before lane command tree reply rest hrecord hguards
  refine ⟨h.works scratch hscratch directory _ _ _ _ _ _ hrecord hguards.work,
    fun place node hplace hnode => ?_⟩
  have halone := h.alone tree _ _ _ _ _ _ hrecord (.refl _ _)
  rw [halone place (by simp [hplace])]
  exact hguards.retains place node hplace hnode

end Host.LeavesAlone

namespace Decision

variable {s : Subject} {host : Host} {kept : Place → Bool} {w w' : World} {record : List Event}

theorem Went.retains (h : Went s host w record w') (hevents : w'.events = w.events ++ record)
    (hleaves : host.LeavesAlone kept w record) : w.files.Retains kept w'.files := by
  cases h with
  | looked hlooked _ =>
    obtain ⟨_, hagree⟩ := hleaves.looked hlooked hevents
    refine fun place node hplace hnode => .inl ?_
    rw [hagree place (by simp [hplace]), hnode]
  | @worked front worked rest scratch text previous current v made removed _ gone hlooked hfront hnone
      hmake hmade hworked hclean hremove hsame _ =>
    obtain ⟨hgrounded, hagree⟩ := hleaves.of_append_left.looked hlooked hfront
    obtain ⟨_, hmakes, _⟩ := Scratch.make_ok hmake
    obtain ⟨directory, hdirectory, hwork, hget⟩ := Workplace.of_makeDirectory hgrounded hmakes
    have hbelow (place : Place) (h : directory <+: place) : v.files.get? place = none :=
      hgrounded.get?_below hdirectory h
    have hbegin : Guards host scratch directory kept v.files made.files := by
      refine ⟨hwork, fun place node _ hnode => .inl ?_⟩
      rw [hget, if_neg, hnode]
      rintro rfl
      cases hdirectory.symm.trans hnode
    have hkept := kept_worked hfront hmade (hleaves.guards scratch (by simp) directory v.files)
    have hsince := preserves_examine
      (fun _ hrequest => (Request.Works.leaves_guards hbelow hrequest).keeps_since made) s previous
      current made (.refl host hbegin)
    obtain ⟨hafter, _⟩ := hsince.of_kept hworked hkept
    have hlast : v.files.Retains kept w'.files := by
      rw [hsame]
      exact holds_removeTree (v.files.Retains kept) hremove hafter.retains (hafter.removeTree hbelow)
    refine fun place node hplace hnode => hlast place node hplace ?_
    rw [hagree place (by simp [hplace]), hnode]

theorem Went.sharesAlike (h : Went s host w record w') (hevents : w'.events = w.events ++ record)
    (hsharing : w.files.SharesAlike) (hkept : host.Kept SharesAlike w.events record) :
    w'.files.SharesAlike := by
  cases h with
  | looked hlooked _ => exact hlooked.keeps hsharing hevents hkept
  | @worked front worked rest scratch text previous current v made removed _ gone hlooked hfront hnone
      hmake hmade hworked hclean hremove hsame _ =>
    obtain ⟨_, hmakes, _⟩ := Scratch.make_ok hmake
    have hbegin : made.files.SharesAlike :=
      (hlooked.keeps hsharing hfront hkept.of_append_left).makeDirectory hmakes
    have hleaves {β : Type} (request : Request β) (_ : request.Works scratch) :=
      (request.leaves_sharesAlike host).keeps_since made
    have hsince := preserves_examine hleaves s previous current made (.refl host hbegin)
    obtain ⟨hafter, _⟩ := hsince.of_kept hworked (kept_worked hfront hmade hkept)
    rw [hsame]
    exact holds_removeTree SharesAlike hremove hafter (hafter.removeTree _)

end Decision

/-! ## Files that are still read -/

namespace FileTree

variable {kept : Place → Bool} {tree tree' tree'' updated : FileTree} {route : Route}
  {content bytes : ByteArray}

def HasFile (tree : FileTree) (kept : Place → Bool) (route : Route) (content : ByteArray) : Prop :=
  (tree.restrict kept).find? route = some (.file content)

theorem get?_of_restrict {place : Place} {node : FileNode}
    (h : (tree.restrict kept).get? place = some node) :
    tree.get? place = some node ∧ (place = [] ∨ kept place) := by
  by_cases hroot : place = []
  · subst hroot
    exact ⟨h, .inl rfl⟩
  · rw [get?_restrict _ _ hroot] at h
    split at h
    · next hplace => exact ⟨h, .inr hplace⟩
    · cases h

theorem HasFile.place (h : tree.HasFile kept route content) :
    ∃ goal, (tree.restrict kept).locate route = .ok goal ∧ kept goal ∧
      tree.get? goal = some (.file content) := by
  unfold HasFile find? at h
  split at h
  · next goal hlocate =>
    obtain ⟨hfile, hgoal⟩ := get?_of_restrict h
    refine ⟨goal, hlocate, hgoal.resolve_left ?_, hfile⟩
    rintro rfl
    cases hfile
  · cases h

theorem Retains.keepsWays (h : tree.Retains kept tree') : KeepsWays (tree.restrict kept) tree' := by
  intro place node hway hget
  obtain ⟨hget, rfl | hplace⟩ := get?_of_restrict hget
  · exact hget
  · rcases h place node hplace hget with hsame | ⟨_, content, rfl⟩
    · exact hsame
    · cases hway

theorem Retains.refl (kept : Place → Bool) (tree : FileTree) : tree.Retains kept tree :=
  fun _ _ _ => .inl

theorem HasFile.of_read (h : tree.HasFile kept route content) (hretains : tree.Retains kept tree')
    (hread : tree'.read route = .ok bytes) :
    bytes = content ∧ ∃ goal, (tree.restrict kept).locate route = .ok goal ∧ kept goal ∧
      tree'.locate route = .ok goal ∧ tree'.get? goal = some (.file content) := by
  obtain ⟨goal, hlocate, hgoal, hfile⟩ := h.place
  have hretained := hretains goal _ hgoal hfile
  have hlocate' : tree'.locate route = .ok goal := by
    refine locate_of_keepsWays hlocate hretains.keepsWays fun _ => ?_
    rcases hretained with hsame | ⟨hnone, _⟩
    · rw [hsame]
      trivial
    · rw [hnone]
      trivial
  rcases hretained with hsame | ⟨hnone, _⟩
  · have hcontent := read_of_locate hlocate' hsame
    exact ⟨Except.ok.inj (hread.symm.trans hcontent), goal, hlocate, hgoal, hlocate', hsame⟩
  · obtain ⟨goal', hgoal', hread⟩ := bind_eq_ok.1 hread
    obtain rfl : goal = goal' := Except.ok.inj (hlocate'.symm.trans hgoal')
    rw [hnone] at hread
    cases hread

theorem HasFile.read (h : tree.HasFile kept route content) : tree.read route = .ok content := by
  obtain ⟨goal, hlocate, _, hfile⟩ := h.place
  have hlocate : tree.locate route = .ok goal := by
    refine locate_of_keepsWays hlocate (Retains.refl kept tree).keepsWays fun _ => ?_
    rw [hfile]
    trivial
  exact read_of_locate hlocate hfile

theorem HasFile.of_write (h : tree.HasFile kept route content) (hretains : tree.Retains kept tree')
    (hsharing : tree'.SharesAlike) (hread : tree'.read route = .ok bytes) {text : ByteArray}
    (hwrite : tree'.write route text = .ok updated)
    (halone : AgreeOutside (fun place => kept place = false) updated tree'') :
    tree''.read route = .ok text := by
  obtain ⟨_, goal, hlocate, hgoal, hlocate', hfile⟩ := h.of_read hretains hread
  obtain ⟨hwritten, hways⟩ := hsharing.get?_write hlocate' hfile hwrite
  have hlast : tree''.get? goal = some (.file text) := by
    rw [halone goal (by simp [hgoal]), hwritten]
  have hlater : KeepsWays (tree.restrict kept) tree'' := by
    intro place node hway hget
    have hupdated := hways place node hway (hretains.keepsWays place node hway hget)
    obtain ⟨_, rfl | hplace⟩ := get?_of_restrict hget
    · exact hupdated
    · rw [halone place (by simp [hplace]), hupdated]
  have hlocate'' : tree''.locate route = .ok goal := by
    refine locate_of_keepsWays hlocate hlater fun _ => ?_
    rw [hlast]
    trivial
  exact read_of_locate hlocate'' hlast

end FileTree

end NextRelease
