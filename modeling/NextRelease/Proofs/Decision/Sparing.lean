import NextRelease.Proofs.Decision.Working

/-! Files that a decision spares. All that it changes by itself is in its scratch directory, so a file
that is reached without that directory stays as it is if the commands spare it, too. -/

namespace NextRelease

open FileTree Script

structure Shields (host : Host) (scratch : Path) (directory : Place) (route : Route) (goal : Place)
    (node : FileNode) (tree : FileTree) : Prop where
  enters : Enters tree mostLinks [] (scratch.route host.cwd).names directory
  plain : ∀ name ∈ scratchFiles, tree.Plain (scratchRoute host scratch name)
  reaches : tree.Reaches directory route goal node

namespace Shields

variable {host : Host} {scratch : Path} {directory goal : Place} {route : Route} {node : FileNode}
  {tree tree' : FileTree}

theorem workplace (h : Shields host scratch directory route goal node tree) :
    Workplace host scratch directory tree := ⟨h.enters, h.plain⟩

theorem of_makeDirectory {content : ByteArray} (hgrounded : tree.Grounded)
    (h : tree.makeDirectory (scratch.route host.cwd) = .ok tree')
    (hread : tree.read route = .ok content) :
    ∃ directory goal node, tree.locate route = .ok goal ∧ tree.get? goal = some node ∧
      Shields host scratch directory route goal node tree' := by
  obtain ⟨directory, hnone, hwork, hmade⟩ := Workplace.of_makeDirectory hgrounded h
  obtain ⟨goal, node, hlocate, hget, hreaches⟩ := reaches_of_read hread hnone
    fun place hplace => by rw [hmade, if_neg hplace]
  exact ⟨directory, goal, node, hlocate, hget, hwork.enters, hwork.plain, hreaches⟩

theorem makeDirectory (h : Shields host scratch directory route goal node tree)
    {revision : Revision}
    (hmade : tree.makeDirectory ((scratch.child revision.name).route host.cwd) = .ok tree') :
    Shields host scratch directory route goal node tree' := by
  obtain ⟨hwork, hget⟩ := h.workplace.makeDirectory hmade
  refine ⟨hwork.enters, hwork.plain, h.reaches.of_outside fun other hother => ?_⟩
  rw [hget, if_neg (not_prefix_child hother _)]

theorem write (h : Shields host scratch directory route goal node tree) {name : String}
    (hname : name ∈ scratchFiles) {content : ByteArray}
    (hwrite : tree.write (scratchRoute host scratch name) content = .ok tree') :
    Shields host scratch directory route goal node tree' := by
  obtain ⟨hwork, hget⟩ := h.workplace.write hname hwrite
  refine ⟨hwork.enters, hwork.plain, h.reaches.of_outside fun other hother => ?_⟩
  rw [hget, if_neg (not_prefix_child hother _)]

theorem moveFile (h : Shields host scratch directory route goal node tree) {name : String}
    (hname : name ∈ scratchFiles) {source : Place} (hsource : source ≠ goal)
    (hmove : tree.moveFile source (scratchRoute host scratch name) = .ok tree') :
    Shields host scratch directory route goal node tree' := by
  obtain ⟨hwork, hways, content, _, hget⟩ := h.workplace.moveFile hname hmove
  refine ⟨hwork.enters, hwork.plain, h.reaches.mono
    (fun other node _ hway hother => hways other node hway hother) fun hgoal => ?_⟩
  rw [hget, if_neg (not_prefix_child hgoal _), if_neg hsource.symm]

theorem removeTree (h : Shields host scratch directory route goal node tree) :
    (tree.removeTree (scratch.route host.cwd)).2.Reaches directory route goal node :=
  h.reaches.of_outside fun _ hother => h.workplace.removeTree hother

end Shields

/-! ## Runs that spare what is at a place -/

def Unmoved (goal : Place) (record : List Event) : Prop :=
  ∀ lane source destination, .move lane source destination ∈ record → source ≠ goal

theorem Unmoved.mono {goal : Place} {record record' : List Event} (h : Unmoved goal record')
    (hsub : record ⊆ record') : Unmoved goal record :=
  fun lane source destination hmem => h lane source destination (hsub hmem)

def World.StillHolds (host : Host) (start : World) (holds : FileTree → Prop) (goal : Place)
    (w : World) : Prop :=
  ∃ record, w.events = start.events ++ record ∧
    (holds start.files → host.Kept holds start.events record → Unmoved goal record → holds w.files)

section Spares

variable {host : Host} {scratch : Path} {directory goal : Place} {route : Route} {node : FileNode}

theorem World.StillHolds.refl {holds : FileTree → Prop} (w : World) :
    w.StillHolds host holds goal w := ⟨[], (List.append_nil _).symm, fun h _ _ => h⟩

theorem Request.Works.keeps_shields {β : Type} {request : Request β} (h : request.Works scratch)
    (start : World) : request.Keeps host
      (start.StillHolds host (Shields host scratch directory route goal node) goal) := by
  rintro lane w ⟨record, hevents, hholds⟩
  refine ⟨record ++ request.record host lane w, ?_, fun hstart hkept hunmoved => ?_⟩
  · rw [request.events_perform, hevents, List.append_assoc]
  have hw := hholds hstart hkept.of_append_left (hunmoved.mono (List.subset_append_left _ _))
  have hlooks (h : request.Looks fun _ => False) := h.files_perform host lane w
  cases request with
  | run command =>
    have hleft := hkept record lane command w.files _ [] rfl hw
    rwa [← hevents] at hleft
  | removeTree path => exact h.elim
  | write path content =>
    obtain ⟨name, hname, rfl⟩ := h
    exact w.files_update_ok _ hw fun _ hwrite => hw.write hname hwrite
  | makeDirectory path =>
    obtain ⟨revision, rfl⟩ := h
    exact w.files_update_ok _ hw fun _ hmade => hw.makeDirectory hmade
  | move source destination =>
    -- The destination stays a variable, or the tree would be computed.
    obtain ⟨revision, hdestination⟩ := h
    refine World.files_update_ok (w := w.record (.move lane source destination)) _ hw
      fun _ hmove => ?_
    rw [hdestination] at hmove
    have hsource : source ≠ goal :=
      hunmoved lane source destination (List.mem_append_right record List.mem_cons_self)
    exact hw.moveFile (archiveName_mem revision) hsource hmove
  | _ => exact hlooks trivial ▸ hw

end Spares

/-! ## The whole decision -/

structure SameFile (tree : FileTree) (route : Route) (tree' : FileTree) : Prop where
  place : tree'.locate route = tree.locate route
  content : tree'.read route = tree.read route

/-- From a world on the commands of a record left trees and spared a file. None of them changed where
the route leads and what is read there, took the way through a scratch directory or put anything but
plain files in the way of what is written there; and what was moved was not the file. -/
structure Host.SparesFile (host : Host) (w : World) (route : Route) (record : List Event) :
    Prop where
  grounded : w.files.Grounded
  grounds : host.Kept FileTree.Grounded w.events record
  same : ∀ tree, host.Kept (SameFile tree route) w.events record
  shields : ∀ scratch, .scratch scratch ∈ record → ∀ directory goal node,
    host.Kept (Shields host scratch directory route goal node) w.events record
  unmoved : ∀ goal, w.files.locate route = .ok goal → Unmoved goal record

section SparesFile

variable {host : Host} {w v : World} {route : Route} {front rest record : List Event}

theorem SameFile.refl (tree : FileTree) (route : Route) : SameFile tree route tree := ⟨rfl, rfl⟩

theorem SameFile.trans {tree tree' tree'' : FileTree} (h : SameFile tree route tree')
    (h' : SameFile tree' route tree'') : SameFile tree route tree'' :=
  ⟨h'.place.trans h.place, h'.content.trans h.content⟩

namespace Host.SparesFile

theorem of_append_left (h : host.SparesFile w route (front ++ rest)) :
    host.SparesFile w route front where
  grounded := h.grounded
  grounds := h.grounds.of_append_left
  same tree := (h.same tree).of_append_left
  shields scratch hscratch directory goal node :=
    (h.shields scratch (List.mem_append_left _ hscratch) directory goal node).of_append_left
  unmoved goal hgoal := (h.unmoved goal hgoal).mono (List.subset_append_left _ _)

theorem looked (h : host.SparesFile w route record) (hlooked : w.Looked host v)
    (hrecord : v.events = w.events ++ record) :
    v.files.Grounded ∧ SameFile w.files route v.files :=
  ⟨hlooked.keeps h.grounded hrecord h.grounds,
    hlooked.keeps (.refl w.files route) hrecord (h.same w.files)⟩

theorem of_append_right (h : host.SparesFile w route (front ++ rest)) (hlooked : w.Looked host v)
    (hfront : v.events = w.events ++ front) : host.SparesFile v route rest := by
  obtain ⟨hgrounded, hsame⟩ := h.of_append_left.looked hlooked hfront
  refine ⟨hgrounded, ?_, fun tree => ?_, fun scratch hscratch directory goal node => ?_,
    fun goal hgoal => ?_⟩
  · exact hfront ▸ h.grounds.of_append_right
  · exact hfront ▸ (h.same tree).of_append_right
  · exact hfront ▸
      (h.shields scratch (List.mem_append_right _ hscratch) directory goal node).of_append_right
  · exact (h.unmoved goal (hsame.place ▸ hgoal)).mono (List.subset_append_right _ _)

end Host.SparesFile

end SparesFile

theorem Decision.Went.sameFile {s : Subject} {host : Host} {w w' : World} {route : Route}
    {record : List Event} (h : Went s host w record w') (hevents : w'.events = w.events ++ record)
    (hspares : host.SparesFile w route record) (hread : ∃ content, w.files.read route = .ok content) :
    SameFile w.files route w'.files := by
  cases h with
  | looked hlooked _ => exact (hspares.looked hlooked hevents).2
  | @worked front worked rest scratch text previous current v made removed _ gone hlooked hfront hnone
      hmake hmade hworked hclean hremove hsame _ =>
    obtain ⟨content, hread⟩ := hread
    obtain ⟨hgrounded, hbefore⟩ := hspares.of_append_left.looked hlooked hfront
    obtain ⟨_, hmakes, _⟩ := Scratch.make_ok hmake
    obtain ⟨directory, goal, node, hlocate, hget, hshields⟩ :=
      Shields.of_makeDirectory hgrounded hmakes (hbefore.content.trans hread)
    have hkept := hspares.shields scratch (by simp) directory goal node
    have hunmoved := hspares.unmoved goal (hbefore.place.symm.trans hlocate)
    obtain ⟨worked', hworked', hstill⟩ := preserves_examine
      (fun _ hrequest => hrequest.keeps_shields made) s previous current made (.refl made)
    obtain rfl : worked' = worked := List.append_cancel_left (hworked'.symm.trans hworked)
    have hafter := hstill hshields (kept_worked hfront hmade hkept)
      (hunmoved.mono fun _ hmem => by simp [hmem])
    have hreaches : w'.files.Reaches directory route goal node := by
      rw [hsame]
      exact holds_removeTree (·.Reaches directory route goal node) hremove hafter.reaches
        hafter.removeTree
    exact hbefore.trans ⟨hreaches.locate.trans hlocate.symm, hreaches.read_eq hlocate hget⟩

end NextRelease
