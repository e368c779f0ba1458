import NextRelease.Proofs.Decision.Surroundings
import NextRelease.Proofs.Version.Table

/-! Decisions come about. In surroundings that answer, a run comes to a decision, and its version is
the one that the table gives for what both revisions declare. -/

namespace NextRelease

open FileTree Script

variable {host : Host} {s : Decision.Subject} {history : History} {w : World}
  {packaging : Packaging} {scratch : Path}

/-! ## The scratch directory -/

theorem Host.place_child (host : Host) (path : Path) {name : String} (h : IsEntryName name) :
    host.place (path.child name) = host.place path ++ [name] :=
  path.names_route_child host.cwd h

theorem Scratch.makeFirst_ok {tree : FileTree} {names : List String}
    (htemporary : tree.Straight (host.place host.temporary))
    (htakes : ∀ name ∈ names, IsEntryName (stem ++ name) ∧ host.Accepts (host.scratchNamed name))
    (hfree : ∃ name ∈ names, tree.get? (host.place host.temporary ++ [stem ++ name]) = none) :
    ∃ name ∈ names, ∃ made,
      makeFirst tree host.cwd (names.map host.scratchNamed) = .ok (host.scratchNamed name, made) ∧
      tree.get? (host.place host.temporary ++ [stem ++ name]) = none ∧
      ∀ other, made.get? other =
        if other = host.place host.temporary ++ [stem ++ name] then some .directory
        else tree.get? other := by
  induction names with
  | nil => simp at hfree
  | cons name names ih =>
    obtain ⟨hname, haccepts⟩ := htakes name List.mem_cons_self
    have hentry : tree.Entry ((host.scratchNamed name).route host.cwd)
        (host.place host.temporary) (stem ++ name) :=
      ⟨htemporary, host.place_child _ hname, hname.2, haccepts⟩
    cases hget : tree.get? (host.place host.temporary ++ [stem ++ name]) with
    | none =>
      obtain ⟨made, hmade, hsame⟩ := hentry.makeDirectory hget
      exact ⟨name, List.mem_cons_self, made, by simp [makeFirst, hmade], hget, hsame⟩
    | some node =>
      obtain ⟨other, hother, hfree⟩ := hfree
      obtain rfl | hother := List.mem_cons.1 hother
      · cases hget.symm.trans hfree
      · obtain ⟨name', hname', made, hmade, hrest⟩ :=
          ih (fun name hmem => htakes name (List.mem_cons_of_mem _ hmem)) ⟨other, hother, hfree⟩
        exact ⟨name', List.mem_cons_of_mem _ hname', made,
          by simpa [makeFirst, hentry.makeDirectory_of_some hget] using hmade, hrest⟩

theorem Scratch.make_room (hroom : host.HasRoom w.files) (htakes : host.TakesNames packaging) :
    ∃ scratch made, make stem none host w = (.ok scratch, made) ∧
      packaging.Room host scratch made.files := by
  obtain ⟨name, hmem, made, hmade, hnone, hget⟩ := makeFirst_ok hroom.temporary
    (fun name hname => ⟨(htakes name hname).1, (htakes name hname).2.1⟩) hroom.free
  obtain ⟨hname, _, hfits⟩ := htakes name hmem
  have hplace : host.place (host.scratchNamed name) =
      host.place host.temporary ++ [stem ++ name] := host.place_child _ hname
  have hways : KeepsWays w.files made := by
    intro place node _ hnode
    rw [hget, if_neg, hnode]
    rintro rfl
    cases hnode.symm.trans hnone
  have hmake : makeFirst w.files host.cwd
      (host.randomNames.map fun name => host.temporary.child (stem ++ name)) =
        .ok (host.scratchNamed name, made) := hmade
  obtain ⟨v, hv, rfl⟩ : ∃ v : World,
      make stem none host w = (.ok (host.scratchNamed name), v) ∧ v.files = made :=
    ⟨_, by simp only [make, Option.getD_none, hmake]; rfl, rfl⟩
  refine ⟨host.scratchNamed name, v, hv, hfits, ⟨name, hmem, rfl⟩, ?_, fun place hbelow hne => ?_⟩
  · rw [hplace]
    exact (hroom.temporary.mono hways).child hname.2 (by rw [hget, if_pos rfl])
  · rw [hplace] at hbelow hne
    obtain ⟨rest, rfl⟩ := hbelow
    have hrest : rest ≠ [] := by
      rintro rfl
      exact hne (List.append_nil _)
    rw [hget, if_neg hne]
    refine Classical.byContradiction fun hsome => ?_
    exact nomatch hnone.symm.trans (hroom.rooted.above hrest hsome)

/-! ## The workspace -/

structure Bare (directory : Place) (names : List String) (tree : FileTree) : Prop where
  straight : tree.Straight directory
  absent : ∀ name ∈ names, tree.get? (directory ++ [name]) = none

theorem apart_bare (directory : Place) (names : List String) :
    Apart (fun _ => False) (Bare directory names) := by
  intro tree tree' hagree h
  refine ⟨⟨h.straight.names, fun front hfront => ?_⟩, fun name hname => ?_⟩
  · rw [hagree front id, h.straight.directories front hfront]
  · rw [hagree _ id, h.absent name hname]

theorem achieves_writeString {name : String} {names : List String} (hname : IsEntryName name)
    (haccepts : host.Accepts (scratch.child name)) (hother : name ∉ names) (text : String) :
    (writeString (scratch.child name) text).Achieves host
      (Bare (host.place scratch) (name :: names)) fun _ => Bare (host.place scratch) names := by
  refine brings_files (apart_bare _ _) (fun _ => apart_bare _ _) fun w hw => ?_
  have hentry : w.files.Entry ((scratch.child name).route host.cwd) (host.place scratch) name :=
    ⟨hw.straight, host.place_child _ hname, hname.2, haccepts⟩
  have hnone := hw.absent name List.mem_cons_self
  obtain ⟨tree, hwrite, hget⟩ := hentry.write hnone text.toUTF8
  refine ⟨(), { w with files := tree }, by simp only [Request.perform, hwrite, World.update],
    fun _ hplace => absurd trivial hplace, hw.straight.mono fun place node _ hnode => ?_,
    fun name' hname' => ?_⟩
  · rw [hget, if_neg, hnode]
    rintro rfl
    cases hnode.symm.trans hnone
  · rw [hget, if_neg, hw.absent name' (List.mem_cons_of_mem _ hname')]
    intro heq
    obtain rfl : name' = name := by simpa using heq
    exact hother hname'

theorem Packaging.isEntryName_workspaceFiles {name : String} (h : name ∈ workspaceFiles) :
    IsEntryName name := by
  obtain h | h := List.mem_append.1 h
  · simp only [List.mem_cons, List.not_mem_nil, or_false] at h
    obtain rfl | rfl | rfl := h
    · exact Manifest.isEntryName_fileName
    · exact Witness.isEntryName_forwardFile
    · exact Witness.isEntryName_backwardFile
  · obtain ⟨marker, hmarker, rfl⟩ := List.mem_map.1 h
    exact Dialect.isEntryName_of_mem hmarker

theorem achieves_writeWorkspace (hfits : packaging.Fits host scratch) (old new : Artifact) :
    (Witness.writeWorkspace scratch old new).Achieves host
      (Bare (host.place scratch) Packaging.workspaceFiles)
      fun _ => Bare (host.place scratch) (Dialect.lockFiles.map (·.1)) := by
  have hname (name : String) (h : name ∈ Packaging.workspaceFiles) :=
    Packaging.isEntryName_workspaceFiles h
  exact brings_bind _ (achieves_writeString (hname _ (by simp [Packaging.workspaceFiles]))
    (hfits.workspace _ (by simp [Packaging.workspaceFiles])) (by decide) _) fun _ =>
    brings_bind _ (achieves_writeString (hname _ (by simp [Packaging.workspaceFiles]))
      (hfits.workspace _ (by simp [Packaging.workspaceFiles])) (by decide) _) fun _ =>
    achieves_writeString (hname _ (by simp [Packaging.workspaceFiles]))
      (hfits.workspace _ (by simp [Packaging.workspaceFiles])) (by decide) _

theorem achieves_detect (hfits : packaging.Fits host scratch) :
    (Dialect.detect scratch).Achieves host
      (Bare (host.place scratch) (Dialect.lockFiles.map (·.1)))
      fun dialect _ => dialect = .npm := by
  have habsent {tree : FileTree}
      (hw : Bare (host.place scratch) (Dialect.lockFiles.map (·.1)) tree)
      {marker : String × Dialect} (hmarker : marker ∈ Dialect.lockFiles) :
      tree.get? (host.place scratch ++ [marker.1]) = none :=
    hw.absent _ (List.mem_map_of_mem hmarker)
  refine (Dialect.brings_detectAmong (host.place scratch) (apart_bare _ _)
    (fun _ _ => id) fun tree hw marker hmarker => ⟨⟨hw.straight, ?_, ?_, ?_⟩, ?_⟩).mono
    (fun _ => id) ?_
  · exact host.place_child _ (Dialect.isEntryName_of_mem hmarker)
  · exact (Dialect.isEntryName_of_mem hmarker).2
  · exact hfits.workspace _ (List.mem_append_right _ (List.mem_map_of_mem hmarker))
  · simp [habsent hw hmarker]
  · rintro dialect tree ⟨rfl, hw⟩
    rw [List.find?_eq_none.2 fun marker hmarker => by simp [holdsFile, habsent hw hmarker]]
    rfl

theorem brings_typeCheck (lane : Lane) (scratch : Path) {others own : Place → Prop}
    {checker program : String} (hown : ∀ place, own place) (hchecks : host.Checks checker)
    (hprogram : program ∈ [Witness.forwardFile, Witness.backwardFile]) :
    (typeCheck checker scratch program).Brings host lane others own (fun _ => True)
      fun verdict _ => host.Verdict checker program verdict := by
  have htrue : Apart others fun _ => True := apart_const _ _
  refine brings_bind _ (brings_info htrue) fun _ => brings_bind
    (fun result _ => host.Verdict checker program result.ok)
    (brings_run htrue (fun _ => apart_const _ _) fun events tree _ => ?_) fun result => ?_
  · obtain ⟨result, tree', hrespond, _⟩ := hchecks.check scratch program hprogram events tree trivial
    exact ⟨result, tree', hrespond, fun place hplace => absurd (hown place) hplace, events, tree,
      scratch, result, tree', hrespond, rfl⟩
  have hend : (do
      info (checker ++ " on " ++ program ++ ": " ++ if result.ok then "ok" else "failed")
      return result.ok : Script Bool).Brings host lane others own
        (fun _ => host.Verdict checker program result.ok)
        fun verdict _ => host.Verdict checker program verdict :=
    brings_bind _ (brings_info (apart_const _ _)) fun _ => brings_done (apart_const _ _) fun _ => id
  dsimp only
  split
  · exact hend
  · exact brings_bind _ (brings_note (apart_const _ _)) fun _ => hend

/-! ## The decision -/

namespace Decision

theorem bare_of_elsewhere {made tree : FileTree} (hroom : packaging.Room host scratch made)
    (helsewhere : Packaging.Elsewhere made (host.place scratch) tree) :
    Bare (host.place scratch) Packaging.workspaceFiles tree := by
  refine ⟨helsewhere.straight hroom.straight, fun name hname => ?_⟩
  rw [helsewhere.get?_name fun revision hentry => ?_]
  · exact hroom.get?_entry name
  · revert hname hentry
    cases revision <;> revert name <;> decide

theorem compare_succeeds (hfits : packaging.Fits host scratch)
    (hchecks : host.Checks s.settings.checker) (old new : Artifact)
    (hbare : Bare (host.place scratch) Packaging.workspaceFiles w.files) :
    ∃ forwards backwards w', compare s scratch old new host w = (.ok ⟨forwards, backwards⟩, w') ∧
      host.Verdict s.settings.checker Witness.forwardFile forwards ∧
      host.Verdict s.settings.checker Witness.backwardFile backwards := by
  obtain ⟨_, written, hwrite, hwritten⟩ := (achieves_writeWorkspace hfits old new).exec hbare
  obtain ⟨_, detected, hdetect, rfl⟩ := (achieves_detect hfits).exec hwritten
  have hinstalls : (Packaging.install scratch .npm "workspace" true).Achieves host
      (fun _ => True) fun _ _ => True := by
    refine brings_bind _ (brings_info (apart_const _ _)) fun _ =>
      brings_bind _ ((hchecks.install scratch).achieves (apart_const _ _)) fun result =>
        brings_of_and fun hok => ?_
    rw [if_pos hok]
    exact brings_info (apart_const _ _)
  obtain ⟨_, ready, hinstall, _⟩ := hinstalls.exec (w := detected) trivial
  obtain ⟨forwards, backwards, checked, hcheck, hforward, hbackward⟩ := Run.both_brings
    (brings_typeCheck .forward scratch (fun _ => trivial) hchecks List.mem_cons_self)
    (brings_typeCheck .backward scratch (fun _ => trivial) hchecks
      (List.mem_cons_of_mem _ List.mem_cons_self)) (w := ready) trivial trivial
  exact ⟨forwards, backwards, checked, Run.lift_bind_ok.2 ⟨(), written, hwrite,
    Run.lift_bind_ok.2 ⟨.npm, detected, hdetect, Run.lift_bind_ok.2 ⟨(), ready, hinstall,
      Run.bind_ok.2 ⟨(forwards, backwards), checked, hcheck, Run.pure_ok.2 ⟨rfl, rfl⟩⟩⟩⟩⟩,
    hforward, hbackward⟩

theorem examine_succeeds {previous current : Reference} {version declared : Option Version}
    (hpacks : host.Packs s.packaging previous.name .previous version)
    (hpacks' : host.Packs s.packaging current.name .current declared)
    (hchecks : host.Checks s.settings.checker) (hroom : s.packaging.Room host scratch w.files) :
    ∃ old new forwards backwards w',
      examine s previous current scratch host w = (.ok (old, new, ⟨forwards, backwards⟩), w') ∧
      old.version = version.map (fun v => String.ofList v.render) ∧
      new.version = declared.map (fun v => String.ofList v.render) ∧
      (∀ v ∈ version, v.isPrintable) ∧ (∀ v ∈ declared, v.isPrintable) ∧
      host.Verdict s.settings.checker Witness.forwardFile forwards ∧
      host.Verdict s.settings.checker Witness.backwardFile backwards := by
  obtain ⟨dialect, cloned, hclones⟩ := hpacks
  obtain ⟨dialect', cloned', hclones'⟩ := hpacks'
  obtain ⟨old, new, packed, hpack, ⟨⟨hold, hversion⟩, helsewhere⟩, ⟨hnew, hdeclared⟩, _⟩ :=
    Run.both_brings (Packaging.brings_build .previous hclones hroom)
      (Packaging.brings_build .current hclones' hroom)
      ⟨Packaging.Elsewhere.refl _ _, fun _ => hroom.get?_territory⟩
      ⟨Packaging.Elsewhere.refl _ _, fun _ => hroom.get?_territory⟩
  obtain ⟨forwards, backwards, compared, hcompare, hforward, hbackward⟩ :=
    compare_succeeds hroom.toFits hchecks old new (bare_of_elsewhere hroom helsewhere)
  exact ⟨old, new, forwards, backwards, compared, Run.bind_ok.2 ⟨(old, new), packed, hpack,
    Run.bind_ok.2 ⟨⟨forwards, backwards⟩, compared, hcompare, Run.pure_ok.2 ⟨rfl, rfl⟩⟩⟩, hold, hnew,
    hversion, hdeclared, hforward, hbackward⟩

def IsBase (version : Option Version) (name : String) (base : Version) : Prop :=
  version = some base ∨ version = none ∧ Version.parse? name = some base

theorem versionOf_of_isBase {version : Option Version} {previous : Reference} {base : Version}
    (h : IsBase version previous.name base) :
    versionOf (version.map fun v => String.ofList v.render) previous =
      .ok (String.ofList base.render) := by
  obtain rfl | ⟨rfl, hname⟩ := h
  · rfl
  · simp [versionOf, tagVersion, hname]

theorem compute_succeeds {previous current : Reference} {version declared : Option Version}
    {base : Version} (hpacks : host.Packs s.packaging previous.name .previous version)
    (hpacks' : host.Packs s.packaging current.name .current declared)
    (hchecks : host.Checks s.settings.checker) (htakes : host.TakesNames s.packaging)
    (hroom : host.HasRoom w.files) (hbase : IsBase version previous.name base)
    (hincrement : ∀ forwards backwards,
      host.Verdict s.settings.checker Witness.forwardFile forwards →
      host.Verdict s.settings.checker Witness.backwardFile backwards →
        (base.increment (base.bumpFor forwards backwards)).isPrintable) :
    ∃ forwards backwards w',
      compute s previous current host w = (.ok
        ⟨String.ofList (base.next declared forwards backwards).render, .computed, some previous,
          some current, some ⟨forwards, backwards⟩⟩, w') ∧
      (base.next declared forwards backwards).isPrintable ∧
      host.Verdict s.settings.checker Witness.forwardFile forwards ∧
      host.Verdict s.settings.checker Witness.backwardFile backwards := by
  obtain ⟨scratch, made, hmake, hmade⟩ := Scratch.make_room hroom htakes
  obtain ⟨old, new, forwards, backwards, examined, hexamine, hold, hnew, hversion, hdeclared,
    hforward, hbackward⟩ := examine_succeeds hpacks hpacks' hchecks hmade
  have hprintable : base.isPrintable := by
    obtain rfl | ⟨_, hname⟩ := hbase
    · exact hversion base rfl
    · exact Version.isPrintable_of_parse? hname
  have hnext : (base.next declared forwards backwards).isPrintable :=
    Version.isPrintable_latest (hincrement forwards backwards hforward hbackward) hdeclared
  have htext : Version.decideText (String.ofList base.render) new.version forwards backwards =
      .ok (String.ofList (base.next declared forwards backwards).render) := by
    rw [hnew, Version.decideText_eq hprintable hdeclared, Version.decideVersions_eq_ok,
      Version.print?_eq_some]
    exact ⟨hnext, rfl⟩
  obtain ⟨removed, hremoved⟩ : ∃ removed, Run.withScratch Scratch.stem none
      (examine s previous current) host w = (.ok (old, new, ⟨forwards, backwards⟩), removed) :=
    ⟨_, by simp only [Run.withScratch, hmake, hexamine]; rfl⟩
  obtain ⟨noted, hnoted⟩ : ∃ noted, (info ("forwards=" ++ showVerdict forwards ++ " backwards=" ++
      showVerdict backwards ++ ": " ++ String.ofList base.render ++ " -> " ++
        String.ofList (base.next declared forwards backwards).render)).exec host .main removed =
          (.ok (), noted) := ⟨_, rfl⟩
  refine ⟨forwards, backwards, noted, Run.bind_ok.2 ⟨_, removed, hremoved, Run.lift_bind_ok.2
    ⟨String.ofList base.render, removed, ?_, ?_⟩⟩, hnext, hforward, hbackward⟩
  · rw [exec_ofExcept, hold, versionOf_of_isBase hbase]
  · simp only [htext]
    exact Run.lift_bind_ok.2 ⟨(), noted, hnoted, Run.pure_ok.2 ⟨rfl, rfl⟩⟩

theorem decide_computed {best commit : String} {tag base : Version}
    {version declared : Option Version} (h : history.ToldBy host s) (hunnamed : s.Unnamed)
    (hbest : (best, commit) ∈ history.tags) (htag : Version.parse? best = some tag)
    (habove : ∀ other ∈ history.tags, ∀ v, Version.parse? other.1 = some v →
      other.1 = best ∨ v.isBelow tag)
    (hne : commit ≠ history.commit) (hpacks : host.Packs s.packaging best .previous version)
    (hpacks' : host.Packs s.packaging history.branch .current declared)
    (hchecks : host.Checks s.settings.checker) (htakes : host.TakesNames s.packaging)
    (hroom : host.HasRoom w.files) (hbase : IsBase version best base)
    (hincrement : ∀ forwards backwards,
      host.Verdict s.settings.checker Witness.forwardFile forwards →
      host.Verdict s.settings.checker Witness.backwardFile backwards →
        (base.increment (base.bumpFor forwards backwards)).isPrintable) :
    ∃ forwards backwards w',
      decide s host w = (.ok
        ⟨String.ofList (base.next declared forwards backwards).render, .computed,
          some ⟨best, .tag, commit⟩, some ⟨history.branch, .branch, history.commit⟩,
          some ⟨forwards, backwards⟩⟩, w') ∧
      (base.next declared forwards backwards).isPrintable ∧
      host.Verdict s.settings.checker Witness.forwardFile forwards ∧
      host.Verdict s.settings.checker Witness.backwardFile backwards := by
  obtain ⟨_, clean, hclean, hcleaned⟩ := (achieves_ensureClean h).exec hroom
  obtain ⟨_, found, hfound, rfl, hlooked⟩ :=
    (achieves_previous h hunnamed hbest htag habove).exec hcleaned
  obtain ⟨_, chosen, hchosen, rfl, hlooked'⟩ := (achieves_current h hunnamed).exec hlooked
  let previous : Reference := ⟨best, .tag, commit⟩
  let current : Reference := ⟨history.branch, .branch, history.commit⟩
  have hinfo : (info ("Comparing " ++ previous.name ++ " (" ++
      Repository.shortCommit previous.commit ++ ") with " ++ current.name ++ " (" ++
        Repository.shortCommit current.commit ++ ")")).Achieves host host.HasRoom
          fun _ => host.HasRoom := brings_info apart_hasRoom
  have hreachable : (ensureReachable s previous current).Achieves host host.HasRoom
      fun _ => host.HasRoom := achieves_ensureReachable h hbest rfl
  have hcomputes (reached : World) (hreach : host.HasRoom reached.files) :=
    compute_succeeds (w := reached) (show host.Packs s.packaging previous.name _ _ from hpacks)
      (show host.Packs s.packaging current.name _ _ from hpacks') hchecks htakes hreach hbase
      hincrement
  obtain ⟨_, noted, hnoted, hnote⟩ := hinfo.exec hlooked'
  obtain ⟨_, reached, hreached, hreach⟩ := hreachable.exec hnote
  obtain ⟨forwards, backwards, w', hcompute, hrest⟩ := hcomputes reached hreach
  refine ⟨forwards, backwards, w', Run.lift_bind_ok.2 ⟨(), clean, hclean, Run.lift_bind_ok.2
    ⟨_, found, hfound, Run.lift_bind_ok.2 ⟨_, chosen, hchosen, Run.lift_bind_ok.2
      ⟨(), noted, hnoted, ?_⟩⟩⟩⟩, hrest⟩
  rw [if_neg hne]
  exact Run.lift_bind_ok.2 ⟨(), reached, hreached, hcompute⟩

end Decision

end NextRelease
