import NextRelease.Proofs.Package.Manifest
import NextRelease.Proofs.Run.Origin
import NextRelease.Release

/-! How the parts of a run halt. Each states few failures of its own; all else that stops it comes
from the commands, the files and the texts it was given. -/

namespace NextRelease

open Script

variable {host : Host} {stated : Failure → Prop} {depth : Nat}

/-! ## Manifests -/

namespace Manifest

theorem from_parse (hmalformed : ∀ problem, stated (.malformedManifest problem))
    {record : List Event} {text source : String} {limit : Nat} {cause : Halt}
    (hlimit : depth ≤ limit) (htext : Provided host record text)
    (h : parse text source limit = .error cause) : cause.From host stated depth record := by
  cases cause with
  | fault fault => exact .unreadable hlimit htext h
  | failure failure =>
    unfold parse at h
    dsimp only at h
    split at h <;> cases h <;> exact .stated (hmalformed _)
  | interrupted =>
    unfold parse at h
    dsimp only at h
    split at h <;> cases h

theorem haltsFrom_load (hmalformed : ∀ problem, stated (.malformedManifest problem)) (path : Path)
    {limit : Nat} (hlimit : depth ≤ limit) : (load path limit).HaltsFrom host stated depth := by
  refine haltsFrom_bind (haltsFrom_isFile path) fun found => ?_
  split
  · refine haltsFrom_bind_course (haltsFrom_readText path)
      fun lane front text rest cause hfront hrest => ?_
    obtain ⟨tree, bytes, rfl, hbytes, htext⟩ := course_readText hfront
    obtain ⟨rfl, hparse⟩ := course_ofExcept.1 hrest
    exact from_parse hmalformed hlimit (.read List.mem_cons_self hbytes htext) hparse.symm
  · exact haltsFrom_fail (hmalformed _)

theorem declaredVersion_error {manifest : Fields} {source : String} {cause : Failure}
    (h : declaredVersion manifest source = .error cause) :
    ∃ problem, cause = .malformedManifest problem := by
  unfold declaredVersion at h
  dsimp only at h
  split at h
  · cases h
  · cases h
  · split at h
    · cases h
    · cases h
      exact ⟨_, rfl⟩

theorem haltsFrom_writeVersion (hmalformed : ∀ problem, stated (.malformedManifest problem))
    (path : Path) (version : String) {limit : Nat} (hlimit : depth ≤ limit - 1) :
    (writeVersion path version limit).HaltsFrom host stated depth := by
  refine haltsFrom_bind_course (haltsFrom_load hmalformed path hlimit)
    fun lane front manifest rest cause hfront hrest => ?_
  obtain ⟨tree, rfl, bytes, text, source, hbytes, htext, hparse⟩ := course_load hfront
  have hprovided : Provided host ([.read lane path tree] ++ rest) text :=
    .read List.mem_cons_self hbytes htext
  split at hrest
  · exact (haltsFrom_write _ _ lane rest cause hrest).mono (fun _ => id)
      (List.subset_append_right _ _)
  · next hnone =>
    obtain ⟨_, _, last, rfl, _, hlast⟩ | ⟨cause', hwrite, hcause⟩ := course_bind.1 hrest
    · cases (course_fault.1 hlast).2
      exact .unencodable hprovided hparse hnone
    · cases hcause
      exact (haltsFrom_write _ _ lane rest cause hwrite).mono (fun _ => id)
        (List.subset_append_right _ _)

end Manifest

/-! ## The repository -/

namespace Repository

variable (repo : Repository)

theorem haltsFrom_discover (hnone : ∀ path, stated (.notARepository path)) (directory : Path)
    (limit : Nat) : (discover directory limit).HaltsFrom host stated depth := by
  refine haltsFrom_bind (haltsFrom_run _ _) fun result => ?_
  dsimp only
  split
  · exact haltsFrom_fail (hnone _)
  · exact haltsFrom_bind (haltsFrom_resolve _ _) fun _ => haltsFrom_done _

theorem haltsFrom_tags (mergedInto : Option String) :
    (repo.tags mergedInto).HaltsFrom host stated depth :=
  haltsFrom_bind (haltsFrom_run _ _) fun _ => haltsFrom_done _

theorem haltsFrom_branches : repo.branches.HaltsFrom host stated depth :=
  haltsFrom_bind (haltsFrom_run _ _) fun _ => haltsFrom_done _

theorem haltsFrom_currentBranch : repo.currentBranch.HaltsFrom host stated depth :=
  haltsFrom_bind (haltsFrom_run _ _) fun _ => haltsFrom_done _

theorem haltsFrom_resolveCommit (reference : String) :
    (repo.resolveCommit reference).HaltsFrom host stated depth :=
  haltsFrom_bind (haltsFrom_run _ _) fun _ => haltsFrom_done _

theorem haltsFrom_isDirty : repo.isDirty.HaltsFrom host stated depth :=
  haltsFrom_bind (haltsFrom_run _ _) fun _ => haltsFrom_done _

theorem haltsFrom_isAncestor (older newer : String) :
    (repo.isAncestor older newer).HaltsFrom host stated depth :=
  haltsFrom_bind (haltsFrom_run _ _) fun _ => haltsFrom_done _

variable {repo}

theorem haltsFrom_resolved {α : Type} {reference name role : String} {f : String → Script α}
    (hinvalid : ∀ name role, stated (.invalidReference name role))
    (hf : ∀ commit, (f commit).HaltsFrom host stated depth) :
    (do
      match ← repo.resolveCommit reference with
      | none => Script.fail (.invalidReference name role)
      | some commit => f commit).HaltsFrom host stated depth := by
  refine haltsFrom_bind (haltsFrom_resolveCommit repo reference) fun commit => ?_
  split
  · exact haltsFrom_fail (hinvalid _ _)
  · exact hf _

theorem haltsFrom_highestVersion (hinvalid : ∀ name role, stated (.invalidReference name role))
    (policy : TagPolicy) (reachableFrom : Option String) :
    (repo.highestVersion policy reachableFrom).HaltsFrom host stated depth := by
  refine haltsFrom_bind (haltsFrom_tags repo _) fun names => ?_
  split
  · exact haltsFrom_done _
  · exact haltsFrom_resolved hinvalid fun commit => haltsFrom_done _

theorem haltsFrom_currentReference (hinvalid : ∀ name role, stated (.invalidReference name role))
    (hdetached : stated .detachedHead) : repo.currentReference.HaltsFrom host stated depth := by
  refine haltsFrom_bind (haltsFrom_currentBranch repo) fun name => ?_
  split
  · exact haltsFrom_fail hdetached
  · exact haltsFrom_resolved hinvalid fun commit => haltsFrom_done _

theorem haltsFrom_resolveReference (hinvalid : ∀ name role, stated (.invalidReference name role))
    (name role : String) : (repo.resolveReference name role).HaltsFrom host stated depth := by
  refine haltsFrom_bind (haltsFrom_tags repo _) fun names => ?_
  split
  · exact haltsFrom_resolved hinvalid fun commit => haltsFrom_done _
  · refine haltsFrom_bind (haltsFrom_branches repo) fun branches => ?_
    split
    · exact haltsFrom_resolved hinvalid fun commit => haltsFrom_done _
    · exact haltsFrom_fail (hinvalid _ _)

theorem haltsFrom_stage {α : Type} {result : CommandResult} {stage : Stage} {reference : String}
    {detail : String} {next : Script α}
    (hstage : ∀ stage reference detail, stated (.stage stage reference detail))
    (hnext : next.HaltsFrom host stated depth) :
    (if result.ok then next else Script.fail (.stage stage reference detail)).HaltsFrom
      host stated depth := by
  split
  · exact hnext
  · exact haltsFrom_fail (hstage _ _ _)

theorem haltsFrom_clone (hstage : ∀ stage reference detail, stated (.stage stage reference detail))
    (reference : String) (target : Path) : (repo.clone reference target).HaltsFrom host stated depth :=
  haltsFrom_bind (haltsFrom_note _ _) fun _ => haltsFrom_bind (haltsFrom_run _ _) fun _ =>
    haltsFrom_stage hstage (haltsFrom_note _ _)

theorem haltsFrom_createTag
    (hstage : ∀ stage reference detail, stated (.stage stage reference detail))
    (name commit : String) : (repo.createTag name commit).HaltsFrom host stated depth :=
  haltsFrom_bind (haltsFrom_run _ _) fun _ => haltsFrom_stage hstage (haltsFrom_note _ _)

end Repository

/-! ## Packages -/

theorem Dialect.haltsFrom_detect (directory : Path) :
    (detect directory).HaltsFrom host stated depth := by
  unfold detect
  induction lockFiles with
  | nil => exact haltsFrom_done _
  | cons marker markers ih =>
    refine haltsFrom_bind (haltsFrom_isFile _) fun found => ?_
    split
    · exact haltsFrom_done _
    · exact ih

namespace Packaging

variable {directory destination : Path} {dialect : Dialect} {reference : String}
  (hstage : ∀ stage reference detail, stated (.stage stage reference detail))

include hstage

theorem haltsFrom_rename (name : String) :
    (rename directory name dialect reference).HaltsFrom host stated depth :=
  haltsFrom_bind (haltsFrom_note _ _) fun _ => haltsFrom_bind (haltsFrom_run _ _) fun _ =>
    Repository.haltsFrom_stage hstage (haltsFrom_done _)

theorem haltsFrom_install (production : Bool) :
    (install directory dialect reference production).HaltsFrom host stated depth :=
  haltsFrom_bind (haltsFrom_note _ _) fun _ => haltsFrom_bind (haltsFrom_run _ _) fun _ =>
    Repository.haltsFrom_stage hstage (haltsFrom_note _ _)

theorem haltsFrom_pack (limit : Nat) :
    (pack directory destination dialect reference limit).HaltsFrom host stated depth := by
  refine haltsFrom_bind (haltsFrom_note _ _) fun _ =>
    haltsFrom_bind (haltsFrom_run _ _) fun result => ?_
  dsimp only
  split
  · exact haltsFrom_fail (hstage _ _ _)
  · split
    · exact haltsFrom_fail (hstage _ _ _)
    · refine haltsFrom_bind (haltsFrom_resolve _ _) fun packed =>
        haltsFrom_bind (haltsFrom_isFile _) fun found => ?_
      split
      · exact haltsFrom_bind (haltsFrom_move _ _) fun _ =>
          haltsFrom_bind (haltsFrom_note _ _) fun _ => haltsFrom_done _
      · exact haltsFrom_fail (hstage _ _ _)

variable (hmalformed : ∀ problem, stated (.malformedManifest problem))

include hmalformed

theorem haltsFrom_runBuild {limit : Nat} (hlimit : depth ≤ limit) :
    (runBuild directory dialect reference limit).HaltsFrom host stated depth := by
  refine haltsFrom_bind (Manifest.haltsFrom_load hmalformed _ hlimit) fun manifest => ?_
  split
  · exact haltsFrom_bind (haltsFrom_note _ _) fun _ => haltsFrom_bind (haltsFrom_run _ _) fun _ =>
      Repository.haltsFrom_stage hstage (haltsFrom_note _ _)
  · exact haltsFrom_note _ _

theorem haltsFrom_build (packaging : Packaging) (reference : Reference) (role : String)
    (scratch : Path) (hlimit : depth ≤ packaging.depth - 1) :
    (packaging.build reference role scratch).HaltsFrom host stated depth := by
  have hload := hlimit.trans (Nat.sub_le packaging.depth 1)
  refine haltsFrom_bind (haltsFrom_makeDirectory _) fun _ =>
    haltsFrom_bind (Repository.haltsFrom_clone hstage _ _) fun _ => ?_
  refine haltsFrom_bind (Manifest.haltsFrom_load hmalformed _ hload) fun _ =>
    haltsFrom_bind (Dialect.haltsFrom_detect _) fun dialect =>
      haltsFrom_bind (haltsFrom_note _ _) fun _ => ?_
  refine haltsFrom_bind (haltsFrom_rename hstage _) fun _ =>
    haltsFrom_bind (haltsFrom_install hstage _) fun _ =>
      haltsFrom_bind (haltsFrom_runBuild hstage hmalformed hlimit) fun _ => ?_
  refine haltsFrom_bind (haltsFrom_pack hstage _) fun archive =>
    haltsFrom_bind (Manifest.haltsFrom_load hmalformed _ hload) fun manifest => ?_
  dsimp only
  split
  · next cause hcause =>
    obtain ⟨problem, rfl⟩ := Manifest.declaredVersion_error hcause
    exact haltsFrom_fail (hmalformed _)
  · exact haltsFrom_done _

end Packaging

/-! ## Witnesses -/

theorem Witness.haltsFrom_writeWorkspace (scratch : Path) (previous current : Artifact) :
    (writeWorkspace scratch previous current).HaltsFrom host stated depth :=
  haltsFrom_bind (haltsFrom_write _ _) fun _ => haltsFrom_bind (haltsFrom_write _ _) fun _ =>
    haltsFrom_write _ _

theorem haltsFrom_typeCheck (checker : String) (directory : Path) (program : String) :
    (typeCheck checker directory program).HaltsFrom host stated depth := by
  refine haltsFrom_bind (haltsFrom_note _ _) fun _ =>
    haltsFrom_bind (haltsFrom_run _ _) fun result => ?_
  have hend : (do
      info (checker ++ " on " ++ program ++ ": " ++ if result.ok then "ok" else "failed")
      return result.ok : Script Bool).HaltsFrom host stated depth :=
    haltsFrom_bind (haltsFrom_note _ _) fun _ => haltsFrom_done _
  dsimp only
  split
  · exact hend
  · exact haltsFrom_bind (haltsFrom_note _ _) fun _ => hend

/-! ## Versions of references -/

namespace Decision

theorem versionOf_error (hmalformed : ∀ problem, stated (.malformedManifest problem))
    {record : List Event} {declared : Option String} {reference : Reference} {cause : Halt}
    (h : versionOf declared reference = .error cause) : cause.From host stated depth record := by
  unfold versionOf at h
  split at h
  · cases h
  · unfold tagVersion at h
    split at h
    · cases h
    · cases h
      exact .stated (hmalformed _)

theorem provided_of_showFile {lane : Lane} {record : List Event} {repo : Repository}
    {reference path text : String}
    (h : (repo.showFile reference path).Course host lane record (.ok (some text))) :
    Provided host record text := by
  obtain ⟨result, before, rest, rfl, hrest⟩ := course_run_bind h
  obtain ⟨rfl, heq⟩ := course_done.1 hrest
  split at heq
  · cases heq
    exact .printed List.mem_cons_self
  · cases heq

theorem haltsFrom_versionAt (hmalformed : ∀ problem, stated (.malformedManifest problem))
    (s : Subject) (reference : Reference) (hlimit : depth ≤ s.depth) :
    (versionAt s reference).HaltsFrom host stated depth := by
  refine haltsFrom_bind_course (haltsFrom_bind (haltsFrom_run _ _) fun _ => haltsFrom_done _)
    fun lane front shown rest cause hfront hrest => ?_
  cases shown with
  | none =>
    cases (course_fail.1 hrest).2
    exact .stated (hmalformed _)
  | some text =>
    have hprovided : Provided host (front ++ rest) text :=
      (provided_of_showFile hfront).mono (List.subset_append_left _ _)
    obtain ⟨_, manifest, last, rfl, _, hlast⟩ | ⟨cause', hparse, hcause⟩ := course_bind.1 hrest
    · split at hlast
      · next failure hfailure =>
        obtain ⟨problem, rfl⟩ := Manifest.declaredVersion_error hfailure
        cases (course_fail.1 hlast).2
        exact .stated (hmalformed _)
      · exact versionOf_error hmalformed (course_ofExcept.1 hlast).2.symm
    · cases hcause
      exact Manifest.from_parse hmalformed hlimit hprovided (course_ofExcept.1 hparse).2.symm

end Decision

end NextRelease
