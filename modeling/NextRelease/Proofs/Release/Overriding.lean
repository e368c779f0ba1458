import NextRelease.Proofs.Release.Reporting
import NextRelease.Proofs.Repository.Queries

/-! What becomes of a current reference that is named. A decision rests on one that was listed, but
where no tag among the candidates names a version the decision is taken before the name is looked
for, and the name need not stand for anything. -/

namespace NextRelease

open Script

namespace Repository

def Listed (repo : Repository) (name : String) (record : List Event) : Prop :=
  Answered record ⟨["git", "tag", "--list"], repo.rootPath⟩ (name ∈ listedNames ·) ∨
    Answered record ⟨["git", "branch", "--list", "--format=%(refname:short)"], repo.rootPath⟩
      (name ∈ listedNames ·)

variable {repo : Repository} {host : Host} {record record' : List Event}

theorem Listed.mono {name : String} (h : repo.Listed name record) (hsub : record ⊆ record') :
    repo.Listed name record' :=
  h.imp (·.mono hsub) (·.mono hsub)

theorem course_tags {names : List String}
    (h : (repo.tags none).Course host .main record (.ok names)) :
    Answered record ⟨["git", "tag", "--list"], repo.rootPath⟩ (listedNames · = names) := by
  obtain ⟨result, before, rest, rfl, hrest⟩ := course_run_bind h
  obtain ⟨rfl, heq⟩ := course_done.1 hrest
  exact ⟨before, result, List.mem_cons_self, (Except.ok.inj heq).symm⟩

theorem course_branches {names : List String}
    (h : repo.branches.Course host .main record (.ok names)) :
    Answered record ⟨["git", "branch", "--list", "--format=%(refname:short)"], repo.rootPath⟩
      (listedNames · = names) := by
  obtain ⟨result, before, rest, rfl, hrest⟩ := course_run_bind h
  obtain ⟨rfl, heq⟩ := course_done.1 hrest
  exact ⟨before, result, List.mem_cons_self, (Except.ok.inj heq).symm⟩

theorem listed_of_resolveReference {name role : String} {reference : Reference}
    (h : (repo.resolveReference name role).Course host .main record (.ok reference)) :
    repo.Listed name record := by
  obtain ⟨front, tags, rest, rfl, hfront, hrest⟩ := course_bind_ok.1 h
  obtain ⟨before, result, hmem, rfl⟩ := course_tags hfront
  split at hrest
  · next htag =>
    exact .inl ⟨before, result, List.mem_append_left _ hmem, by simpa using htag⟩
  · obtain ⟨middle, branches, last, rfl, hmiddle, hlast⟩ := course_bind_ok.1 hrest
    obtain ⟨before', result', hmem', rfl⟩ := course_branches hmiddle
    split at hlast
    · next hbranch =>
      exact .inr ⟨before', result', List.mem_append_right _ (List.mem_append_left _ hmem'),
        by simpa using hbranch⟩
    · exact nomatch (course_fail.1 hlast).2

theorem unversioned_of_highestVersion {policy : TagPolicy} {reachableFrom : Option String}
    (h : (repo.highestVersion policy reachableFrom).Course host .main record (.ok none)) :
    Answered record ⟨listCommand policy reachableFrom, repo.rootPath⟩ fun listing =>
      ∀ name ∈ listedNames listing, Version.parse? name = none := by
  rw [highestVersion_eq] at h
  obtain ⟨listing, before, rest, rfl, hrest⟩ := course_run_bind h
  split at hrest
  · next hnone =>
    exact ⟨before, listing, List.mem_cons_self, firstMaximal?_versionedNames_eq_none.1 hnone⟩
  · obtain ⟨_, commit, _, rfl, _, hend⟩ := course_bind_ok.1 hrest
    split at hend
    · exact nomatch (course_fail.1 hend).2
    · exact nomatch (course_done.1 hend).2

end Repository

namespace Decision

variable {s : Subject} {host : Host} {w : World} {record : List Event}

/-- How a run heeds the current reference that the settings may name. -/
inductive Subject.Heeds (s : Subject) (record : List Event) : Except Halt Decision → Prop
  | stopped (cause : Halt) : Heeds s record (.error cause)
  | unnamed (d : Decision) : Settings.named? s.settings.toRef = none → Heeds s record (.ok d)
  | listed {name : String} (d : Decision) :
      Settings.named? s.settings.toRef = some name → s.repo.Listed name record →
        Heeds s record (.ok d)
  /-- The name is not looked for where no previous one is named and no candidate is a version. -/
  | unasked : Settings.named? s.settings.fromRef = none →
      Answered record ⟨Repository.listCommand s.settings.tagPolicy s.settings.toRef,
        s.repo.rootPath⟩ (fun listing =>
          ∀ name ∈ Repository.listedNames listing, Version.parse? name = none) →
        Heeds s record (.ok ⟨initialVersion, .initial, none, none, none⟩)

theorem heeds_of_currentReference {current : Reference} {chooses : List Event} (d : Decision)
    (h : s.currentReference.Course host .main chooses (.ok current)) (hsub : chooses ⊆ record) :
    s.Heeds record (.ok d) := by
  unfold Subject.currentReference at h
  split at h
  · next name hname =>
    exact .listed d hname ((Repository.listed_of_resolveReference h).mono hsub)
  · next hname => exact .unnamed d hname

theorem unversioned_of_previousReference {finds : List Event}
    (h : s.previousReference.Course host .main finds (.ok none)) :
    Settings.named? s.settings.fromRef = none ∧
      Answered finds ⟨Repository.listCommand s.settings.tagPolicy s.settings.toRef,
        s.repo.rootPath⟩ fun listing =>
          ∀ name ∈ Repository.listedNames listing, Version.parse? name = none := by
  unfold Subject.previousReference at h
  split at h
  · obtain ⟨_, reference, rest, rfl, _, hend⟩ := course_bind_ok.1 h
    exact nomatch (course_done.1 hend).2
  · next hname => exact ⟨hname, Repository.unversioned_of_highestVersion h⟩

theorem heeds_of_previousReference {finds : List Event}
    (h : s.previousReference.Course host .main finds (.ok none)) (hsub : finds ⊆ record) :
    s.Heeds record (.ok ⟨initialVersion, .initial, none, none, none⟩) := by
  obtain ⟨hname, hlisted⟩ := unversioned_of_previousReference h
  exact .unasked hname (hlisted.mono hsub)

/-- A decision heeds the name of the current reference: the name was listed, or the decision is the
initial one and no candidate names a version. -/
theorem heeds_of_decide (s : Subject) (host : Host) (w : World) :
    (decide s).Ensures host w fun result record _ => s.Heeds record result := by
  rw [decide_eq_survey]
  refine Run.ensures_bind (Run.ensures_lift fun record result _ _ _ hcourse => ?_)
  cases result with
  | error cause => exact .stopped cause
  | ok found =>
    unfold Run.thenEnds
    cases surveyed_of_course hcourse with
    | initial _ hfound =>
      exact Run.ensures_pure (heeds_of_previousReference hfound fun _ hevent => by simp [hevent])
    | unchanged _ _ hchosen =>
      exact Run.ensures_pure (heeds_of_currentReference _ hchosen fun _ hevent => by simp [hevent])
    | differing _ _ hchosen =>
      refine (orderly_compute le_rfl (cleared_of_survey hcourse)).mono fun result rest _ _ => ?_
      cases result with
      | error cause => exact .stopped cause
      | ok d => exact heeds_of_currentReference d hchosen fun _ hevent => by simp [hevent]

end Decision

namespace Release

/-- A repository with a tag for a version and a branch, which has never heard of any other name. -/
def tagged : Host where
  runner := ⟨fun _ tree command =>
    let reply (out : String) : Reply := .ok { code := 0, out }
    (match command.argv with
      | ["git", "rev-parse", "--show-toplevel"] => reply "/repo\n"
      | ["git", "rev-parse", _, _, _] => .ok { code := 1 }
      | ["git", "tag", "--list"] => reply "1.2.3\n"
      | ["git", "tag", "--list", "--merged", _] => .ok { code := 129 }
      | "git" :: "branch" :: _ => reply "main\n"
      | _ => reply "", tree)⟩
  cwd := []
  temporary := ⟨1, ["tmp"]⟩
  randomNames := ["0"]

/-- The release of a name that is neither a tag nor a branch. -/
def misnamed : Order where
  directory := ⟨1, ["repo"]⟩
  settings := { toRef := some "nope" }
  tag := true

/-- Where the name is never listed and the listing of its tags fails, a version is decided on, printed
and tagged all the same. -/
theorem unlisted_of_run :
    (∀ events tree, ∀ words ∈ [["git", "tag", "--list"],
        ["git", "branch", "--list", "--format=%(refname:short)"]], ∃ result,
      tagged.runner.respond events tree ⟨words, Repository.rootPath ⟨["repo"]⟩⟩ =
        (.ok result, tree) ∧ result.ok ∧ "nope" ∉ Repository.listedNames result) ∧
    (run misnamed tagged (holding "{}".toUTF8)).1 = .ok { exit := 0, out := "0.1.0\n" } ∧
    (commandsOf (run misnamed tagged (holding "{}".toUTF8)).2.events).getLast? =
      some (⟨["git", "tag", "0.1.0", "HEAD"], Repository.rootPath ⟨["repo"]⟩⟩, .ok { code := 0 }) := by
  refine ⟨fun events tree words hwords => ?_, rfl, rfl⟩
  simp only [List.mem_cons, List.not_mem_nil, or_false] at hwords
  obtain rfl | rfl := hwords
  · exact ⟨_, rfl, rfl, by decide⟩
  · exact ⟨_, rfl, rfl, by decide⟩

end Release

end NextRelease
