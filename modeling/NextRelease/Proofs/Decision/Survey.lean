import NextRelease.Proofs.Decision.Stages
import NextRelease.Proofs.Run.Ensuring
import NextRelease.Proofs.Version.Table

/-! What a decision begins with. Up to the comparison of two revisions a run only asks the repository,
and it goes on to the comparison only with what it has been told. -/

namespace NextRelease

open Script

/-- The record shows that a command of the run itself came back with a result. -/
def Answered (record : List Event) (command : Command) (expected : CommandResult → Prop) : Prop :=
  ∃ before result, .command .main command before (.ok result) ∈ record ∧ expected result

theorem Answered.mono {record record' : List Event} {command : Command}
    {expected : CommandResult → Prop} (h : Answered record command expected)
    (hsub : record ⊆ record') : Answered record' command expected := by
  obtain ⟨before, result, hmem, hexpected⟩ := h
  exact ⟨before, result, hsub hmem, hexpected⟩

namespace Repository

variable {repo : Repository} {host : Host} {record : List Event}

def Resolved (repo : Repository) (reference : Reference) (record : List Event) : Prop :=
  Answered record ⟨verifyCommand reference.name, repo.rootPath⟩ fun result =>
    answer? result = some reference.commit

theorem course_resolveCommit {name : String} {found : Option String}
    (h : (repo.resolveCommit name).Course host .main record (.ok found)) :
    Answered record ⟨verifyCommand name, repo.rootPath⟩ fun result => answer? result = found := by
  obtain ⟨result, before, rest, rfl, hrest⟩ := course_run_bind h
  obtain ⟨rfl, hfound⟩ := course_done.1 hrest
  exact ⟨before, result, List.mem_cons_self, (Except.ok.inj hfound).symm⟩

theorem resolved_of_course {name : String} {cause : Failure} {α : Type} {value : α} {f : String → α}
    (h : (do
      match ← repo.resolveCommit name with
      | none => Script.fail cause
      | some commit => return f commit : Script α).Course host .main record (.ok value)) :
    ∃ commit, value = f commit ∧
      Answered record ⟨verifyCommand name, repo.rootPath⟩ fun result =>
        answer? result = some commit := by
  obtain ⟨front, found, rest, rfl, hfront, hrest⟩ := course_bind_ok.1 h
  split at hrest
  · exact nomatch (course_fail.1 hrest).2
  · next commit =>
    obtain ⟨rfl, hvalue⟩ := course_done.1 hrest
    exact ⟨commit, Except.ok.inj hvalue,
      (course_resolveCommit hfront).mono (List.subset_append_left _ _)⟩

theorem resolved_of_highestVersion {policy : TagPolicy} {reachableFrom : Option String}
    {reference : Reference}
    (h : (repo.highestVersion policy reachableFrom).Course host .main record
      (.ok (some reference))) : repo.Resolved reference record := by
  obtain ⟨front, names, rest, rfl, _, hrest⟩ := course_bind_ok.1 h
  split at hrest
  · exact nomatch (course_done.1 hrest).2
  · obtain ⟨commit, heq, hresolved⟩ := resolved_of_course hrest
    cases heq
    exact hresolved.mono (List.subset_append_right _ _)

theorem resolved_of_currentReference {reference : Reference}
    (h : repo.currentReference.Course host .main record (.ok reference)) :
    repo.Resolved reference record := by
  obtain ⟨front, name, rest, rfl, _, hrest⟩ := course_bind_ok.1 h
  split at hrest
  · exact nomatch (course_fail.1 hrest).2
  · obtain ⟨commit, rfl, hresolved⟩ := resolved_of_course hrest
    exact hresolved.mono (List.subset_append_right _ _)

theorem resolved_of_resolveReference {name role : String} {reference : Reference}
    (h : (repo.resolveReference name role).Course host .main record (.ok reference)) :
    repo.Resolved reference record := by
  obtain ⟨front, tags, rest, rfl, _, hrest⟩ := course_bind_ok.1 h
  split at hrest
  · obtain ⟨commit, rfl, hresolved⟩ := resolved_of_course hrest
    exact hresolved.mono (List.subset_append_right _ _)
  · obtain ⟨middle, branches, last, rfl, _, hlast⟩ := course_bind_ok.1 hrest
    split at hlast
    · obtain ⟨commit, rfl, hresolved⟩ := resolved_of_course hlast
      exact hresolved.mono fun _ hevent =>
        List.mem_append_right _ (List.mem_append_right _ hevent)
    · exact nomatch (course_fail.1 hlast).2

end Repository

namespace Decision

/-- Everything up to the comparison: the decision that is taken without one, or the references of
the two revisions that are to be compared. -/
def survey (s : Subject) : Script (Decision ⊕ Reference × Reference) := do
  ensureClean s
  match ← s.previousReference with
  | none => do
    Script.info ("No previous version tag, starting at " ++ initialVersion)
    return .inl ⟨initialVersion, .initial, none, none, none⟩
  | some previous => do
    let current ← s.currentReference
    Script.info ("Comparing " ++ previous.name ++ " (" ++ Repository.shortCommit previous.commit ++
      ") with " ++ current.name ++ " (" ++ Repository.shortCommit current.commit ++ ")")
    if previous.commit = current.commit then
      return .inl (← keep s previous current)
    else do
      ensureReachable s previous current
      return .inr (previous, current)

def conclude (s : Subject) : Decision ⊕ Reference × Reference → Run Decision
  | .inl d => pure d
  | .inr (previous, current) => compute s previous current

theorem decide_eq_survey (s : Subject) : decide s = (survey s : Run _) >>= conclude s := by
  simp only [survey, Run.lift_bind, Run.bind_assoc]
  unfold decide
  congr 1
  funext _
  congr 1
  funext found
  cases found with
  | none => rfl
  | some previous =>
    simp only [Run.lift_bind, Run.bind_assoc]
    congr 1
    funext current
    congr 1
    funext _
    split
    · simp only [Run.lift_bind, Run.bind_assoc]
      exact (Run.bind_pure _).symm
    · simp only [Run.lift_bind, Run.bind_assoc]
      rfl

/-! ## What is asked -/

variable {s : Subject} {host : Host} {record : List Event} {previous current : Reference}

theorem looks_keep (s : Subject) (previous current : Reference) :
    (keep s previous current).Only (Request.Looks s.repo.Query) := by
  refine only_bind (only_bind (s.repo.looks_showFile _ _) fun text => ?_) fun version =>
    only_bind (only_note trivial) fun _ => trivial
  split
  · trivial
  · refine only_bind (only_ofExcept _) fun manifest => ?_
    split
    · trivial
    · exact only_ofExcept _

theorem looks_survey (s : Subject) : (survey s).Only (Request.Looks s.repo.Query) := by
  refine only_bind (looks_ensureClean s) fun _ => only_bind (looks_previousReference s) fun found => ?_
  cases found with
  | none => exact only_bind (only_note trivial) fun _ => trivial
  | some previous =>
    refine only_bind (looks_currentReference s) fun current => only_bind (only_note trivial) fun _ => ?_
    split
    · exact only_bind (looks_keep s previous current) fun _ => trivial
    · exact only_bind (looks_ensureReachable s previous current) fun _ => trivial

/-! ## What is found out -/

structure Subject.Cleared (s : Subject) (previous current : Reference) (record : List Event) :
    Prop where
  clean : s.settings.errorOnDirty →
    Answered record ⟨["git", "status", "--porcelain"], s.repo.rootPath⟩ fun result =>
      result.ok ∧ Text.trim result.out = ""
  resolvedPrevious : s.repo.Resolved previous record
  resolvedCurrent : s.repo.Resolved current record
  differ : previous.commit ≠ current.commit
  reachable : s.settings.errorOnUnreachable →
    Answered record ⟨Repository.ancestorCommand previous.commit current.commit, s.repo.rootPath⟩
      fun result => result.ok

theorem Subject.Cleared.mono {record' : List Event} (h : s.Cleared previous current record)
    (hsub : record ⊆ record') : s.Cleared previous current record' where
  clean hdirty := (h.clean hdirty).mono hsub
  resolvedPrevious := h.resolvedPrevious.mono hsub
  resolvedCurrent := h.resolvedCurrent.mono hsub
  differ := h.differ
  reachable hreachable := (h.reachable hreachable).mono hsub

theorem course_ensureClean (h : (ensureClean s).Course host .main record (.ok ()))
    (hdirty : s.settings.errorOnDirty) :
    Answered record ⟨["git", "status", "--porcelain"], s.repo.rootPath⟩ fun result =>
      result.ok ∧ Text.trim result.out = "" := by
  unfold ensureClean at h
  rw [if_pos hdirty] at h
  obtain ⟨front, dirty, rest, rfl, hfront, hrest⟩ := course_bind_ok.1 h
  split at hrest
  · exact nomatch (course_fail.1 hrest).2
  · next hclean =>
    obtain ⟨result, before, last, rfl, hlast⟩ := course_run_bind hfront
    obtain ⟨rfl, hvalue⟩ := course_done.1 hlast
    cases hvalue
    exact ⟨before, result, by simp, by simpa using hclean⟩

theorem course_ensureReachable
    (h : (ensureReachable s previous current).Course host .main record (.ok ()))
    (hreachable : s.settings.errorOnUnreachable) :
    Answered record ⟨Repository.ancestorCommand previous.commit current.commit, s.repo.rootPath⟩
      fun result => result.ok := by
  unfold ensureReachable at h
  rw [if_pos hreachable] at h
  obtain ⟨front, descendant, rest, rfl, hfront, hrest⟩ := course_bind_ok.1 h
  split at hrest
  · exact nomatch (course_fail.1 hrest).2
  · next hdescendant =>
    obtain ⟨result, before, last, rfl, hlast⟩ := course_run_bind hfront
    obtain ⟨rfl, hvalue⟩ := course_done.1 hlast
    cases hvalue
    exact ⟨before, result, List.mem_cons_self, by simpa using hdescendant⟩

theorem resolved_previous (h : s.previousReference.Course host .main record (.ok (some previous))) :
    s.repo.Resolved previous record := by
  unfold Subject.previousReference at h
  split at h
  · obtain ⟨front, reference, rest, rfl, hfront, hrest⟩ := course_bind_ok.1 h
    obtain ⟨rfl, heq⟩ := course_done.1 hrest
    cases heq
    exact (Repository.resolved_of_resolveReference hfront).mono (List.subset_append_left _ _)
  · exact Repository.resolved_of_highestVersion h

theorem resolved_current (h : s.currentReference.Course host .main record (.ok current)) :
    s.repo.Resolved current record := by
  unfold Subject.currentReference at h
  split at h
  · exact Repository.resolved_of_resolveReference h
  · exact Repository.resolved_of_currentReference h

inductive Subject.Surveyed (s : Subject) (host : Host) :
    List Event → Decision ⊕ Reference × Reference → Prop
  | initial {cleans finds : List Event} {text : String} :
      (ensureClean s).Course host .main cleans (.ok ()) →
      s.previousReference.Course host .main finds (.ok none) →
        Surveyed s host (cleans ++ (finds ++ [.note .main .info text]))
          (.inl ⟨initialVersion, .initial, none, none, none⟩)
  | unchanged {cleans finds chooses keeps : List Event} {text : String}
      {previous current : Reference} {d : Decision} :
      (ensureClean s).Course host .main cleans (.ok ()) →
      s.previousReference.Course host .main finds (.ok (some previous)) →
      s.currentReference.Course host .main chooses (.ok current) →
      (keep s previous current).Course host .main keeps (.ok d) →
        Surveyed s host (cleans ++ (finds ++ (chooses ++ .note .main .info text :: keeps))) (.inl d)
  | differing {cleans finds chooses reaches : List Event} {text : String}
      {previous current : Reference} :
      (ensureClean s).Course host .main cleans (.ok ()) →
      s.previousReference.Course host .main finds (.ok (some previous)) →
      s.currentReference.Course host .main chooses (.ok current) →
      previous.commit ≠ current.commit →
      (ensureReachable s previous current).Course host .main reaches (.ok ()) →
        Surveyed s host (cleans ++ (finds ++ (chooses ++ .note .main .info text :: reaches)))
          (.inr (previous, current))

theorem surveyed_of_course {found : Decision ⊕ Reference × Reference}
    (h : (survey s).Course host .main record (.ok found)) : s.Surveyed host record found := by
  obtain ⟨cleans, _, _, rfl, hclean, hfinding⟩ := course_bind_ok.1 h
  obtain ⟨finds, chosen, _, rfl, hfound, hchoosing⟩ := course_bind_ok.1 hfinding
  cases chosen with
  | none =>
    obtain ⟨_, rfl, hend⟩ := course_info_bind.1 hchoosing
    obtain ⟨rfl, heq⟩ := course_done.1 hend
    cases heq
    exact .initial hclean hfound
  | some previous =>
    obtain ⟨chooses, current, _, rfl, hchosen, hnoting⟩ := course_bind_ok.1 hchoosing
    obtain ⟨_, rfl, hcomparing⟩ := course_info_bind.1 hnoting
    split at hcomparing
    · obtain ⟨keeps, d, _, rfl, hkeep, hend⟩ := course_bind_ok.1 hcomparing
      obtain ⟨rfl, heq⟩ := course_done.1 hend
      cases heq
      rw [List.append_nil]
      exact .unchanged hclean hfound hchosen hkeep
    · next hdiffer =>
      obtain ⟨reaches, _, _, rfl, hreached, hend⟩ := course_bind_ok.1 hcomparing
      obtain ⟨rfl, heq⟩ := course_done.1 hend
      cases heq
      rw [List.append_nil]
      exact .differing hclean hfound hchosen hdiffer hreached

theorem surveyed_of_decide {w w' : World} {d : Decision} (h : decide s host w = (.ok d, w')) :
    ∃ found record surveyed, surveyed.events = w.events ++ record ∧ s.Surveyed host record found ∧
      conclude s found host surveyed = (.ok d, w') := by
  rw [decide_eq_survey] at h
  obtain ⟨found, surveyed, hsurvey, hconclude⟩ := Run.lift_bind_ok.1 h
  obtain ⟨record, hevents, hcourse⟩ := (survey s).exec_course host .main w
  rw [hsurvey] at hevents hcourse
  exact ⟨found, record, surveyed, hevents, surveyed_of_course hcourse, hconclude⟩

theorem cleared_of_survey
    (h : (survey s).Course host .main record (.ok (.inr (previous, current)))) :
    s.Cleared previous current record := by
  cases surveyed_of_course h with
  | differing hclean hfound hchosen hdiffer hreached =>
    exact {
      clean := fun hdirty => (course_ensureClean hclean hdirty).mono fun _ hevent => by simp [hevent]
      resolvedPrevious := (resolved_previous hfound).mono fun _ hevent => by simp [hevent]
      resolvedCurrent := (resolved_current hchosen).mono fun _ hevent => by simp [hevent]
      differ := hdiffer
      reachable := fun hreachable => (course_ensureReachable hreached hreachable).mono fun _ hevent =>
        by simp [hevent] }

theorem reason_of_survey {d : Decision} (h : (survey s).Course host .main record (.ok (.inl d))) :
    d.reason ≠ .computed := by
  cases surveyed_of_course h with
  | initial => exact Reason.noConfusion
  | unchanged _ _ _ hkeep =>
    obtain ⟨_, _, _, _, rfl⟩ := course_keep hkeep
    exact Reason.noConfusion

/-! ## What follows on the comparison -/

def settle (previous current : Reference) (old new : Artifact) (compatibility : Compatibility) :
    Run Decision := do
  let before ← (Script.ofExcept (versionOf old.version previous) : Script String)
  match Version.decideText before new.version compatibility.forwards compatibility.backwards with
  | .error cause => Run.halt (.fault (.undecided cause))
  | .ok version => do
    Script.info ("forwards=" ++ showVerdict compatibility.forwards ++ " backwards=" ++
      showVerdict compatibility.backwards ++ ": " ++ before ++ " -> " ++ version)
    return ⟨version, .computed, some previous, some current, some compatibility⟩

theorem compute_eq_settle (s : Subject) (previous current : Reference) :
    compute s previous current =
      Run.withScratch Scratch.stem none (examine s previous current) >>= fun examined =>
        settle previous current examined.1 examined.2.1 examined.2.2 := rfl

inductive Settles (previous current : Reference) (old new : Artifact)
    (compatibility : Compatibility) : Prop
  | unversioned {cause : Halt} : versionOf old.version previous = .error cause →
      settle previous current old new compatibility = Run.halt cause →
        Settles previous current old new compatibility
  | undecided {before : String} {cause : Version.Undecided} :
      versionOf old.version previous = .ok before →
      Version.decideText before new.version compatibility.forwards compatibility.backwards =
        .error cause →
      settle previous current old new compatibility = Run.halt (.fault (.undecided cause)) →
        Settles previous current old new compatibility
  | decided {before version : String} (text : String) :
      versionOf old.version previous = .ok before →
      Version.decideText before new.version compatibility.forwards compatibility.backwards =
        .ok version →
      settle previous current old new compatibility = (do
        Script.info text
        return ⟨version, .computed, some previous, some current, some compatibility⟩) →
        Settles previous current old new compatibility

theorem settle_cases (previous current : Reference) (old new : Artifact)
    (compatibility : Compatibility) : Settles previous current old new compatibility := by
  cases hbefore : versionOf old.version previous with
  | error cause =>
    refine .unversioned hbefore ?_
    unfold settle
    rw [hbefore]
    rfl
  | ok before =>
    have hsettle : settle previous current old new compatibility =
        match Version.decideText before new.version compatibility.forwards
          compatibility.backwards with
        | .error cause => Run.halt (.fault (.undecided cause))
        | .ok version => (do
          Script.info ("forwards=" ++ showVerdict compatibility.forwards ++ " backwards=" ++
            showVerdict compatibility.backwards ++ ": " ++ before ++ " -> " ++ version)
          return ⟨version, .computed, some previous, some current, some compatibility⟩) := by
      unfold settle
      rw [hbefore]
      rfl
    cases htext : Version.decideText before new.version compatibility.forwards
      compatibility.backwards with
    | error cause => exact .undecided hbefore htext (by rw [hsettle, htext])
    | ok version => exact .decided _ hbefore htext (by rw [hsettle, htext])

theorem ensures_settle (previous current : Reference) (old new : Artifact)
    (compatibility : Compatibility) (host : Host) (w : World) :
    (settle previous current old new compatibility).Ensures host w fun _ record w' =>
      w.Looked host w' ∧ w'.files = w.files ∧ ∀ path, .scratch path ∉ record := by
  cases settle_cases previous current old new compatibility with
  | unversioned _ hsettle => exact hsettle ▸ Run.ensures_halt ⟨.refl host w, rfl, by simp⟩
  | undecided _ _ hsettle => exact hsettle ▸ Run.ensures_halt ⟨.refl host w, rfl, by simp⟩
  | decided text _ _ hsettle =>
    rw [hsettle]
    have hlooked : w.Looked host (w.record (.note .main .info text)) :=
      .of_exec (Script.looks_info (fun _ => False) text) rfl
    exact ⟨[.note .main .info text], rfl, hlooked, rfl, by simp⟩

/-! ## Normal form

On each way to a decision its version is printed from one that was read or raised, so that reading it
gives that version back. -/

theorem course_versionAt {version : String}
    (h : (versionAt s previous).Course host .main record (.ok version)) :
    ∃ words before result manifest source declared base,
      .command .main ⟨"git" :: "show" :: words, s.repo.rootPath⟩ before (.ok result) ∈ record ∧
      result.ok ∧ Manifest.parse result.out source s.depth = .ok manifest ∧
      Manifest.Declares manifest declared ∧
      (declared = some base ∨ declared = none ∧ Version.parse? previous.name = some base) ∧
      base.print? = some version := by
  obtain ⟨front, shown, rest, rfl, hshown, hrest⟩ := course_bind_ok.1 h
  obtain ⟨result, before, asked, rfl, hasked⟩ := course_run_bind hshown
  obtain ⟨rfl, hresult⟩ := course_done.1 hasked
  cases hresult
  split at hrest
  · exact nomatch (course_fail.1 hrest).2
  · next text htext =>
    obtain ⟨hok, hout⟩ := Option.ite_none_right_eq_some.1 htext
    obtain rfl := Option.some.inj hout
    obtain ⟨_, manifest, last, rfl, hmanifest, hlast⟩ := course_bind_ok.1 hrest
    obtain ⟨_, hparse⟩ := course_ofExcept.1 hmanifest
    split at hlast
    · exact nomatch (course_fail.1 hlast).2
    · next declared hdeclared =>
      obtain ⟨declares, hdeclares, rfl⟩ := Manifest.declares_of_declaredVersion hdeclared
      obtain ⟨_, hversion⟩ := course_ofExcept.1 hlast
      obtain ⟨base, hbase, hprintable, rfl⟩ := versionOf_ok hdeclares.isPrintable hversion.symm
      exact ⟨_, before, result, manifest, _, declares, base, List.mem_cons_self, hok, hparse.symm, hdeclares,
        hbase, Version.print?_eq_some.2 ⟨hprintable, rfl⟩⟩

theorem normal_of_survey {d : Decision} (h : s.Surveyed host record (.inl d)) :
    (∃ v : Version, v.print? = some d.version) ∧ (d.current = none ↔ d.reason = .initial) := by
  cases h with
  | initial => exact ⟨⟨⟨0, 1, 0, [], []⟩, by decide⟩, by simp⟩
  | unchanged _ _ _ hkeep =>
    obtain ⟨_, version, hversion, _, rfl⟩ := course_keep hkeep
    obtain ⟨_, _, _, _, _, _, base, _, _, _, _, _, hbase⟩ := course_versionAt hversion
    exact ⟨⟨base, hbase⟩, by simp⟩

theorem normal_of_decide {w w' : World} {d : Decision} (h : decide s host w = (.ok d, w')) :
    (∃ v : Version, v.print? = some d.version) ∧ (d.current = none ↔ d.reason = .initial) := by
  obtain ⟨found, _, _, _, hsurveyed, hconclude⟩ := surveyed_of_decide h
  cases found with
  | inl kept =>
    obtain ⟨rfl, _⟩ := Run.pure_ok.1 hconclude
    exact normal_of_survey hsurveyed
  | inr references =>
    obtain ⟨_, _, _, _, _, _, _, _, _, _, hdecide, hd, _⟩ := compute_ok hconclude
    refine ⟨Version.exists_print?_of_decideText hdecide, ?_⟩
    rw [hd]
    simp

end Decision

end NextRelease
