import NextRelease.Proofs.Decision.Survey
import NextRelease.Proofs.Release.Stages

/-! What a release that succeeds goes through. It decides on a version, holds the one that is expected
against it, writes what comes of that into the manifest and tags it; all of these are one version. -/

namespace NextRelease.Release

open Script

variable {order : Order} {host : Host} {w w' : World}

/-! ## The whole -/

/-- The work of the command in the place of the directory that it is given; the answer is the version
that is reported. -/
def achieve (order : Order) : Run String := do
  let place ← Script.resolve order.directory (order.depth + 1)
  perform order (.ofPlace place)

theorem run_eq_report (order : Order) (host : Host) (w : World) :
    run order host w =
      (order.report (achieve order host w).1, (achieve order host w).2) := by
  have hachieve : achieve order host w = Run.bind
      (Run.ofScript (Script.resolve order.directory (order.depth + 1)))
        (fun place => perform order (.ofPlace place)) host w := rfl
  rw [run_eq, hachieve]
  unfold Run.bind Run.ofScript Script.resolve Script.files
  simp only [Script.exec, Request.perform]
  cases w.files.resolve host.cwd order.directory (order.depth + 1) with
  | error fault => rfl
  | ok place => rfl

/-- What goes to the standard output with a version. -/
def Order.shown (order : Order) (version : String) : String :=
  if order.silent then "" else version ++ "\n"

theorem achieved_of_report {result : Except Halt String} {report : Report}
    (h : order.report result = .ok report) (hexit : report.exit = 0) :
    ∃ version, result = .ok version ∧ report.out = order.shown version := by
  cases result with
  | ok version =>
    cases h
    exact ⟨version, rfl, rfl⟩
  | error cause =>
    cases cause with
    | failure cause =>
      cases h
      cases hexit
    | fault cause => cases h
    | interrupted => cases h

/-! ## The version -/

/-- The version that is released where one was decided on: the one that is expected, unless that is
below it. -/
inductive Settled (decided : Version) : Option String → Version → Prop
  | computed : Settled decided none decided
  | expected {text : String} {v : Version} : Version.parse? text = some v →
      v.isBelow decided = false → Settled decided (some text) v

theorem Settled.eq_of_parse? {decided v proposed : Version} {text : String}
    (h : Settled decided (some text) v) (hparse : Version.parse? text = some proposed) :
    v = proposed := by
  cases h with
  | expected hexpected => exact Option.some.inj (hexpected.symm.trans hparse)

theorem settled_of_checkExpected {computed version : String} {expected : Option String}
    {decided : Version} (hdecided : decided.print? = some computed)
    (h : checkExpected computed expected = .ok version) :
    ∃ v : Version, v.print? = some version ∧ Settled decided expected v := by
  unfold checkExpected at h
  cases expected with
  | none =>
    cases h
    exact ⟨decided, hdecided, .computed⟩
  | some text =>
    cases hproposed : Version.parse? text with
    | none => simp [hproposed] at h
    | some proposed =>
      simp only [hproposed, Version.parse?_of_print? hdecided] at h
      split at h
      · cases h
      · next hbelow =>
        cases h
        exact ⟨proposed, Version.print?_of_parse? hproposed,
          .expected hproposed (by simpa using hbelow)⟩

/-! ## The tag -/

inductive Pointed (repo : Repository) (settings : Settings) :
    Option Reference → List Event → String → Prop
  | current (reference : Reference) :
      Pointed repo settings (some reference) [] reference.commit
  | resolved {before : FileTree} {result : CommandResult} :
      Pointed repo settings none
        [.command .main ⟨Repository.verifyCommand ((Settings.named? settings.toRef).getD "HEAD"),
          repo.rootPath⟩ before (.ok result)]
        ((Repository.answer? result).getD "HEAD")

inductive Tagged (repo : Repository) (current : Option Reference) (version : String)
    (settings : Settings) : List Event → Prop
  | level {before : FileTree} {listing : CommandResult} {text : String} :
      (∃ name ∈ Repository.listedNames listing, isLevelTag version name) →
        Tagged repo current version settings
          [.command .main ⟨["git", "tag", "--list"], repo.rootPath⟩ before (.ok listing),
            .note .main .info text]
  | made {before before' : FileTree} {listing result : CommandResult} {asked : List Event}
      {commit text : String} :
      (∀ name ∈ Repository.listedNames listing, isLevelTag version name = false) →
      Pointed repo settings current asked commit → result.ok →
        Tagged repo current version settings
          (.command .main ⟨["git", "tag", "--list"], repo.rootPath⟩ before (.ok listing) ::
            (asked ++ [.command .main ⟨["git", "tag", version, commit], repo.rootPath⟩ before'
              (.ok result), .note .main .info text]))

theorem course_createTag {repo : Repository} {name commit : String} {record : List Event}
    (h : (repo.createTag name commit).Course host .main record (.ok ())) :
    ∃ before result text, result.ok ∧
      record = [.command .main ⟨["git", "tag", name, commit], repo.rootPath⟩ before (.ok result),
        .note .main .info text] := by
  obtain ⟨result, before, rest, rfl, hrest⟩ := course_run_bind h
  split at hrest
  · next hok =>
    obtain ⟨rfl, _⟩ := course_info.1 hrest
    exact ⟨before, result, _, hok, rfl⟩
  · exact nomatch (course_fail.1 hrest).2

theorem tagged_of_course {repo : Repository} {current : Option Reference} {version : String}
    {settings : Settings} {record : List Event}
    (h : (createVersionTag repo current version settings).Course host .main record (.ok ())) :
    Tagged repo current version settings record := by
  obtain ⟨front, names, rest, rfl, hfront, hrest⟩ := course_bind_ok.1 h
  obtain ⟨listing, before, last, rfl, hlast⟩ := course_run_bind hfront
  obtain ⟨rfl, hnames⟩ := course_done.1 hlast
  cases hnames
  split at hrest
  · next hany =>
    obtain ⟨rfl, _⟩ := course_info.1 hrest
    exact .level (by simpa using hany)
  · next hnone =>
    have hnone : ∀ name ∈ Repository.listedNames listing, isLevelTag version name = false := by
      simpa using hnone
    cases current with
    | some reference =>
      obtain ⟨before', result, text, hok, rfl⟩ := course_createTag hrest
      exact .made hnone (.current reference) hok
    | none =>
      obtain ⟨middle, found, last, rfl, hmiddle, hlast⟩ := course_bind_ok.1 hrest
      obtain ⟨answer, asked, rest, rfl, hend⟩ := course_run_bind hmiddle
      obtain ⟨rfl, hfound⟩ := course_done.1 hend
      cases hfound
      obtain ⟨before', result, text, hok, rfl⟩ := course_createTag hlast
      exact .made hnone .resolved hok

/-! ## All stages -/

theorem propose_ok {directory : Path} {proposal : Proposal}
    (h : propose order directory host w = (.ok proposal, w')) :
    ∃ subject decision prepared,
      (prepare order directory).exec host .main w = (.ok (proposal.repo, subject), prepared) ∧
      Decision.decide subject host prepared = (.ok decision, w') ∧
      checkExpected decision.version order.expected = .ok proposal.version ∧
      proposal.current = decision.current := by
  obtain ⟨⟨repo, subject⟩, prepared, hprepare, hdeciding⟩ := Run.lift_bind_ok.1 h
  obtain ⟨decision, decided, hdecide, hchecking⟩ := Run.bind_ok.1 hdeciding
  obtain ⟨version, checked, hcheck, hend⟩ := Run.lift_bind_ok.1 hchecking
  obtain ⟨rfl, rfl⟩ := Run.pure_ok.1 hend
  rw [exec_ofExcept] at hcheck
  obtain ⟨hversion, rfl⟩ := Prod.mk.inj hcheck
  refine ⟨subject, decision, prepared, hprepare, hdecide, ?_, rfl⟩
  cases hsettled : checkExpected decision.version order.expected with
  | error refused =>
    rw [hsettled] at hversion
    cases hversion
  | ok settled =>
    rw [hsettled] at hversion
    cases hversion
    rfl

theorem exists_print?_of_propose {directory : Path} {proposal : Proposal}
    (h : propose order directory host w = (.ok proposal, w')) :
    ∃ v : Version, v.print? = some proposal.version := by
  obtain ⟨_, _, _, _, hdecide, hsettles, _⟩ := propose_ok h
  obtain ⟨decided, hdecided⟩ := (Decision.normal_of_decide hdecide).1
  obtain ⟨v, hv, _⟩ := settled_of_checkExpected hdecided hsettles
  exact ⟨v, hv⟩

theorem perform_ok {directory : Path} {version : String}
    (h : perform order directory host w = (.ok version, w')) :
    ∃ proposal proposed updated, propose order directory host w = (.ok proposal, proposed) ∧
      proposal.version = version ∧
      (update order (directory.child Manifest.fileName) version).exec host .main proposed =
        (.ok (), updated) ∧
      if order.tag then
        (createVersionTag proposal.repo proposal.current version order.settings).exec host .main
          updated = (.ok (), w')
      else w' = updated := by
  rw [perform_eq] at h
  obtain ⟨proposal, proposed, hpropose, hpublish⟩ := Run.bind_ok.1 h
  obtain ⟨_, updated, hupdate, htagging⟩ := exec_bind_ok.1 hpublish
  by_cases htag : order.tag
  · rw [if_pos htag] at htagging
    obtain ⟨_, tagged, hcreate, hdone⟩ := exec_bind_ok.1 htagging
    cases hdone
    exact ⟨proposal, proposed, updated, hpropose, rfl, hupdate, by rwa [if_pos htag]⟩
  · rw [if_neg htag] at htagging
    cases htagging
    exact ⟨proposal, proposed, _, hpropose, rfl, hupdate, by rw [if_neg htag]⟩

end NextRelease.Release
