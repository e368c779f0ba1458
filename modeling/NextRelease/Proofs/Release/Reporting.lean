import NextRelease.Proofs.Decision.Gating
import NextRelease.Proofs.Decision.Survey
import NextRelease.Proofs.Package.Rewriting
import NextRelease.Proofs.Release.Stages

/-! What the release command reports. Every failure ends in one line and exit status one, whatever
was done before it. What else stops the command is not reported: the record shows the text, the file
or the command that it came from. -/

namespace NextRelease

open Script

def Failure.IsStated : Failure → Prop
  | general _ | environment _ | toolNotFound _ => False
  | _ => True

theorem Failure.IsStated.of_isComparing {failure : Failure}
    (h : Decision.IsComparing failure) : failure.IsStated := by
  cases failure <;> trivial

variable {host : Host} {w : World} {depth : Nat}

namespace Decision

variable {s : Subject} {previous current : Reference} {record : List Event}

/-! ## What halts a decision -/

theorem haltsFrom_ensureClean (s : Subject) :
    (ensureClean s).HaltsFrom host Failure.IsStated depth := by
  unfold ensureClean
  split
  · refine haltsFrom_bind s.repo.haltsFrom_isDirty fun dirty => ?_
    split
    · exact haltsFrom_fail trivial
    · exact haltsFrom_done _
  · exact haltsFrom_done _

theorem haltsFrom_previousReference (s : Subject) :
    s.previousReference.HaltsFrom host Failure.IsStated depth := by
  unfold Subject.previousReference
  split
  · exact haltsFrom_bind (Repository.haltsFrom_resolveReference (fun _ _ => trivial) _ _)
      fun _ => haltsFrom_done _
  · exact Repository.haltsFrom_highestVersion (fun _ _ => trivial) _ _

theorem haltsFrom_currentReference (s : Subject) :
    s.currentReference.HaltsFrom host Failure.IsStated depth := by
  unfold Subject.currentReference
  split
  · exact Repository.haltsFrom_resolveReference (fun _ _ => trivial) _ _
  · exact Repository.haltsFrom_currentReference (fun _ _ => trivial) trivial

theorem haltsFrom_ensureReachable (s : Subject) (previous current : Reference) :
    (ensureReachable s previous current).HaltsFrom host Failure.IsStated depth := by
  unfold ensureReachable
  split
  · refine haltsFrom_bind (s.repo.haltsFrom_isAncestor _ _) fun descendant => ?_
    split
    · exact haltsFrom_fail trivial
    · exact haltsFrom_done _
  · exact haltsFrom_done _

theorem haltsFrom_keep {s : Subject} (hdepth : depth ≤ s.depth) (previous current : Reference) :
    (keep s previous current).HaltsFrom host Failure.IsStated depth :=
  haltsFrom_bind (haltsFrom_versionAt (fun _ => trivial) s previous hdepth) fun _ =>
    haltsFrom_bind (haltsFrom_note _ _) fun _ => haltsFrom_done _

theorem haltsFrom_survey {s : Subject} (hdepth : depth ≤ s.depth) :
    (survey s).HaltsFrom host Failure.IsStated depth := by
  refine haltsFrom_bind (haltsFrom_ensureClean s) fun _ =>
    haltsFrom_bind (haltsFrom_previousReference s) fun found => ?_
  cases found with
  | none => exact haltsFrom_bind (haltsFrom_note _ _) fun _ => haltsFrom_done _
  | some previous =>
    refine haltsFrom_bind (haltsFrom_currentReference s) fun current =>
      haltsFrom_bind (haltsFrom_note _ _) fun _ => ?_
    split
    · exact haltsFrom_bind (haltsFrom_keep hdepth previous current) fun _ => haltsFrom_done _
    · exact haltsFrom_bind (haltsFrom_ensureReachable s previous current) fun _ => haltsFrom_done _

theorem haltsFrom_placeOf? (path : Path) (limit : Nat) :
    (placeOf? path limit).HaltsFrom host Failure.IsStated depth := by
  rintro lane record cause ⟨w, rest, rfl, hrest⟩
  rw [Request.fst_perform_resolve] at hrest
  dsimp only at hrest
  split at hrest
  · exact nomatch (course_done.1 hrest).2
  · exact nomatch (course_done.1 hrest).2
  · next fault _ hfault =>
    cases (course_fault.1 hrest).2
    have hfailed : .failed lane (.resolve path limit) w.files fault ∈
        (Request.resolve path limit).record host lane w :=
      List.mem_append_right _ (FileOperation.mem_failures.2 ⟨fault, hfault, rfl, rfl⟩)
    exact .of_fails _ (List.mem_append_left _ hfailed) hfault

theorem haltsFrom_of (repo : Repository) (directory : Path) (settings : Settings) (limit : Nat) :
    (Subject.of repo directory settings limit).HaltsFrom host Failure.IsStated depth := by
  refine haltsFrom_bind (haltsFrom_placeOf? directory _) fun place => ?_
  cases place with
  | none => exact haltsFrom_fail trivial
  | some place =>
    refine haltsFrom_bind (haltsFrom_placeOf? _ _) fun root => ?_
    cases root with
    | none => exact haltsFrom_fail trivial
    | some root =>
      dsimp only
      split
      · exact haltsFrom_done _
      · exact haltsFrom_fail trivial

theorem depth_of_course {repo : Repository} {directory : Path} {settings : Settings} {limit : Nat}
    {lane : Lane} (h : (Subject.of repo directory settings limit).Course host lane record (.ok s)) :
    s.depth = limit := by
  obtain ⟨_, place, _, rfl, _, hrooting⟩ := course_bind_ok.1 h
  cases place with
  | none => exact nomatch (course_fail.1 hrooting).2
  | some place =>
    obtain ⟨_, root, _, rfl, _, hend⟩ := course_bind_ok.1 hrooting
    cases root with
    | none => exact nomatch (course_fail.1 hend).2
    | some root =>
      dsimp only at hend
      split at hend
      · cases (course_done.1 hend).2
        rfl
      · exact nomatch (course_fail.1 hend).2

/-! ## What is decided is a version -/

theorem accounted_decide {s : Subject} (hdepth : depth ≤ s.depth)
    (hpacking : depth ≤ s.packaging.depth - 1) (w : World) :
    (decide s).Ensures host w (Accounted host Failure.IsStated depth fun d =>
      ∃ v, Version.parse? d.version = some v) := by
  rw [decide_eq_survey]
  refine Run.ensures_bind (Run.ensures_lift fun record result _ _ _ hcourse => ?_)
  match result with
  | .error cause => exact haltsFrom_survey hdepth .main record cause hcourse
  | .ok (.inl d) =>
    unfold Run.thenEnds conclude
    obtain ⟨v, hv⟩ := (normal_of_survey (surveyed_of_course hcourse)).1
    exact Run.ensures_pure ⟨v, Version.parse?_of_print? hv⟩
  | .ok (.inr (previous, current)) =>
    unfold Run.thenEnds conclude
    refine (orderly_compute hpacking (cleared_of_survey hcourse)).mono fun result rest _ hends => ?_
    cases result with
    | ok d => exact hends.2.2.1
    | error cause => exact hends.2.mono (fun _ => Failure.IsStated.of_isComparing) fun _ => id

end Decision

namespace Release

variable {record : List Event}

/-! ## What halts the command -/

theorem depth_of_prepare {order : Order} {directory : Path} {repo : Repository}
    {subject : Decision.Subject}
    (h : (prepare order directory).Course host .main record (.ok (repo, subject))) :
    subject.depth = order.depth - 1 := by
  obtain ⟨_, _, _, rfl, _, hloading⟩ := course_bind_ok.1 h
  obtain ⟨_, _, _, rfl, _, hfinding⟩ := course_bind_ok.1 hloading
  obtain ⟨_, found, _, rfl, hof, hend⟩ := course_bind_ok.1 hfinding
  cases (course_done.1 hend).2
  exact Decision.depth_of_course hof

theorem haltsFrom_checkExpected {computed : String} {expected : Option String}
    (h : ∃ v, Version.parse? computed = some v) :
    (ofExcept ((checkExpected computed expected).mapError Refused.halt)).HaltsFrom host
      Failure.IsStated depth := by
  obtain ⟨v, hv⟩ := h
  intro lane record cause hcourse
  obtain ⟨_, hcause⟩ := course_ofExcept.1 hcourse
  unfold checkExpected at hcause
  cases expected with
  | none => cases hcause
  | some text =>
    dsimp only at hcause
    split at hcause
    · cases hcause
      exact .stated trivial
    · rw [hv] at hcause
      dsimp only at hcause
      split at hcause
      · cases hcause
        exact .stated trivial
      · cases hcause

theorem haltsFrom_createVersionTag (repo : Repository) (current : Option Reference)
    (version : String) (settings : Settings) :
    (createVersionTag repo current version settings).HaltsFrom host Failure.IsStated depth := by
  refine haltsFrom_bind (repo.haltsFrom_tags _) fun names => ?_
  split
  · exact haltsFrom_note _ _
  · split
    · exact repo.haltsFrom_createTag (fun _ _ _ => trivial) _ _
    · exact haltsFrom_bind (repo.haltsFrom_resolveCommit _) fun _ =>
        repo.haltsFrom_createTag (fun _ _ _ => trivial) _ _

theorem haltsFrom_publish {order : Order} (hdepth : depth ≤ order.depth - 1) (path : Path)
    (proposal : Proposal) :
    (publish order path proposal).HaltsFrom host Failure.IsStated depth := by
  have hupdate : (update order path proposal.version).HaltsFrom host Failure.IsStated depth := by
    unfold update
    split
    · exact haltsFrom_bind (Manifest.haltsFrom_writeVersion (fun _ => trivial) _ _ hdepth) fun _ =>
        haltsFrom_note _ _
    · exact haltsFrom_done _
  refine haltsFrom_bind hupdate fun _ => ?_
  split
  · exact haltsFrom_bind (haltsFrom_createVersionTag _ _ _ _) fun _ => haltsFrom_done _
  · exact haltsFrom_done _

theorem haltsFrom_prepare {order : Order} (hdepth : depth ≤ order.depth) (directory : Path) :
    (prepare order directory).HaltsFrom host Failure.IsStated depth :=
  haltsFrom_bind (Repository.haltsFrom_discover (fun _ => trivial) directory _) fun repo =>
    haltsFrom_bind (Manifest.haltsFrom_load (fun _ => trivial) _ hdepth) fun _ =>
      haltsFrom_bind (Decision.haltsFrom_of repo directory _ _) fun _ => haltsFrom_done _

def Order.leastDepth (order : Order) : Nat :=
  min (order.depth - 1) (Decision.Subject.strandDepth - 1)

theorem accounted_propose (order : Order) (directory : Path) (w : World) :
    (propose order directory).Ensures host w
      (Accounted host Failure.IsStated order.leastDepth fun _ => True) := by
  have hdepth : order.leastDepth ≤ order.depth - 1 := min_le_left _ _
  have hprepare : (prepare order directory : Run (Repository × Decision.Subject)).Ensures host w
      (Accounted host Failure.IsStated order.leastDepth fun prepared =>
        prepared.2.depth = order.depth - 1) :=
    Run.accounted_lift (haltsFrom_prepare (hdepth.trans (Nat.sub_le _ _)) directory)
      fun _ _ => depth_of_prepare
  refine Run.accounted_bind hprepare fun (_, subject) v hsubject => ?_
  refine Run.accounted_bind (Decision.accounted_decide (hdepth.trans_eq hsubject.symm)
    (min_le_right _ _) v) fun decision _ hparses => ?_
  refine Run.accounted_bind (Run.accounted_lift (haltsFrom_checkExpected hparses)
    fun _ _ _ => trivial) fun version _ _ => ?_
  exact Run.ensures_pure trivial

theorem accounted_perform (order : Order) (directory : Path) (w : World) :
    (perform order directory).Ensures host w
      (Accounted host Failure.IsStated order.leastDepth fun _ => True) := by
  rw [perform_eq]
  exact Run.accounted_bind (accounted_propose order directory w) fun proposal _ _ =>
    Run.accounted_lift (haltsFrom_publish (min_le_left _ _) _ proposal) fun _ _ _ => trivial

/-! ## The report -/

/-- How the command may end with a record of what it did. -/
inductive Reports (order : Order) (host : Host) (record : List Event) :
    Except Halt Report → Prop
  | released (version : String) :
      Reports order host record
        (.ok { exit := 0, out := if order.silent then "" else version ++ "\n" })
  | failed {cause : Failure} :
      (Halt.failure cause).From host Failure.IsStated order.leastDepth record →
        Reports order host record (.ok { exit := 1, err := errorLine cause.message })
  /-- What stops the command unreported is no failure. -/
  | stopped {cause : Halt} : (∀ failure, cause ≠ .failure failure) →
      cause.From host Failure.IsStated order.leastDepth record →
        Reports order host record (.error cause)

/-- Nothing came in the way of a run that it does not report. -/
structure Unhindered (order : Order) (host : Host) (record : List Event) : Prop where
  /-- Every command came back with a result or was not found. -/
  commands : ∀ lane command before cause, .command lane command before (.error cause) ∈ record →
    ∃ program, cause = .failure (.toolNotFound program)
  operations : ∀ lane operation tree fault, .failed lane operation tree fault ∉ record
  decoded : ∀ lane path tree bytes, .read lane path tree ∈ record →
    tree.read (path.route host.cwd) = .ok bytes → ∃ text, Text.decode? bytes = some text
  /-- No text at hand is nested too deep or has too long a number in it. -/
  readable : ∀ text source depth fault, Provided host record text → order.leastDepth ≤ depth →
    Manifest.parse text source depth ≠ .error (.fault fault)
  /-- No manifest at hand has half a surrogate pair in it. -/
  encoded : ∀ text source depth manifest version, Provided host record text →
    Manifest.parse text source depth = .ok manifest →
      ∃ written, (Manifest.withVersion manifest version).toString? = some written
  /-- No version at hand has a number that gets too long to be written. -/
  printable : ∀ (base : Version) declared forwards backwards,
    base.IsDeclared host .previous record ∨ base.IsNamed record →
      (∀ v ∈ declared, v.IsDeclared host .current record) → TellsVerdict .forward record forwards →
        TellsVerdict .backward record backwards →
          ∃ text, (base.next declared forwards backwards).print? = some text

theorem Unhindered.isFailure {order : Order} {cause : Halt} (h : Unhindered order host record)
    (hfrom : cause.From host Failure.IsStated order.leastDepth record) :
    ∃ failure, cause = .failure failure := by
  cases hfrom with
  | stated => exact ⟨_, rfl⟩
  | reply hreply =>
    obtain ⟨program, rfl⟩ := h.commands _ _ _ _ hreply
    exact ⟨_, rfl⟩
  | files hfailed => exact absurd hfailed (h.operations _ _ _ _)
  | nullCharacter hfailed => exact absurd hfailed (h.operations _ _ _ _)
  | links hfailed => exact absurd hfailed (h.operations _ _ _ _)
  | undecodable hread hbytes hnone =>
    obtain ⟨text, htext⟩ := h.decoded _ _ _ _ hread hbytes
    exact nomatch hnone.symm.trans htext
  | unreadable hdepth htext hparse => exact absurd hparse (h.readable _ _ _ _ htext hdepth)
  | unencodable htext hparse hnone =>
    obtain ⟨written, hwritten⟩ := h.encoded _ _ _ _ _ htext hparse
    exact nomatch hnone.symm.trans hwritten
  | unprintable hbase hdeclared hforwards hbackwards hnone =>
    obtain ⟨text, htext⟩ := h.printable _ _ _ _ hbase hdeclared hforwards hbackwards
    exact nomatch hnone.symm.trans htext

theorem Unhindered.exits {order : Order} {result : Except Halt Report}
    (h : Unhindered order host record) (hreports : Reports order host record result) :
    ∃ report, result = .ok report ∧ (report.exit = 0 ∨ report.exit = 1) := by
  cases hreports with
  | released version => exact ⟨_, rfl, .inl rfl⟩
  | failed => exact ⟨_, rfl, .inr rfl⟩
  | stopped hcause hfrom =>
    obtain ⟨failure, rfl⟩ := h.isFailure hfrom
    exact absurd rfl (hcause failure)

theorem reports_of_accounted {order : Order} {result : Except Halt String} {w' : World}
    (h : Accounted host Failure.IsStated order.leastDepth (fun _ => True) result record w') :
    Reports order host record (order.report result) := by
  cases result with
  | ok version => exact .released version
  | error cause =>
    cases cause with
    | failure cause => exact .failed h
    | fault fault => exact .stopped (fun _ => Halt.noConfusion) h
    | interrupted => exact .stopped (fun _ => Halt.noConfusion) h

theorem ensures_reports (order : Order) (host : Host) (w : World) :
    (run order).Ensures host w fun result record _ => Reports order host record result :=
  ensures_run (fun _ hfault => .stopped (fun _ => Halt.noConfusion)
    (.of_fails (.resolve order.directory (order.depth + 1)) List.mem_cons_self hfault))
    fun place => (accounted_perform order (.ofPlace place) w).mono fun _ _ _ => reports_of_accounted

/-- The command ends with exit status zero and a version, or with exit status one, nothing on the
standard output and the line of a failure. Otherwise it was stopped by what is no failure, and the
record shows what that was; where it shows nothing of the kind, the command returns. -/
theorem reports_of_run (order : Order) (host : Host) (w : World) :
    (run order).Ensures host w fun result record _ => Reports order host record result ∧
      (Unhindered order host record →
        ∃ report, result = .ok report ∧ (report.exit = 0 ∨ report.exit = 1)) :=
  (ensures_reports order host w).mono fun _ _ _ hreports =>
    ⟨hreports, fun hunhindered => hunhindered.exits hreports⟩

/-- A host of which all commands succeed, print the same and leave the files as they are. -/
def echoing (text : String) : Host where
  runner := ⟨fun _ tree _ => (.ok { code := 0, out := text }, tree)⟩
  cwd := []
  temporary := ⟨1, ["tmp"]⟩
  randomNames := ["0"]

/-- A repository with a manifest in its root directory. -/
def holding (manifest : ByteArray) : World where
  files := { entries := [(["repo"], .directory), (["repo", "package.json"], .file manifest)] }

theorem exists_parse_slash (source : String) (depth : Nat) :
    ∃ failure, Manifest.parse "/repo" source depth = .error (.failure failure) := by
  have hread : Json.read "/repo".toList depth = .error (.malformed .expectingValue "/repo".toList) := by
    cases depth <;> rfl
  rw [Manifest.parse, hread]
  exact ⟨_, rfl⟩

def beginning (files : FileTree) : List Event :=
  let root : Path := ⟨1, ["repo"]⟩
  let reply : Reply := .ok { code := 0, out := "/repo" }
  [.command .main ⟨["git", "rev-parse", "--show-toplevel"], root⟩ files reply,
    .read .main (root.child Manifest.fileName) files,
    .command .main ⟨["git", "tag", "--list", "--merged", "HEAD"], root⟩ files reply,
    .note .main .info "No previous version tag, starting at 0.1.0"]

theorem eq_of_provided_beginning {text : String}
    (h : Provided (echoing "/repo") (beginning (holding "\x7b\x7d".toUTF8).files) text) :
    text = "\x7b\x7d" ∨ text = "/repo" := by
  cases h with
  | read hread hbytes htext =>
    simp only [beginning, List.mem_cons, reduceCtorEq, Event.read.injEq, List.not_mem_nil, false_or,
      or_false] at hread
    obtain ⟨-, rfl, rfl⟩ := hread
    cases hbytes
    exact .inl (Option.some.inj (htext.symm.trans (Manifest.decode?_declaring none)))
  | printed hprinted =>
    simp only [beginning, List.mem_cons, reduceCtorEq, Event.command.injEq, Except.ok.injEq,
      List.not_mem_nil, false_or, or_false] at hprinted
    rcases hprinted with ⟨-, -, -, rfl⟩ | ⟨-, -, -, rfl⟩ <;> exact .inr rfl

theorem unhindered_beginning (order : Order) (hdepth : 0 < order.leastDepth) :
    Unhindered order (echoing "/repo") (beginning (holding "\x7b\x7d".toUTF8).files) where
  commands lane command before cause hmem := by simp [beginning] at hmem
  operations lane operation tree fault hmem := by simp [beginning] at hmem
  decoded lane path tree bytes hread hbytes := by
    simp only [beginning, List.mem_cons, reduceCtorEq, Event.read.injEq, List.not_mem_nil, false_or,
      or_false] at hread
    obtain ⟨-, rfl, rfl⟩ := hread
    cases hbytes
    exact ⟨_, Manifest.decode?_declaring none⟩
  readable text source depth fault htext hleast hparse := by
    obtain rfl | rfl := eq_of_provided_beginning htext
    · obtain ⟨depth, rfl⟩ := Nat.exists_eq_succ_of_ne_zero (hdepth.trans_le hleast).ne'
      exact nomatch hparse.symm.trans (Manifest.parse_declaring none source depth)
    · obtain ⟨failure, hfailure⟩ := exists_parse_slash source depth
      exact nomatch hparse.symm.trans hfailure
  encoded text source depth manifest version htext hparse := by
    obtain rfl | rfl := eq_of_provided_beginning htext
    · obtain rfl : manifest = Manifest.fields none := Manifest.eq_fields_of_parse hparse
      have hpaired : Json.IsPaired (.obj (Manifest.fields none)) :=
        .obj (fun _ hmem => absurd hmem List.not_mem_nil) fun _ hmem => absurd hmem List.not_mem_nil
      exact Manifest.toString?_withVersion hpaired version
    · obtain ⟨failure, hfailure⟩ := exists_parse_slash source depth
      exact nomatch hparse.symm.trans hfailure
  printable base declared forwards backwards _ _ htells _ := by
    obtain ⟨command, before, result, hmem, _⟩ := htells
    simp [beginning] at hmem

/-- Where all commands print the same and the manifest is empty, nothing is in the way, and the command
ends with the initial version. -/
theorem reports_of_run_echoing :
    let order : Order := { directory := ⟨1, ["repo"]⟩, settings := { errorOnDirty := false } }
    let host := echoing "/repo"
    let w := holding "\x7b\x7d".toUTF8
    ∃ w', run order host w = (.ok { exit := 0, out := "0.1.0\n" }, w') ∧
      Unhindered order host w'.events ∧
      ∃ report, (run order host w).1 = .ok report ∧ (report.exit = 0 ∨ report.exit = 1) := by
  intro order host w
  have hrun : run order host w =
      (.ok { exit := 0, out := "0.1.0\n" }, { w with events := beginning w.files }) := rfl
  have hunhindered : Unhindered order host (beginning w.files) :=
    unhindered_beginning order (by decide)
  obtain ⟨record, hrecord, -, hexits⟩ := reports_of_run order host w
  rw [hrun] at hrecord
  obtain rfl : beginning w.files = record := hrecord
  exact ⟨_, hrun, hunhindered, hexits hunhindered⟩

/-- A manifest that is no text stops the command, and this is not reported. -/
theorem undecodable_of_run :
    (∀ events tree command, ∃ result,
      (echoing "/repo").runner.respond events tree command = (.ok result, tree)) ∧
    (run { directory := ⟨1, ["repo"]⟩ } (echoing "/repo") (holding ⟨#[0xff]⟩)).1 =
      .error (.fault .undecodable) :=
  ⟨fun _ _ _ => ⟨_, rfl⟩, rfl⟩

end Release

end NextRelease
