import NextRelease.Proofs.Decision.Confinement
import NextRelease.Proofs.Decision.Sparing
import NextRelease.Proofs.Release.Overriding

/-! What a failed release leaves behind. It makes no tag, and it leaves the manifest as it was unless
the failure came after the manifest had been updated: nothing undoes the update when the making of
the tag fails. -/

namespace NextRelease

open Script

/-! ## Tags -/

/-- No command that may make a tag has succeeded. -/
def Untagged (record : List Event) : Prop :=
  ∀ lane command before result, .command lane command before (.ok result) ∈ record →
    command.Tags → ¬result.ok

section Untagged

variable {record front rest : List Event} {host : Host} {lane : Lane}

theorem untagged_append : Untagged (front ++ rest) ↔ Untagged front ∧ Untagged rest := by
  simp only [Untagged, List.mem_append, or_imp, forall_and]

def Tagless (record : List Event) : Prop :=
  ∀ lane command before reply, .command lane command before reply ∈ record → ¬command.Tags

theorem Tagless.untagged (h : Tagless record) : Untagged record :=
  fun lane command before _ hmem htags => absurd htags (h lane command before _ hmem)

theorem tagless_append : Tagless (front ++ rest) ↔ Tagless front ∧ Tagless rest := by
  simp only [Tagless, List.mem_append, or_imp, forall_and]

theorem tagless_of_asks {commands : Command → Prop} (h : ∀ event ∈ record, event.Asks commands)
    (hnot : ∀ command, commands command → ¬command.Tags) : Tagless record :=
  fun _ command _ _ hmem => hnot command (h _ hmem)

theorem untagged_of_asks {commands : Command → Prop} (h : ∀ event ∈ record, event.Asks commands)
    (hnot : ∀ command, commands command → ¬command.Tags) : Untagged record :=
  (tagless_of_asks h hnot).untagged

theorem untagged_of_looks {commands : Command → Prop} {α : Type} {script : Script α}
    {result : Except Halt α} (h : script.Course host lane record result)
    (hlooks : script.Only (Request.Looks commands))
    (hnot : ∀ command, commands command → ¬command.Tags) : Untagged record :=
  untagged_of_asks (h.asks (hlooks.mono fun _ => Request.Looks.asks)) hnot

theorem untagged_of_silent {α : Type} {script : Script α} {result : Except Halt α}
    (h : script.Course host lane record result)
    (hsilent : script.Only (Request.Asks fun _ => False)) : Untagged record :=
  untagged_of_asks (h.asks hsilent) fun _ => False.elim

theorem Repository.Query.not_tags {repo : Repository} {command : Command} (h : repo.Query command) :
    ¬command.Tags := h.words.not_tags

theorem untagged_of_createTag {repo : Repository} {name commit : String} {cause : Halt}
    (h : (repo.createTag name commit).Course host lane record (.error cause)) :
    Untagged record := by
  obtain ⟨_, result, rest, rfl, hfront, hrest⟩ | ⟨_, hfront, hcause⟩ := course_bind.1 h
  · obtain ⟨_, _, _, rfl⟩ := course_run.1 hfront
    split at hrest
    · exact nomatch (course_info.1 hrest).2
    · next hfailed =>
      obtain ⟨rfl, _⟩ := course_fail.1 hrest
      rintro _ _ _ _ hmem _
      cases List.mem_singleton.1 hmem
      exact hfailed
  · obtain ⟨_, _, _, rfl⟩ := course_run.1 hfront
    rintro _ _ _ _ hmem _
    cases List.mem_singleton.1 hmem

theorem untagged_of_createVersionTag {repo : Repository} {current : Option Reference}
    {version : String} {settings : Settings} {cause : Halt}
    (h : (Release.createVersionTag repo current version settings).Course host lane record
      (.error cause)) : Untagged record := by
  obtain ⟨front, names, rest, rfl, hfront, hrest⟩ | ⟨_, hfront, _⟩ := course_bind.1 h
  · refine untagged_append.2
      ⟨untagged_of_looks hfront (repo.looks_tags _) fun _ => Repository.Query.not_tags, ?_⟩
    split at hrest
    · exact nomatch (course_info.1 hrest).2
    · cases current with
      | some reference => exact untagged_of_createTag hrest
      | none =>
        obtain ⟨middle, commit, last, rfl, hmiddle, hlast⟩ | ⟨_, hmiddle, _⟩ := course_bind.1 hrest
        · exact untagged_append.2 ⟨untagged_of_looks hmiddle (repo.looks_resolveCommit _)
            fun _ => Repository.Query.not_tags, untagged_of_createTag hlast⟩
        · exact untagged_of_looks hmiddle (repo.looks_resolveCommit _)
            fun _ => Repository.Query.not_tags
  · exact untagged_of_looks hfront (repo.looks_tags _) fun _ => Repository.Query.not_tags

theorem Decision.tagless_decide (s : Subject) (host : Host) (w : World) :
    (decide s).Ensures host w fun _ record _ => Tagless record := by
  refine (ensures_gated s host w).mono fun _ record _ hgated => ?_
  intro lane command before reply hmem
  obtain ⟨front, rest, rfl⟩ := List.append_of_mem hmem
  exact (hgated.guarded front _ rest rfl).not_tags

end Untagged

/-! ## The manifest -/

namespace Manifest

variable {host : Host} {path : Path} {version : String} {depth : Nat} {w w' : World}

theorem exec_writeVersion (h : (writeVersion path version depth).exec host .main w = (.ok (), w')) :
    ∃ manifest text, HeldBy manifest w.files (path.route host.cwd) (depth - 1) ∧
      (withVersion manifest version).toString? = some text ∧
      w.files.write (path.route host.cwd) text.toUTF8 = .ok w'.files := by
  obtain ⟨manifest, v, hload, hwrite⟩ := exec_bind_ok.1 h
  obtain ⟨hheld, hfiles⟩ := exec_load hload
  split at hwrite
  · next text htext => exact ⟨manifest, text, hheld, htext, hfiles ▸ (exec_writeString hwrite).1⟩
  · obtain ⟨_, _, _, hfault⟩ := exec_bind_ok.1 hwrite
    cases hfault

theorem files_of_writeVersion {cause : Failure}
    (h : (writeVersion path version depth).exec host .main w = (.error (.failure cause), w')) :
    w'.files = w.files := by
  have hlooks := looks_load (fun _ => False) path (depth - 1)
  obtain hload | ⟨manifest, v, hload, hwrite⟩ := exec_bind_error.1 h
  · have hfiles := hlooks.files_exec host .main w
    rwa [hload] at hfiles
  · split at hwrite
    · obtain ⟨fault, hfault⟩ := exec_files_error hwrite
      cases hfault
    · obtain hempty | ⟨_, _, _, hfault⟩ := exec_bind_error.1 hwrite
      · obtain ⟨fault, hfault⟩ := exec_files_error hempty
        cases hfault
      · cases hfault

theorem HeldBy.of_same {manifest : Fields} {tree tree' : FileTree} {route : Route}
    (h : HeldBy manifest tree' route depth) (hsame : SameFile tree route tree') :
    HeldBy manifest tree route depth := by
  obtain ⟨bytes, text, source, hread, hrest⟩ := h
  exact ⟨bytes, text, source, hsame.content ▸ hread, hrest⟩

end Manifest

namespace Release

variable {order : Order} {host : Host} {route : Route} {w w' v : World}
  {front rest record : List Event}

/-! ## Before anything is published -/

structure Unpublished (host : Host) (route : Route) (w : World) (record : List Event) (w' : World) :
    Prop where
  untagged : Untagged record
  same : host.SparesFile w route record → SameFile w.files route w'.files

theorem unpublished_of_looks {α : Type} {script : Script α} {result : Except Halt α}
    {commands : Command → Prop} (hlooks : script.Only (Request.Looks commands))
    (hnot : ∀ command, commands command → ¬command.Tags)
    (hexec : script.exec host .main w = (result, w')) (hevents : w'.events = w.events ++ record)
    (hcourse : script.Course host .main record result) : Unpublished host route w record w' :=
  ⟨untagged_of_looks hcourse hlooks hnot, fun hspares =>
    (hspares.looked (.of_exec hlooks hexec) hevents).2⟩

theorem Unpublished.since (h : Unpublished host route v rest w')
    (hfront : Unpublished host route w front v) (hlooked : w.Looked host v)
    (hevents : v.events = w.events ++ front) : Unpublished host route w (front ++ rest) w' :=
  ⟨untagged_append.2 ⟨hfront.untagged, h.untagged⟩, fun hspares =>
    (hfront.same hspares.of_append_left).trans (h.same (hspares.of_append_right hlooked hevents))⟩

theorem unpublished_decide (s : Decision.Subject) (w : World)
    (hread : ∃ content, w.files.read route = .ok content) :
    (Decision.decide s).Ensures host w fun _ record w' => Unpublished host route w record w' :=
  ((Decision.tagless_decide s host w).and (Decision.went_of_decide s host w)).recorded.mono
    fun _ _ _ ⟨⟨htagless, hwent⟩, hrecorded⟩ =>
      ⟨htagless.untagged, fun hspares => hwent.sameFile hrecorded hspares hread⟩

theorem looks_of (commands : Command → Prop) (repo : Repository) (directory : Path)
    (settings : Settings) (depth : Nat) :
    (Decision.Subject.of repo directory settings depth).Only (Request.Looks commands) := by
  have hlooks (path : Path) (depth : Nat) :
      (Decision.placeOf? path depth).Only (Request.Looks commands) := by
    refine ⟨trivial, fun answer => ?_⟩
    dsimp only
    split <;> trivial
  refine only_bind (hlooks _ _) fun place => ?_
  cases place with
  | none => trivial
  | some place =>
    refine only_bind (hlooks _ _) fun root => ?_
    cases root with
    | none => trivial
    | some root =>
      dsimp only
      split <;> trivial

theorem looks_prepare (order : Order) (directory : Path) : (prepare order directory).Only
    (Request.Looks (·.argv = ["git", "rev-parse", "--show-toplevel"])) := by
  refine only_bind (only_bind (only_run rfl) fun result => ?_) fun repo =>
    only_bind (Manifest.looks_load ..) fun _ => only_bind (looks_of ..) fun _ => trivial
  dsimp only
  split
  · trivial
  · exact only_bind (only_files trivial) fun _ => trivial

theorem read_of_prepare {directory : Path} {found : Repository × Decision.Subject}
    (h : (prepare order directory).exec host .main w = (.ok found, w')) :
    ∃ content, w'.files.read ((directory.child Manifest.fileName).route host.cwd) = .ok content := by
  obtain ⟨repo, u, _, h⟩ := exec_bind_ok.1 h
  obtain ⟨manifest, v, hload, h⟩ := exec_bind_ok.1 h
  obtain ⟨⟨content, _, _, hread, _⟩, hfiles⟩ := Manifest.exec_load hload
  obtain ⟨subject, v', hsubject, hdone⟩ := exec_bind_ok.1 h
  have hlooks := looks_of (fun _ => False) repo directory order.settings (order.depth - 1)
  have hlater := hlooks.files_exec host .main v
  rw [hsubject] at hlater
  cases hdone
  exact ⟨content, by rw [hlater, hfiles, hread]⟩

theorem unpublished_propose (order : Order) (directory : Path) (w : World) :
    (propose order directory).Ensures host w fun _ record w' =>
      Unpublished host ((directory.child Manifest.fileName).route host.cwd) w record w' := by
  have hlooks := looks_prepare order directory
  refine Run.ensures_bind (Run.ensures_lift fun front result v hexec hevents hcourse => ?_)
  have hfront : Unpublished host ((directory.child Manifest.fileName).route host.cwd) w front v :=
    unpublished_of_looks hlooks (fun _ h => by simp [Command.Tags, h]) hexec hevents hcourse
  cases result with
  | error cause => exact hfront
  | ok found =>
    unfold Run.thenEnds
    refine Run.Ensures.mono
      (?_ : Run.Ensures _ host v fun _ rest w' => Unpublished host _ v rest w')
        fun _ rest w' hrest => hrest.since hfront (.of_exec hlooks hexec) hevents
    refine Run.ensures_bind ((unpublished_decide found.2 v (read_of_prepare hexec)).mono
      fun result rest u hrest => ?_)
    cases result with
    | error cause => exact hrest
    | ok decision =>
      unfold Run.thenEnds
      refine Run.ensures_bind (Run.ensures_lift fun last result u' hexec _ hcourse => ?_)
      obtain ⟨rfl, _⟩ := course_ofExcept.1 hcourse
      obtain rfl : u' = u := by
        rw [exec_ofExcept] at hexec
        exact (Prod.mk.inj hexec).2.symm
      cases result with
      | error cause =>
        unfold Run.thenEnds
        simpa using hrest
      | ok version =>
        unfold Run.thenEnds
        exact Run.ensures_pure (by simpa using hrest)

/-! ## After that -/

/-- How a release that failed left the manifest that was there before: as it was, or with the version
that had been proposed where what failed was the making of the tag after that. -/
inductive Left (order : Order) (host : Host) (proposed : Except Halt Proposal × World)
    (route : Route) (files : FileTree) (w' : World) : Prop
  | untouched : SameFile files route w'.files → Left order host proposed route files w'
  | updated {proposal : Proposal} {v : World} {manifest : Fields} {text : String}
      {tagging : World} {cause : Failure} :
      order.update → order.tag → proposed = (.ok proposal, v) → SameFile files route v.files →
      Manifest.HeldBy manifest files route (order.depth - 1) →
      (Manifest.withVersion manifest proposal.version).toString? = some text →
      v.files.write route text.toUTF8 = .ok tagging.files →
      (createVersionTag proposal.repo proposal.current proposal.version order.settings).exec host
        .main tagging = (.error (.failure cause), w') → SameFile tagging.files route w'.files →
      Left order host proposed route files w'

theorem Left.since {proposed : Except Halt Proposal × World} {files files' : FileTree}
    (h : Left order host proposed route files' w') (hsame : SameFile files route files') :
    Left order host proposed route files w' := by
  cases h with
  | untouched h => exact .untouched (hsame.trans h)
  | updated hupdate htag hproposed hbefore hheld htext hwrite htagging hafter =>
    exact .updated hupdate htag hproposed (hsame.trans hbefore) (hheld.of_same hsame) htext hwrite
      htagging hafter

theorem looks_createVersionTag (repo : Repository) (current : Option Reference) (version : String)
    (settings : Settings) :
    (createVersionTag repo current version settings).Only (Request.Looks fun _ => True) := by
  have hlooks {α : Type} {script : Script α} (h : script.Only (Request.Looks repo.Query)) :
      script.Only (Request.Looks fun _ => True) := h.mono fun _ h => h.mono fun _ _ => trivial
  have htag (commit : String) : (repo.createTag version commit).Only
      (Request.Looks fun _ => True) := by
    refine only_bind (only_run trivial) fun result => ?_
    split
    · exact only_note trivial
    · trivial
  refine only_bind (hlooks (repo.looks_tags _)) fun names => ?_
  split
  · exact only_note trivial
  · cases current with
    | some reference => exact htag _
    | none => exact only_bind (hlooks (repo.looks_resolveCommit _)) fun _ => htag _

theorem exec_update {path : Path} {version : String}
    (h : (update order path version).exec host .main w = (.ok (), w')) :
    order.update ∧ (∃ manifest text,
        Manifest.HeldBy manifest w.files (path.route host.cwd) (order.depth - 1) ∧
        (Manifest.withVersion manifest version).toString? = some text ∧
        w.files.write (path.route host.cwd) text.toUTF8 = .ok w'.files) ∨
      order.update = false ∧ w' = w := by
  unfold update at h
  split at h
  · next hupdate =>
    obtain ⟨_, v, hwrite, hnote⟩ := exec_bind_ok.1 h
    cases hnote
    obtain ⟨manifest, text, hheld, htext, hwritten⟩ := Manifest.exec_writeVersion hwrite
    exact .inl ⟨hupdate, manifest, text, hheld, htext, hwritten⟩
  · next hnone =>
    cases h
    exact .inr ⟨by simpa using hnone, rfl⟩

theorem files_of_update {path : Path} {version : String} {cause : Failure}
    (h : (update order path version).exec host .main w = (.error (.failure cause), w')) :
    w'.files = w.files := by
  unfold update at h
  split at h
  · obtain hwrite | ⟨_, _, _, hnote⟩ := exec_bind_error.1 h
    · exact Manifest.files_of_writeVersion hwrite
    · cases hnote
  · cases h

theorem asks_update (order : Order) (path : Path) (version : String) :
    (update order path version).Only (Request.Asks fun _ => False) := by
  unfold update
  split
  · refine only_bind (only_bind ((Manifest.looks_load ..).mono fun _ => Request.Looks.asks)
      fun manifest => ?_) fun _ => only_note trivial
    split
    · exact only_files trivial
    · exact only_bind (only_files trivial) fun _ => trivial
  · trivial

theorem untagged_of_publish {path : Path} {proposal : Proposal} {cause : Halt}
    (h : (publish order path proposal).Course host .main record (.error cause)) :
    Untagged record := by
  have hupdate := asks_update order path proposal.version
  obtain ⟨front, _, rest, rfl, hfront, hrest⟩ | ⟨_, hfront, _⟩ := course_bind.1 h
  · refine untagged_append.2 ⟨untagged_of_silent hfront hupdate, ?_⟩
    split at hrest
    · obtain ⟨_, _, _, _, _, hdone⟩ | ⟨_, htag, _⟩ := course_bind.1 hrest
      · exact nomatch (course_done.1 hdone).2
      · exact untagged_of_createVersionTag htag
    · exact nomatch (course_done.1 hrest).2
  · exact untagged_of_silent hfront hupdate

theorem left_of_publish {path : Path} {proposal : Proposal} {cause : Failure}
    (h : (publish order path proposal).exec host .main w = (.error (.failure cause), w'))
    (hevents : w'.events = w.events ++ record)
    (hkept : ∀ tree, host.Kept (SameFile tree (path.route host.cwd)) w.events record) :
    Left order host (.ok proposal, w) (path.route host.cwd) w.files w' := by
  obtain hupdate | ⟨_, v, hupdate, hrest⟩ := exec_bind_error.1 h
  · exact .untouched ⟨by rw [files_of_update hupdate], by rw [files_of_update hupdate]⟩
  · split at hrest
    · next htag =>
      obtain htagging | ⟨_, _, _, hdone⟩ := exec_bind_error.1 hrest
      · obtain ⟨front, hfront, _⟩ := (update order path proposal.version).exec_course host .main w
        rw [hupdate] at hfront
        have hlooked : v.Looked host w' := .of_exec (looks_createVersionTag ..) htagging
        have ⟨rest, hlater, _⟩ := hlooked
        obtain rfl : record = front ++ rest := by
          rw [hevents, hfront, List.append_assoc] at hlater
          exact List.append_cancel_left hlater
        have hafter : SameFile v.files (path.route host.cwd) w'.files :=
          hlooked.keeps (.refl _ _) hlater (hfront ▸ (hkept v.files).of_append_right)
        obtain ⟨hasked, manifest, text, hheld, htext, hwrite⟩ | ⟨_, rfl⟩ := exec_update hupdate
        · exact .updated hasked htag rfl (.refl _ _) hheld htext hwrite htagging hafter
        · exact .untouched hafter
      · cases hdone
    · cases hrest

theorem left_of_perform (order : Order) (directory : Path) (w : World) :
    (perform order directory).Ensures host w fun result record w' =>
      ∀ cause, result = .error (.failure cause) → Untagged record ∧
        (host.SparesFile w ((directory.child Manifest.fileName).route host.cwd) record →
          Left order host (propose order directory host w)
            ((directory.child Manifest.fileName).route host.cwd) w.files w') := by
  rw [perform_eq]
  refine Run.ensures_bind ((unpublished_propose order directory w).recorded.computed.mono
    fun result front v ⟨⟨hfront, hrecorded⟩, hproposed⟩ => ?_)
  cases result with
  | error cause =>
    exact fun _ _ => ⟨hfront.untagged, fun hspares => .untouched (hfront.same hspares)⟩
  | ok proposal =>
    unfold Run.thenEnds
    refine Run.ensures_lift fun rest result w' hexec hevents hcourse => ?_
    rintro cause rfl
    refine ⟨untagged_append.2 ⟨hfront.untagged, untagged_of_publish hcourse⟩, fun hspares => ?_⟩
    have hsame := hfront.same hspares.of_append_left
    rw [hproposed]
    refine (left_of_publish hexec hevents ?_).since hsame
    exact fun tree => hrecorded ▸ (hspares.same tree).of_append_right

theorem failed_of_report {result : Except Halt String} {report : Report}
    (h : order.report result = .ok report) (hexit : report.exit = 1) :
    ∃ cause, result = .error (.failure cause) := by
  cases result with
  | ok version =>
    cases h
    cases hexit
  | error cause =>
    cases cause with
    | failure cause => exact ⟨cause, rfl⟩
    | fault fault => cases h
    | interrupted => cases h

def manifestRoute (host : Host) (place : Place) : Route :=
  ((Path.ofPlace place).child Manifest.fileName).route host.cwd

/-- A release that ends with exit status one has made no tag. If its commands spared the manifest,
that is as it was, unless it was updated and the making of the tag failed after that. -/
theorem intact_of_run {report : Report} (hrun : run order host w = (.ok report, w'))
    (hexit : report.exit = 1) (hrecord : w'.events = w.events ++ record) :
    Untagged record ∧ ∃ place,
      w.files.resolve host.cwd order.directory (order.depth + 1) = .ok place ∧
      (host.SparesFile w (manifestRoute host place) record →
        Left order host (propose order (.ofPlace place) host w) (manifestRoute host place) w.files
          w') := by
  rw [run_eq] at hrun
  split at hrun
  · cases hrun
  · next place hplace =>
    obtain ⟨hreport, rfl⟩ := Prod.mk.inj hrun
    obtain ⟨record', hevents, hleft⟩ := left_of_perform order (.ofPlace place) w
    obtain rfl : record' = record := List.append_cancel_left (hevents.symm.trans hrecord)
    obtain ⟨cause, hfailed⟩ := failed_of_report hreport hexit
    obtain ⟨huntagged, hintact⟩ := hleft cause hfailed
    exact ⟨huntagged, place, hplace, hintact⟩

/-- A repository without a tag, which refuses to make one. -/
def refusing : Host where
  runner := ⟨fun _ tree command =>
    (match command.argv with
      | ["git", "rev-parse", "--show-toplevel"] => .ok { code := 0, out := "/repo\n" }
      | ["git", "tag", _, _] => .ok { code := 128 }
      | _ => .ok { code := 0 }, tree)⟩
  cwd := []
  temporary := ⟨1, ["tmp"]⟩
  randomNames := ["0"]

/-- A release that is to be written into the manifest and tagged. -/
def complete (expected : Option String) : Order where
  directory := ⟨1, ["repo"]⟩
  expected := expected
  update := true
  tag := true

def isMove : Event → Bool
  | .move .. => true
  | _ => false

theorem grounded_holding (manifest : ByteArray) : (holding manifest).files.Grounded := by
  refine FileTree.grounded_of_forall rfl fun entry hentry => ?_
  simp only [holding, List.mem_cons, List.not_mem_nil, or_false] at hentry
  obtain rfl | rfl := hentry
  · rfl
  · rfl

/-- A release of too low a version has made no tag and left the manifest. -/
theorem intact_of_run_tooLow :
    ∃ report w', run (complete (some "0.0.1")) refusing (holding "{}".toUTF8) = (.ok report, w') ∧
      report.exit = 1 ∧ Untagged w'.events ∧
      refusing.SparesFile (holding "{}".toUTF8) (manifestRoute refusing ["repo"]) w'.events ∧
      Left (complete (some "0.0.1")) refusing
        (propose (complete (some "0.0.1")) (.ofPlace ["repo"]) refusing (holding "{}".toUTF8))
        (manifestRoute refusing ["repo"]) (holding "{}".toUTF8).files w' := by
  obtain ⟨ended, hw⟩ : ∃ ended,
      run (complete (some "0.0.1")) refusing (holding "{}".toUTF8) = ended := ⟨_, rfl⟩
  have hreport : ended.1 = .ok
      { exit := 1, err := errorLine (Failure.versionTooLow "0.0.1" "0.1.0").message } := hw ▸ rfl
  have hstays : ended.2.events.all (!isMove ·) := hw ▸ rfl
  have hkept (holds : FileTree → Prop) (past : List Event) :
      refusing.Kept holds past ended.2.events := fun _ _ _ _ _ _ _ h => h
  have hspares : refusing.SparesFile (holding "{}".toUTF8) (manifestRoute refusing ["repo"])
      ended.2.events :=
    ⟨grounded_holding _, hkept _ _, fun _ => hkept _ _, fun _ _ _ _ _ => hkept _ _,
      fun _ _ _ _ _ hmove => nomatch List.all_eq_true.1 hstays _ hmove⟩
  have hrun : run (complete (some "0.0.1")) refusing (holding "{}".toUTF8) = (.ok _, ended.2) :=
    hw.trans (Prod.ext hreport rfl)
  obtain ⟨huntagged, place, hplace, hleft⟩ := intact_of_run hrun rfl (List.nil_append _).symm
  obtain rfl : ["repo"] = place := Except.ok.inj hplace
  exact ⟨_, _, hrun, rfl, huntagged, hspares, hleft hspares⟩

/-- Where the tag is refused, the release fails and the manifest stays updated, though no command
changes any file. -/
theorem unrestored_of_run :
    (∀ events tree command, (refusing.runner.respond events tree command).2 = tree) ∧
    (run (complete none) refusing (holding "{}".toUTF8)).1 = .ok
      { exit := 1, err := errorLine (Failure.stage .tag "0.1.0" "exit status 128").message } ∧
    (holding "{}".toUTF8).files.read (manifestRoute refusing ["repo"]) = .ok "{}".toUTF8 ∧
    (run (complete none) refusing (holding "{}".toUTF8)).2.files.read
      (manifestRoute refusing ["repo"]) =
        .ok "\x7b\n  \"version\": \"0.1.0\"\n\x7d\n".toUTF8 :=
  ⟨fun _ _ _ => rfl, rfl, rfl, rfl⟩

end Release

end NextRelease
