import NextRelease.Proofs.Release.Atomicity
import NextRelease.Proofs.Release.Performing
import NextRelease.Proofs.Version.Reading

/-! The tags of a repository over any number of releases. None is taken away, and no two of them ever
stand for versions that are level, because a tag for a version is always seen where all tags are
listed. Not all that is seen there is a tag: a break within a name starts a line of its own. -/

namespace NextRelease

open Script

/-! ## What is listed -/

namespace Repository

theorem seen_of_mem {result : CommandResult} {names : List String} {name : String} {v : Version}
    (hok : result.ok) (hout : result.out = Text.wordLines names) (hmem : name ∈ names)
    (hv : Version.parse? name = some v) :
    ∃ seen ∈ listedNames result, Version.parse? seen = some v := by
  have hword := Version.trim_of_parse? hv
  obtain ⟨line, hline, htrim⟩ := Text.exists_line_trim hword
  refine ⟨Text.trim name, (mem_listedNames_iff hok).2 ?_, ?_⟩
  · rw [mem_printedNames, hout, Text.lines_wordLines_eq_flatMap]
    exact ⟨hword.1, line, List.mem_flatMap.2 ⟨name, hmem, hline⟩, htrim⟩
  · rw [Version.parse?_trim, hv]

theorem printed_of_seen {result : CommandResult} {names : List String} {seen : String} {v : Version}
    (hok : result.ok) (hout : result.out = Text.wordLines names) (hseen : seen ∈ listedNames result)
    (hv : Version.parse? seen = some v) :
    ∃ name ∈ names, ∃ line ∈ Text.lines (name ++ "\n"), Version.parse? line = some v := by
  obtain ⟨_, line, hline, rfl⟩ := mem_printedNames.1 ((mem_listedNames_iff hok).1 hseen)
  rw [hout, Text.lines_wordLines_eq_flatMap] at hline
  obtain ⟨name, hmem, hline⟩ := List.mem_flatMap.1 hline
  exact ⟨name, hmem, line, hline, by rwa [Version.parse?_trim] at hv⟩

end Repository

/-! ## The tags there are -/

def Command.retag (command : Command) (tags : List String) : List String :=
  match command.argv with
  | "git" :: "tag" :: "--list" :: _ => tags
  | "git" :: "tag" :: "-d" :: names => tags.filter fun name => !names.contains name
  | ["git", "tag", name] => tags.insert name
  | ["git", "tag", name, _] => tags.insert name
  | _ => tags

def Event.retag (tags : List String) : Event → List String
  | .command _ asked _ (.ok result) => if result.ok then asked.retag tags else tags
  | _ => tags

/-- The tags of a repository after a record, if it had some before. -/
def tagsAfter (tags : List String) (record : List Event) : List String :=
  record.foldl Event.retag tags

namespace Release

/-- No two tags stand for versions that are level. -/
def Distinct (tags : List String) : Prop :=
  ∀ name ∈ tags, ∀ other ∈ tags, ∀ v w, Version.parse? name = some v →
    Version.parse? other = some w → v.isLevelWith w → name = other

/-- Among some tags is one that is level with a version. -/
def HasLevel (tags : List String) (v : Version) : Prop :=
  ∃ name ∈ tags, ∃ w, Version.parse? name = some w ∧ w.isLevelWith v

/-- Among some tags is one with a break in its name and a version that is level with another one on
some line of it. -/
def HasLevelLine (tags : List String) (v : Version) : Prop :=
  ∃ name ∈ tags, (∃ c ∈ name.toList, Text.isBreak c) ∧
    ∃ line ∈ Text.lines (name ++ "\n"), ∃ w, Version.parse? line = some w ∧ w.isLevelWith v

/-- A listing of all tags that comes back prints each tag there is on a line of its own, in whatever
order. -/
def Lists (start : List String) (front : List Event) (event : Event) : Prop :=
  ∀ lane cwd before result, event = .command lane ⟨["git", "tag", "--list"], cwd⟩ before (.ok result) →
    result.ok ∧ ∃ names, result.out = Text.wordLines names ∧
      ∀ name, name ∈ names ↔ name ∈ tagsAfter start front

variable {order : Order} {host : Host} {tags : List String} {record front rest past : List Event}

@[simp] theorem tagsAfter_append :
    tagsAfter tags (front ++ rest) = tagsAfter (tagsAfter tags front) rest := List.foldl_append

theorem retag_of_not_tags {command : Command} (h : ¬command.Tags) : command.retag tags = tags := by
  have hlist {rest : List String} (hargv : command.argv = "git" :: "tag" :: rest) :
      rest.head? = some "--list" := by
    by_contra hhead
    exact h ⟨rest, hargv, hhead⟩
  unfold Command.retag
  split
  · rfl
  · next hargv => exact absurd (Option.some.inj (hlist hargv)) (by decide)
  · next hnot _ hargv => exact (hnot (Option.some.inj (hlist hargv))).elim
  · next hnot _ hargv => exact (hnot (Option.some.inj (hlist hargv))).elim
  · rfl

theorem retag_version {name commit : String} {cwd : Path} {v : Version}
    (h : Version.parse? name = some v) :
    Command.retag ⟨["git", "tag", name, commit], cwd⟩ tags = tags.insert name := by
  have hlist : Version.parse? "--list" = none := by cbv
  have hdelete : Version.parse? "-d" = none := by cbv
  have hne {word : String} (hword : Version.parse? word = none) : name ≠ word := by
    rintro rfl
    rw [hword] at h
    cases h
  simp only [Command.retag]
  split
  · next heq =>
    simp only [List.cons.injEq] at heq
    exact absurd heq.2.2.1 (hne hlist)
  · next heq =>
    simp only [List.cons.injEq] at heq
    exact absurd heq.2.2.1 (hne hdelete)
  · next heq => simp at heq
  · next heq =>
    simp only [List.cons.injEq] at heq
    rw [heq.2.2.1]
  · next hnone => exact absurd rfl (hnone name commit)

theorem untagged_of_query {argv : List String} (h : Repository.IsQuery argv) (lane : Lane)
    (cwd : Path) (before : FileTree) (reply : Reply) :
    Untagged [.command lane ⟨argv, cwd⟩ before reply] := by
  intro _ command _ _ hmem htags
  cases List.mem_singleton.1 hmem
  exact absurd htags (Repository.IsQuery.not_tags h)

theorem tagsAfter_of_untagged (h : Untagged record) : tagsAfter tags record = tags := by
  induction record generalizing tags with
  | nil => rfl
  | cons event record ih =>
    obtain ⟨hevent, hrecord⟩ := untagged_append.1 (show Untagged ([event] ++ record) from h)
    have hkept : event.retag tags = tags := by
      cases event with
      | command lane asked before reply =>
        cases reply with
        | ok result =>
          by_cases hok : result.ok
          · have hnot : ¬asked.Tags := fun htags =>
              hevent lane asked before result (by simp) htags hok
            simp only [Event.retag, if_pos hok, retag_of_not_tags hnot]
          · simp only [Event.retag, if_neg hok]
        | error cause => rfl
      | _ => rfl
    rw [tagsAfter, List.foldl_cons, hkept]
    exact ih hrecord

/-! ## One release -/

inductive Marks (order : Order) : List Event → Except Halt String → Prop
  | unmarked {record : List Event} {result : Except Halt String} : Untagged record →
      (∀ version, result = .ok version → order.tag = false) → Marks order record result
  | marked {front tagging : List Event} {repo : Repository} {current : Option Reference}
      {version : String} {v : Version} : Untagged front → v.print? = some version →
      Tagged repo current version order.settings tagging →
        Marks order (front ++ tagging) (.ok version)

theorem Marks.prepend {result : Except Halt String} (h : Marks order rest result)
    (hfront : Untagged front) : Marks order (front ++ rest) result := by
  cases h with
  | unmarked hrest hnone => exact .unmarked (untagged_append.2 ⟨hfront, hrest⟩) hnone
  | marked hmiddle hprint htagged =>
    rw [← List.append_assoc]
    exact .marked (untagged_append.2 ⟨hfront, hmiddle⟩) hprint htagged

theorem marks_of_publish {path : Path} {proposal : Proposal} {version : String} {v : Version}
    (h : (publish order path proposal).Course host .main record (.ok version))
    (hprint : v.print? = some proposal.version) : Marks order record (.ok version) := by
  obtain ⟨updating, _, rest, rfl, hupdate, hrest⟩ := course_bind_ok.1 h
  have huntagged := untagged_of_silent hupdate (asks_update order path proposal.version)
  by_cases htag : order.tag
  · rw [if_pos htag] at hrest
    obtain ⟨tagging, _, last, rfl, htagging, hdone⟩ := course_bind_ok.1 hrest
    obtain ⟨rfl, hversion⟩ := course_done.1 hdone
    cases hversion
    rw [List.append_nil]
    exact .marked huntagged hprint (tagged_of_course htagging)
  · rw [if_neg htag] at hrest
    obtain ⟨rfl, hversion⟩ := course_done.1 hrest
    rw [List.append_nil]
    exact .unmarked huntagged fun _ _ => by simpa using htag

theorem marks_of_perform (order : Order) (directory : Path) (w : World) :
    (perform order directory).Ensures host w fun result record _ => Marks order record result := by
  rw [perform_eq]
  refine Run.ensures_bind ((unpublished_propose order directory w).performed.mono
    fun result front v ⟨hfront, hpropose⟩ => ?_)
  cases result with
  | error cause => exact .unmarked hfront.untagged fun _ h => nomatch h
  | ok proposal =>
    unfold Run.thenEnds
    refine Run.ensures_lift fun rest result w' _ _ hcourse => ?_
    cases result with
    | error cause =>
      have hrest : Untagged rest := untagged_of_publish hcourse
      exact .unmarked (untagged_append.2 ⟨hfront.untagged, hrest⟩) fun _ h => nomatch h
    | ok version =>
      obtain ⟨u, hu⟩ := exists_print?_of_propose hpropose
      exact (marks_of_publish hcourse hu).prepend hfront.untagged

/-! ## What a release leaves distinct -/

theorem isLevelTag_iff {version name : String} {v : Version}
    (h : Version.parse? version = some v) :
    isLevelTag version name ↔ ∃ w, Version.parse? name = some w ∧ w.isLevelWith v := by
  unfold isLevelTag
  rw [h]
  cases Version.parse? name with
  | none => simp
  | some w => simp

theorem Distinct.insert {version : String} {v : Version} (h : Distinct tags)
    (hv : Version.parse? version = some v) (hnone : ¬HasLevel tags v) :
    Distinct (tags.insert version) := by
  intro name hname other hother u w hu hw hlevel
  rcases List.mem_insert_iff.1 hname with rfl | hold
  · cases hu.symm.trans hv
    rcases List.mem_insert_iff.1 hother with rfl | hold
    · rfl
    · exact absurd ⟨other, hold, w, hw, Version.isLevelWith_comm ▸ hlevel⟩ hnone
  · rcases List.mem_insert_iff.1 hother with rfl | hold'
    · cases hw.symm.trans hv
      exact absurd ⟨name, hold, u, hu, hlevel⟩ hnone
    · exact h name hold other hold' u w hu hw hlevel

variable {start : List String}

theorem hasLevel_of_seen {lane : Lane} {cwd : Path} {before : FileTree}
    {listing : CommandResult} {seen version : String} {v : Version}
    (hlists : Lists start past (.command lane ⟨["git", "tag", "--list"], cwd⟩ before (.ok listing)))
    (hseen : seen ∈ Repository.listedNames listing) (hv : Version.parse? version = some v)
    (hlevel : isLevelTag version seen) :
    HasLevel (tagsAfter start past) v ∨ HasLevelLine (tagsAfter start past) v := by
  obtain ⟨hok, names, hout, hnames⟩ := hlists _ _ _ _ rfl
  obtain ⟨w, hw, hlevel⟩ := (isLevelTag_iff hv).1 hlevel
  obtain ⟨name, hname, line, hline, hparse⟩ := Repository.printed_of_seen hok hout hseen hw
  have htag : name ∈ tagsAfter start past := (hnames name).1 hname
  by_cases hbreak : ∃ c ∈ name.toList, Text.isBreak c
  · exact .inr ⟨name, htag, hbreak, line, hline, w, hparse, hlevel⟩
  · rw [Text.lines_append_newline fun c hc => by simpa using fun h => hbreak ⟨c, hc, h⟩] at hline
    rw [List.mem_singleton.1 hline] at hparse
    exact .inl ⟨name, htag, w, hparse, hlevel⟩

theorem not_hasLevel_of_listed {lane : Lane} {cwd : Path} {before : FileTree}
    {listing : CommandResult} {version : String} {v : Version}
    (hlists : Lists start past (.command lane ⟨["git", "tag", "--list"], cwd⟩ before (.ok listing)))
    (hv : Version.parse? version = some v)
    (hnone : ∀ name ∈ Repository.listedNames listing, isLevelTag version name = false) :
    ¬HasLevel (tagsAfter start past) v := by
  rintro ⟨name, hname, w, hw, hlevel⟩
  obtain ⟨hok, names, hout, hnames⟩ := hlists _ _ _ _ rfl
  obtain ⟨seen, hseen, hparse⟩ := Repository.seen_of_mem hok hout ((hnames name).2 hname) hw
  have hlevelTag := (isLevelTag_iff hv).2 ⟨w, hparse, hlevel⟩
  exact nomatch (hnone seen hseen).symm.trans hlevelTag

structure Kept (order : Order) (before after : List String) (result : Except Halt String) : Prop where
  distinct : Distinct after
  subset : before ⊆ after
  tagged : ∀ version, result = .ok version → order.tag →
    ∃ v : Version, v.print? = some version ∧ (HasLevel after v ∨ HasLevelLine after v)

theorem Tagged.kept {repo : Repository} {current : Option Reference} {version : String} {v : Version}
    (h : Tagged repo current version order.settings record) (hprint : v.print? = some version)
    (hdistinct : Distinct (tagsAfter start past)) (hlists : Guarded (Lists start) past record) :
    Kept order (tagsAfter start past) (tagsAfter start (past ++ record)) (.ok version) := by
  have hv := Version.parse?_of_print? hprint
  rw [tagsAfter_append]
  cases h with
  | level hseen =>
    obtain ⟨seen, hseen, hlevel⟩ := hseen
    have hlevels := hasLevel_of_seen (guarded_cons.1 hlists).1 hseen hv hlevel
    have hnote (text : String) : Untagged [.note .main .info text] := by simp [Untagged]
    rw [← List.singleton_append, tagsAfter_append,
      tagsAfter_of_untagged (untagged_of_query .tags _ _ _ _), tagsAfter_of_untagged (hnote _)]
    refine ⟨hdistinct, List.Subset.refl _, fun _ hversion _ => ?_⟩
    cases hversion
    exact ⟨v, hprint, hlevels⟩
  | @made _ _ _ result asked _ _ hnone hpointed hok =>
    have hnot := not_hasLevel_of_listed (guarded_cons.1 hlists).1 hv hnone
    have hasked : Untagged asked := by
      cases hpointed with
      | current => simp [Untagged]
      | resolved => exact untagged_of_query (.commit _) _ _ _ _
    rw [← List.singleton_append, tagsAfter_append,
      tagsAfter_of_untagged (untagged_of_query .tags _ _ _ _), tagsAfter_append,
      tagsAfter_of_untagged hasked]
    simp only [tagsAfter, List.foldl_cons, List.foldl_nil, Event.retag, if_pos hok,
      retag_version hv]
    refine ⟨hdistinct.insert hv hnot, fun name hname => List.mem_insert_iff.2 (.inr hname),
      fun _ hversion _ => ?_⟩
    cases hversion
    exact ⟨v, hprint, .inl ⟨version, List.mem_insert_iff.2 (.inl rfl), v, hv, v.isLevelWith_refl⟩⟩

theorem Marks.kept {result : Except Halt String} (h : Marks order record result)
    (hdistinct : Distinct (tagsAfter start past)) (hlists : Guarded (Lists start) past record) :
    Kept order (tagsAfter start past) (tagsAfter start (past ++ record)) result := by
  have hfront {front : List Event} (huntagged : Untagged front) :
      tagsAfter start (past ++ front) = tagsAfter start past := by
    rw [tagsAfter_append, tagsAfter_of_untagged huntagged]
  cases h with
  | unmarked huntagged hnone =>
    rw [hfront huntagged]
    refine ⟨hdistinct, List.Subset.refl _, fun version hversion htag => ?_⟩
    exact nomatch htag.symm.trans (hnone version hversion)
  | marked huntagged hprint htagged =>
    rw [← hfront huntagged] at hdistinct ⊢
    rw [← List.append_assoc]
    exact htagged.kept hprint hdistinct (guarded_append.1 hlists).2

theorem marks_of_achieve (order : Order) (w : World) :
    (achieve order).Ensures host w fun result record _ => Marks order record result := by
  have hasks : (Script.resolve order.directory (order.depth + 1)).Only
      (Request.Asks fun _ => False) := only_files trivial
  refine Run.ensures_bind (Run.ensures_lift fun front result v _ _ hcourse => ?_)
  have hfront : Untagged front := untagged_of_silent hcourse hasks
  cases result with
  | error cause => exact .unmarked hfront fun _ h => nomatch h
  | ok place =>
    unfold Run.thenEnds
    exact (marks_of_perform order (.ofPlace place) v).mono fun _ _ _ hrest => hrest.prepend hfront

/-! ## Any number of releases -/

/-- A call of the command, with the host that it runs on and the files that it finds. -/
structure Call where
  host : Host
  order : Order
  files : FileTree

/-- How a call ends that is made after a past. -/
def Call.ended (call : Call) (past : List Event) : Except Halt Report × World :=
  run call.order call.host ⟨call.files, past⟩

/-- What is recorded of calls that are made one after another. -/
def eventsOf (calls : List Call) : List Event :=
  calls.foldl (fun past call => (call.ended past).2.events) []

theorem marks_of_call (call : Call) (past : List Event) :
    ∃ record, (call.ended past).2.events = past ++ record ∧
      Marks call.order record (achieve call.order call.host ⟨call.files, past⟩).1 := by
  have hensures : (achieve call.order).Ensures call.host ⟨call.files, past⟩
      fun result record _ => Marks call.order record result := marks_of_achieve _ _
  obtain ⟨record, hrecord, hmarks⟩ := hensures
  refine ⟨record, ?_, hmarks⟩
  rw [Call.ended, run_eq_report]
  exact hrecord

theorem eventsOf_concat (calls : List Call) (call : Call) :
    eventsOf (calls ++ [call]) = (call.ended (eventsOf calls)).2.events := by
  simp [eventsOf]

theorem kept_of_call (call : Call) (hdistinct : Distinct (tagsAfter start past))
    (hlists : Guarded (Lists start) [] (call.ended past).2.events) :
    Kept call.order (tagsAfter start past) (tagsAfter start (call.ended past).2.events)
      (achieve call.order call.host ⟨call.files, past⟩).1 := by
  obtain ⟨record, hrecord, hmarks⟩ := marks_of_call call past
  rw [hrecord] at hlists ⊢
  exact hmarks.kept hdistinct (by simpa using (guarded_append.1 hlists).2)

theorem guarded_eventsOf {calls : List Call} {call : Call}
    (hlists : Guarded (Lists start) [] (eventsOf (calls ++ [call]))) :
    Guarded (Lists start) [] (eventsOf calls) := by
  obtain ⟨record, hrecord, _⟩ := marks_of_call call (eventsOf calls)
  rw [eventsOf_concat, hrecord] at hlists
  exact (guarded_append.1 hlists).1

theorem distinct_eventsOf (hdistinct : Distinct start) (calls : List Call)
    (hlists : Guarded (Lists start) [] (eventsOf calls)) :
    Distinct (tagsAfter start (eventsOf calls)) := by
  induction calls using List.reverseRecOn with
  | nil => exact hdistinct
  | append_singleton calls call ih =>
    have hbefore := ih (guarded_eventsOf hlists)
    rw [eventsOf_concat] at hlists ⊢
    exact (kept_of_call call hbefore hlists).distinct

/-- After each of any number of calls the tags are distinct and those from before it are still there. If
the call is to tag a version and ends well, then a tag is level with the version that it reports, or
else a tag with a break in its name has a line that is. -/
theorem distinct_of_calls (hdistinct : Distinct start) (calls : List Call) (call : Call)
    (hlists : Guarded (Lists start) [] (eventsOf (calls ++ [call]))) :
    let ended := call.ended (eventsOf calls)
    let before := tagsAfter start (eventsOf calls)
    let after := tagsAfter start ended.2.events
    Distinct before ∧ Distinct after ∧ before ⊆ after ∧
      ∀ report, ended.1 = .ok report → report.exit = 0 → call.order.tag →
        ∃ (version : String) (v : Version),
          (achieve call.order call.host ⟨call.files, eventsOf calls⟩).1 = .ok version ∧
          report.out = call.order.shown version ∧ v.print? = some version ∧
          (HasLevel after v ∨ HasLevelLine after v) := by
  intro ended before after
  have hbefore : Distinct before := distinct_eventsOf hdistinct calls (guarded_eventsOf hlists)
  have hkept := kept_of_call call hbefore (eventsOf_concat calls call ▸ hlists)
  refine ⟨hbefore, hkept.distinct, hkept.subset, fun report hreport hexit htag => ?_⟩
  have hended : call.order.report (achieve call.order call.host ⟨call.files, eventsOf calls⟩).1 =
      .ok report := by
    rw [← hreport]
    exact (congrArg Prod.fst (run_eq_report ..)).symm
  obtain ⟨version, hachieve, hout⟩ := achieved_of_report hended hexit
  obtain ⟨v, hprint, hlevel⟩ := hkept.tagged version hachieve htag
  exact ⟨version, v, hachieve, hout, hprint, hlevel⟩

def ShowsTags (start : List String) : (front rest : List Event) → Bool
  | _, [] => true
  | front, event :: rest =>
    (match event with
      | .command _ asked _ (.ok result) => asked.argv != ["git", "tag", "--list"] ||
          result.ok && result.out == Text.wordLines (tagsAfter start front)
      | _ => true) && ShowsTags start (front ++ [event]) rest

theorem guarded_of_showsTags (h : ShowsTags start front rest) : Guarded (Lists start) front rest := by
  induction rest generalizing front with
  | nil => exact guarded_nil
  | cons event rest ih =>
    obtain ⟨hevent, hrest⟩ := Bool.and_eq_true_iff.1 h
    refine guarded_cons.2 ⟨?_, ih hrest⟩
    rintro lane cwd before result rfl
    simp only [bne_self_eq_false, Bool.false_or, Bool.and_eq_true, beq_iff_eq] at hevent
    exact ⟨hevent.1, _, hevent.2, fun _ => Iff.rfl⟩

/-- A repository that keeps its tags, none of which is merged into anything. -/
def keeping (start : List String) : Host where
  runner := ⟨fun events tree command =>
    (match command.argv with
      | ["git", "rev-parse", "--show-toplevel"] => .ok { code := 0, out := "/repo\n" }
      | ["git", "tag", "--list"] =>
        .ok { code := 0, out := Text.wordLines (tagsAfter start events) }
      | _ => .ok { code := 0 }, tree)⟩
  cwd := []
  temporary := ⟨1, ["tmp"]⟩
  randomNames := ["0"]

/-- The release of a package that declares no version, to be tagged. -/
def marking (start : List String) (expected : Option String) : Call where
  host := keeping start
  order := { directory := ⟨1, ["repo"]⟩, expected := expected, tag := true }
  files := (holding "{}".toUTF8).files

theorem distinct_singleton (name : String) : Distinct [name] := by
  intro first hfirst second hsecond _ _ _ _ _
  rw [List.mem_singleton.1 hfirst, List.mem_singleton.1 hsecond]

/-- Beside `v1.0.0` a first call tags `0.1.0`; a second one that expects `1.0.0+7` finds a tag that is
level with it and makes none. -/
theorem distinct_of_calls_twice :
    let start := ["v1.0.0"]
    let calls := [marking start none]
    let call := marking start (some "1.0.0+7")
    let after := tagsAfter start (eventsOf (calls ++ [call]))
    Distinct start ∧ Guarded (Lists start) [] (eventsOf (calls ++ [call])) ∧
      (call.ended (eventsOf calls)).1 = .ok { exit := 0, out := "1.0.0+7\n" } ∧ call.order.tag ∧
      after = ["0.1.0", "v1.0.0"] ∧ Distinct after ∧
      ∃ v : Version, v.print? = some "1.0.0+7" ∧ (HasLevel after v ∨ HasLevelLine after v) := by
  intro start calls call after
  have hdistinct : Distinct start := distinct_singleton "v1.0.0"
  have hlists : Guarded (Lists start) [] (eventsOf (calls ++ [call])) :=
    guarded_of_showsTags (by decide +kernel)
  have hended : (call.ended (eventsOf calls)).1 = .ok { exit := 0, out := "1.0.0+7\n" } :=
    eq_ok_of_toOption (by decide +kernel)
  obtain ⟨_, hafter, _, hreports⟩ := distinct_of_calls hdistinct calls call hlists
  obtain ⟨version, v, hachieve, hout, hprint, hlevel⟩ := hreports _ hended rfl rfl
  rw [← eventsOf_concat] at hafter hlevel
  have hversion : version = "1.0.0+7" := by
    have hachieved : (achieve call.order call.host ⟨call.files, eventsOf calls⟩).1 =
        .ok "1.0.0+7" := eq_ok_of_toOption (by decide +kernel)
    exact Except.ok.inj (hachieve.symm.trans hachieved)
  exact ⟨hdistinct, hlists, hended, rfl, by decide +kernel, hafter, v, hversion ▸ hprint, hlevel⟩

/-- A tag whose name ends in a version behind a line separator stands in the way of the tag for that
version: the release of `0.1.0` ends well and leaves no tag that is level with it. -/
theorem unmarked_of_call :
    let start := ["x\u20280.1.0"]
    let call := marking start none
    let after := tagsAfter start (call.ended []).2.events
    Distinct start ∧ Guarded (Lists start) [] (call.ended []).2.events ∧ call.order.tag ∧
      (call.ended []).1 = .ok { exit := 0, out := "0.1.0\n" } ∧
      Version.parse? "0.1.0" = some ⟨0, 1, 0, [], []⟩ ∧ ¬HasLevel after ⟨0, 1, 0, [], []⟩ := by
  intro start call after
  have hafter : after = start := by decide +kernel
  refine ⟨distinct_singleton _, guarded_of_showsTags (by decide +kernel), rfl,
    eq_ok_of_toOption (by decide +kernel), by cbv, ?_⟩
  rintro ⟨name, hname, w, hw, _⟩
  rw [hafter] at hname
  have hnone : Version.parse? "x\u20280.1.0" = none := by cbv
  rw [List.mem_singleton.1 hname, hnone] at hw
  cases hw

end Release

end NextRelease
