import NextRelease.Proofs.Decision.Halting
import NextRelease.Proofs.Decision.Survey
import NextRelease.Proofs.Version.Table

/-! The order of a decision. Nothing is cloned, installed or checked before everything that it rests
on shows in the record, on whatever way the run ends and whatever it is answered. -/

namespace NextRelease

open Script

def Returned (host : Host) (lane : Lane) {α : Type} (script : Script α) (value : α)
    (record : List Event) : Prop :=
  ∃ part, part <:+: laneRecord lane record ∧ script.Course host lane part (.ok value)

section Returned

variable {host : Host} {lane : Lane} {α : Type} {script : Script α} {value : α}
  {front record : List Event}

theorem Returned.append_left (h : Returned host lane script value record) (front : List Event) :
    Returned host lane script value (front ++ record) := by
  obtain ⟨part, hpart, hcourse⟩ := h
  exact ⟨part, hpart.trans (by simpa using (List.suffix_append _ _).isInfix), hcourse⟩

theorem Returned.append_right (h : Returned host lane script value front) (record : List Event) :
    Returned host lane script value (front ++ record) := by
  obtain ⟨part, hpart, hcourse⟩ := h
  exact ⟨part, hpart.trans (by simpa using (List.prefix_append _ _).isInfix), hcourse⟩

theorem returned_of_course (h : script.Course host lane (laneRecord lane record) (.ok value)) :
    Returned host lane script value record := ⟨_, List.infix_rfl, h⟩

end Returned

namespace Decision

variable {s : Subject} {host : Host} {w : World} {past front rest record : List Event}
  {previous current : Reference} {scratch : Path} {compatibility : Compatibility} {depth : Nat}

/-! ## What each event needs -/

def Subject.Built (s : Subject) (host : Host) (previous current : Reference) (scratch : Path)
    (record : List Event) : Prop :=
  ∃ old new,
    Returned host .previous (s.packaging.build previous Revision.previous.name scratch) old record ∧
    Returned host .current (s.packaging.build current Revision.current.name scratch) new record

def Installed (scratch : Path) (record : List Event) : Prop :=
  ∃ dialect : Dialect, Answered record ⟨dialect.commands.installProduction, scratch⟩
    fun result => result.ok

def Subject.Checked (s : Subject) (host : Host) (scratch : Path) (compatibility : Compatibility)
    (record : List Event) : Prop :=
  Returned host .forward (typeCheck s.settings.checker scratch Witness.forwardFile)
      compatibility.forwards record ∧
    Returned host .backward (typeCheck s.settings.checker scratch Witness.backwardFile)
      compatibility.backwards record

inductive Subject.Admits (s : Subject) (host : Host) (front : List Event) : Event → Prop
  | query {command : Command} {before : FileTree} {reply : Reply} :
      s.repo.Query command → Admits s host front (.command .main command before reply)
  | scratch {previous current : Reference} {path : Path} :
      s.Cleared previous current front → Admits s host front (.scratch path)
  | work {previous current : Reference} {scratch : Path} {lane : Lane} {command : Command}
      {before : FileTree} {reply : Reply} :
      s.Cleared previous current front → .scratch scratch ∈ front →
        (s.packaging.Work previous.name .previous scratch command ∨
          s.packaging.Work current.name .current scratch command) →
        Admits s host front (.command lane command before reply)
  | install {previous current : Reference} {scratch : Path} {dialect : Dialect}
      {before : FileTree} {reply : Reply} :
      s.Cleared previous current front → .scratch scratch ∈ front →
        s.Built host previous current scratch front →
        Admits s host front
          (.command .main ⟨dialect.commands.installProduction, scratch⟩ before reply)
  | check {previous current : Reference} {scratch : Path} {lane : Lane} {program : String}
      {before : FileTree} {reply : Reply} :
      s.Cleared previous current front → .scratch scratch ∈ front →
        s.Built host previous current scratch front → Installed scratch front →
        program ∈ [Witness.forwardFile, Witness.backwardFile] →
        Admits s host front
          (.command lane ⟨checkCommand s.settings.checker program, scratch⟩ before reply)
  | note {lane : Lane} {level : Level} {text : String} : Admits s host front (.note lane level text)
  | read {lane : Lane} {path : Path} {files : FileTree} : Admits s host front (.read lane path files)
  | move {lane : Lane} {source : Place} {destination : Path} :
      Admits s host front (.move lane source destination)
  | failed {lane : Lane} {operation : FileOperation} {files : FileTree} {fault : FileFault} :
      Admits s host front (.failed lane operation files fault)

theorem Subject.Built.append_right (h : s.Built host previous current scratch front)
    (record : List Event) : s.Built host previous current scratch (front ++ record) := by
  obtain ⟨old, new, hold, hnew⟩ := h
  exact ⟨old, new, hold.append_right record, hnew.append_right record⟩

theorem Installed.mono (h : Installed scratch record) {record' : List Event}
    (hsub : record ⊆ record') : Installed scratch record' := by
  obtain ⟨dialect, hanswered⟩ := h
  exact ⟨dialect, hanswered.mono hsub⟩

theorem Subject.Checked.append_right (h : s.Checked host scratch compatibility front)
    (record : List Event) : s.Checked host scratch compatibility (front ++ record) :=
  ⟨h.1.append_right record, h.2.append_right record⟩

theorem guarded_of_asks {commands : Command → Prop} (h : ∀ event ∈ record, event.Asks commands)
    (hcommands : ∀ front lane command before reply, commands command →
      .command lane command before reply ∈ record →
        s.Admits host (past ++ front) (.command lane command before reply)) :
    Guarded (s.Admits host) past record := by
  refine guarded_of_forall fun event hevent front => ?_
  have hasks := h event hevent
  cases event with
  | command lane command before reply => exact hcommands front lane command before reply hasks hevent
  | note lane level text => exact .note
  | read lane path files => exact .read
  | move lane source destination => exact .move
  | failed lane operation files fault => exact .failed
  | scratch path => exact hasks.elim

theorem guarded_of_silent {α : Type} {script : Script α} {lane : Lane} {result : Except Halt α}
    (h : script.Only (Request.Asks fun _ => False))
    (hcourse : script.Course host lane record result) : Guarded (s.Admits host) past record :=
  guarded_of_asks (hcourse.asks h) fun _ _ _ _ _ hnone => hnone.elim

/-! ## Stages -/

def IsComparing : Failure → Prop
  | .malformedManifest _ | .stage .. => True
  | _ => False

def Orderly (s : Subject) (host : Host) (depth : Nat) (past : List Event) {α : Type}
    (reaches : α → List Event → Prop) : Except Halt α → List Event → World → Prop
  | .ok value, record, _ => Guarded (s.Admits host) past record ∧ reaches value (past ++ record)
  | .error cause, record, _ => Guarded (s.Admits host) past record ∧
      cause.From host IsComparing depth (past ++ record)

section Orderly

variable {α β : Type} {reaches : α → List Event → Prop}

theorem orderly_pure {value : α} (h : reaches value past) :
    (pure value : Run α).Ensures host w (Orderly s host depth past reaches) :=
  Run.ensures_pure ⟨guarded_nil, by rwa [List.append_nil]⟩

theorem orderly_halt {cause : Halt} (h : cause.From host IsComparing depth past) :
    (Run.halt cause : Run α).Ensures host w (Orderly s host depth past reaches) :=
  Run.ensures_halt ⟨guarded_nil, by rwa [List.append_nil]⟩

theorem orderly_bind {run : Run α} {f : α → Run β} {reaches' : β → List Event → Prop}
    (h : run.Ensures host w (Orderly s host depth past reaches))
    (hf : ∀ value front v, reaches value (past ++ front) →
      (f value).Ensures host v (Orderly s host depth (past ++ front) reaches')) :
    (run >>= f).Ensures host w (Orderly s host depth past reaches') := by
  refine Run.ensures_bind (h.mono fun result front v hends => ?_)
  cases result with
  | error cause => exact hends
  | ok value =>
    unfold Run.thenEnds
    refine (hf value front v hends.2).mono fun result rest _ hrest => ?_
    cases result with
    | error cause =>
      exact ⟨guarded_append.2 ⟨hends.1, hrest.1⟩, List.append_assoc past front rest ▸ hrest.2⟩
    | ok value =>
      exact ⟨guarded_append.2 ⟨hends.1, hrest.1⟩, List.append_assoc past front rest ▸ hrest.2⟩

theorem orderly_lift {script : Script α}
    (hguarded : ∀ record result, script.Course host .main record result →
      Guarded (s.Admits host) past record)
    (hfrom : script.HaltsFrom host IsComparing depth)
    (hreaches : ∀ record value, script.Course host .main record (.ok value) →
      reaches value (past ++ record)) :
    (script : Run α).Ensures host w (Orderly s host depth past reaches) := by
  refine Run.ensures_lift fun record result _ _ _ hcourse => ?_
  cases result with
  | ok value => exact ⟨hguarded record _ hcourse, hreaches record value hcourse⟩
  | error cause =>
    exact ⟨hguarded record _ hcourse, (hfrom .main record cause hcourse).mono (fun _ => id)
      (List.subset_append_right _ _)⟩

theorem orderly_silent {script : Script α} (h : script.Only (Request.Asks fun _ => False))
    (hfrom : script.HaltsFrom host IsComparing depth) :
    (script : Run α).Ensures host w (Orderly s host depth past fun _ _ => True) :=
  orderly_lift (fun _ _ => guarded_of_silent h) hfrom fun _ _ _ => trivial

theorem orderly_both {p q : Script α} {leftLane rightLane : Lane} {left right : Command → Prop}
    {reaches : α × α → List Event → Prop} (hne : leftLane ≠ rightLane)
    (hp : p.Only (Request.Asks left)) (hq : q.Only (Request.Asks right))
    (hadmits : ∀ front lane command before reply, left command ∨ right command →
      s.Admits host (past ++ front) (.command lane command before reply))
    (hfrom : p.HaltsFrom host IsComparing depth) (hfrom' : q.HaltsFrom host IsComparing depth)
    (hreaches : ∀ record a b, p.Course host leftLane (laneRecord leftLane record) (.ok a) →
      q.Course host rightLane (laneRecord rightLane record) (.ok b) →
        reaches (a, b) (past ++ record)) :
    (Run.both leftLane rightLane p q).Ensures host w (Orderly s host depth past reaches) := by
  refine Run.ensures_both hne hp hq fun record result _ hcourse hasks => ?_
  have hguarded : Guarded (s.Admits host) past record :=
    guarded_of_asks hasks fun front lane command before reply hcommand _ =>
      hadmits front lane command before reply hcommand
  have hsub (lane : Lane) : laneRecord lane record ⊆ past ++ record :=
    fun _ hevent => List.mem_append_right _ (List.mem_filter.1 hevent).1
  cases result with
  | ok values =>
    obtain ⟨hleft, hright⟩ := hcourse.ok values.1 values.2 rfl
    exact ⟨hguarded, hreaches record _ _ hleft hright⟩
  | error cause =>
    refine ⟨hguarded, ?_⟩
    obtain h | h := hcourse.error cause rfl
    · exact (hfrom leftLane _ cause h).mono (fun _ => id) (hsub leftLane)
    · exact (hfrom' rightLane _ cause h).mono (fun _ => id) (hsub rightLane)

end Orderly

/-! ## The comparison -/

structure Subject.Ready (s : Subject) (previous current : Reference) (scratch : Path)
    (record : List Event) : Prop where
  cleared : s.Cleared previous current record
  scratch : .scratch scratch ∈ record

theorem Subject.Ready.append (h : s.Ready previous current scratch front) (record : List Event) :
    s.Ready previous current scratch (front ++ record) :=
  ⟨h.cleared.mono (List.subset_append_left _ _), List.mem_append_left _ h.scratch⟩

theorem orderly_checks (hready : s.Ready previous current scratch past)
    (hbuilt : s.Built host previous current scratch past) (hinstalled : Installed scratch past) :
    (Run.both .forward .backward (typeCheck s.settings.checker scratch Witness.forwardFile)
      (typeCheck s.settings.checker scratch Witness.backwardFile)).Ensures host w
      (Orderly s host depth past fun verdicts => s.Checked host scratch ⟨verdicts.1, verdicts.2⟩) := by
  have hasks (program : String) : (typeCheck s.settings.checker scratch program).Only
      (Request.Asks (· = ⟨checkCommand s.settings.checker program, scratch⟩)) := by
    have hlooks : (typeCheck s.settings.checker scratch program).Only
        (Request.Looks (· = ⟨checkCommand s.settings.checker program, scratch⟩)) :=
      looks_typeCheck rfl
    exact hlooks.mono fun _ => Request.Looks.asks
  refine orderly_both (by decide) (hasks _) (hasks _) ?_ (haltsFrom_typeCheck _ _ _)
    (haltsFrom_typeCheck _ _ _) fun record forwards backwards hforward hbackward =>
      ⟨(returned_of_course hforward).append_left past, (returned_of_course hbackward).append_left past⟩
  rintro front lane command before reply hcommand
  obtain ⟨hcleared, hscratch⟩ := hready.append front
  have hinstalled := hinstalled.mono (List.subset_append_left past front)
  obtain rfl | rfl := hcommand
  · exact .check hcleared hscratch (hbuilt.append_right front) hinstalled (by simp)
  · exact .check hcleared hscratch (hbuilt.append_right front) hinstalled (by simp)

theorem installed_of_course {dialect : Dialect}
    (h : (Packaging.install scratch dialect "workspace" true).Course host .main record (.ok ())) :
    Installed scratch record := by
  obtain ⟨rest, rfl, hrun⟩ := course_info_bind.1 h
  obtain ⟨result, before, last, rfl, hend⟩ := course_run_bind hrun
  split at hend
  · next hok => exact ⟨dialect, before, result, by simp, hok⟩
  · exact nomatch (course_fail.1 hend).2

theorem orderly_install {dialect : Dialect} (hready : s.Ready previous current scratch past)
    (hbuilt : s.Built host previous current scratch past) :
    (Packaging.install scratch dialect "workspace" true : Run Unit).Ensures host w
      (Orderly s host depth past fun _ => Installed scratch) := by
  have hlooks : (Packaging.install scratch dialect "workspace" true).Only
      (Request.Looks (· = ⟨dialect.commands.installProduction, scratch⟩)) :=
    Packaging.looks_install rfl
  refine orderly_lift (fun record result hcourse => ?_)
    (Packaging.haltsFrom_install (fun _ _ _ => trivial) true) fun record _ hcourse =>
      (installed_of_course hcourse).mono (List.subset_append_right _ _)
  refine guarded_of_asks (hcourse.asks (hlooks.mono fun _ => Request.Looks.asks)) ?_
  rintro front lane command before reply rfl hmem
  obtain rfl : lane = .main := by simpa [Event.isIn, Event.lane?] using hcourse.isIn _ hmem
  obtain ⟨hcleared, hscratch⟩ := hready.append front
  exact .install hcleared hscratch (hbuilt.append_right front)

theorem orderly_compare {old new : Artifact} (hready : s.Ready previous current scratch past)
    (hbuilt : s.Built host previous current scratch past) :
    (compare s scratch old new).Ensures host w (Orderly s host depth past (s.Checked host scratch)) := by
  refine orderly_bind (orderly_silent (Witness.asks_writeWorkspace _ _ _)
    (Witness.haltsFrom_writeWorkspace _ _ _)) fun _ written _ _ => ?_
  refine orderly_bind (orderly_silent ((Dialect.looks_detect _ _).mono fun _ => Request.Looks.asks)
    (Dialect.haltsFrom_detect _)) fun dialect detected _ _ => ?_
  have hready := (hready.append written).append detected
  have hbuilt := (hbuilt.append_right written).append_right detected
  refine orderly_bind (orderly_install hready hbuilt) fun _ installing _ hinstalled => ?_
  refine orderly_bind (orderly_checks (hready.append installing) (hbuilt.append_right installing)
    hinstalled) fun verdicts checks _ hchecked => ?_
  exact orderly_pure hchecked

def HasVersion (artifact : Artifact) (version : Option Version) : Prop :=
  (∀ v ∈ version, v.isPrintable) ∧ artifact.version = version.map fun v => String.ofList v.render

def Versioned (host : Host) (lane : Lane) (artifact : Artifact) (record : List Event) : Prop :=
  ∃ version, HasVersion artifact version ∧ ∀ v ∈ version, v.IsDeclared host lane record

theorem Versioned.mono {lane : Lane} {artifact : Artifact}
    (h : Versioned host lane artifact record) {record' : List Event} (hsub : record ⊆ record') :
    Versioned host lane artifact record' := by
  obtain ⟨version, hversion, hdeclared⟩ := h
  exact ⟨version, hversion, fun v hv => (hdeclared v hv).mono hsub⟩

theorem versioned_of_build {lane : Lane} {reference : Reference} {role : String}
    {artifact : Artifact}
    (h : (s.packaging.build reference role scratch).Course host lane record (.ok artifact)) :
    Versioned host lane artifact record := by
  obtain ⟨manifest, version, hpacked, hdeclares, rfl⟩ := Packaging.course_build h
  obtain ⟨path, tree, hread, hheld⟩ := hpacked.read
  replace hread := h.mem_of_mem_readsOf hread
  refine ⟨version, ⟨hdeclares.isPrintable, rfl⟩, fun v hv => ?_⟩
  exact ⟨path, tree, _, manifest, hread, hheld, Option.mem_def.1 hv ▸ hdeclares⟩

theorem orderly_builds (hdepth : depth ≤ s.packaging.depth - 1)
    (hready : s.Ready previous current scratch past) :
    (Run.both .previous .current (s.packaging.build previous Revision.previous.name scratch)
      (s.packaging.build current Revision.current.name scratch)).Ensures host w
      (Orderly s host depth past fun artifacts record =>
        s.Built host previous current scratch record ∧
          Versioned host .previous artifacts.1 record ∧
            Versioned host .current artifacts.2 record) := by
  have hasks (reference : Reference) (revision : Revision) :
      (s.packaging.build reference revision.name scratch).Only
        (Request.Asks (s.packaging.Work reference.name revision scratch)) :=
    (Packaging.only_build s.packaging reference revision scratch).mono
      fun _ => Packaging.StrandRequest.asks
  have hfrom (reference : Reference) (role : String) :
      (s.packaging.build reference role scratch).HaltsFrom host IsComparing depth :=
    Packaging.haltsFrom_build (fun _ _ _ => trivial) (fun _ => trivial) _ _ _ _ hdepth
  have hsub (lane : Lane) (record : List Event) : laneRecord lane record ⊆ past ++ record :=
    fun _ hevent => List.mem_append_right _ (List.mem_filter.1 hevent).1
  refine orderly_both (by decide) (hasks _ _) (hasks _ _) ?_ (hfrom _ _) (hfrom _ _)
    fun record old new hold hnew => ⟨⟨old, new, (returned_of_course hold).append_left past,
      (returned_of_course hnew).append_left past⟩, (versioned_of_build hold).mono (hsub _ _),
        (versioned_of_build hnew).mono (hsub _ _)⟩
  intro front lane command before reply hcommand
  obtain ⟨hcleared, hscratch⟩ := hready.append front
  exact .work hcleared hscratch hcommand

def Subject.Finished (s : Subject) (host : Host) (compatibility : Compatibility)
    (record : List Event) : Prop :=
  ∃ scratch, .scratch scratch ∈ record ∧ s.Checked host scratch compatibility record

theorem Subject.Finished.append_right (h : s.Finished host compatibility front)
    (record : List Event) : s.Finished host compatibility (front ++ record) := by
  obtain ⟨scratch, hscratch, hchecked⟩ := h
  exact ⟨scratch, List.mem_append_left _ hscratch, hchecked.append_right record⟩

theorem orderly_examine (hdepth : depth ≤ s.packaging.depth - 1)
    (hready : s.Ready previous current scratch past) :
    (examine s previous current scratch).Ensures host w
      (Orderly s host depth past fun examined record => s.Finished host examined.2.2 record ∧
        Versioned host .previous examined.1 record ∧
          Versioned host .current examined.2.1 record) := by
  refine orderly_bind (orderly_builds hdepth hready) fun artifacts built _ ⟨hbuilt, hold, hnew⟩ => ?_
  refine orderly_bind (orderly_compare (hready.append built) hbuilt)
    fun compatibility compared _ hchecked => ?_
  exact orderly_pure ⟨⟨scratch, ((hready.append built).append compared).scratch, hchecked⟩,
    hold.mono (List.subset_append_left _ _), hnew.mono (List.subset_append_left _ _)⟩

theorem orderly_withScratch {α : Type} {stem : String} {base : Option Path} {work : Path → Run α}
    {reaches : α → List Event → Prop} (hcleared : s.Cleared previous current past)
    (hwork : ∀ scratch front made, s.Ready previous current scratch (past ++ front) →
      (work scratch).Ensures host made (Orderly s host depth (past ++ front) reaches))
    (hreaches : ∀ value record rest, reaches value record → reaches value (record ++ rest)) :
    (Run.withScratch stem base work).Ensures host w (Orderly s host depth past reaches) := by
  refine Run.ensures_withScratch (fun paths fault hmakes => ⟨guarded_cons.2 ⟨.failed, guarded_nil⟩,
    .of_fails (.makeScratch paths) (List.mem_append_right past List.mem_cons_self) hmakes⟩)
    fun scratch made text _ _ => ?_
  have hready : s.Ready previous current scratch
      (past ++ [.scratch scratch, .note .main .debug text]) :=
    ⟨hcleared.mono (List.subset_append_left _ _), by simp⟩
  refine (hwork scratch _ made hready).mono fun result worked _ hends removed gone _ _ _ hremoval => ?_
  have hopening : Guarded (s.Admits host) past [.scratch scratch, .note .main .debug text] :=
    guarded_cons.2 ⟨.scratch hcleared, guarded_cons.2 ⟨.note, guarded_nil⟩⟩
  have hguarded (h : Guarded (s.Admits host) (past ++ [.scratch scratch, .note .main .debug text])
      worked) : Guarded (s.Admits host) past
        ([.scratch scratch, .note .main .debug text] ++ (worked ++ removed)) :=
    guarded_append.2 ⟨hopening, guarded_append.2
      ⟨h, guarded_of_silent (asks_removeTree scratch _ _) hremoval⟩⟩
  have hrecord : past ++ ([.scratch scratch, .note .main .debug text] ++ (worked ++ removed)) =
      past ++ [.scratch scratch, .note .main .debug text] ++ worked ++ removed := by simp
  cases result with
  | ok value => exact ⟨hguarded hends.1, hrecord ▸ hreaches value _ removed hends.2⟩
  | error cause =>
    exact ⟨hguarded hends.1,
      hrecord ▸ hends.2.mono (fun _ => id) (List.subset_append_left _ _)⟩

theorem Subject.Finished.tells (h : s.Finished host compatibility record) :
    TellsVerdict .forward record compatibility.forwards ∧
      TellsVerdict .backward record compatibility.backwards := by
  have htells {lane : Lane} {program : String} {scratch : Path} {verdict : Bool}
      (h : Returned host lane (typeCheck s.settings.checker scratch program) verdict record) :
      TellsVerdict lane record verdict := by
    obtain ⟨part, hpart, hcourse⟩ := h
    obtain ⟨text, before, result, rest, rfl, _, rfl⟩ := course_typeCheck hcourse
    have hmem := hpart.subset (List.mem_cons_of_mem _ List.mem_cons_self)
    exact ⟨_, before, result, (List.mem_filter.1 hmem).1, rfl⟩
  obtain ⟨scratch, _, hforward, hbackward⟩ := h
  exact ⟨htells hforward, htells hbackward⟩

theorem offered_of_versionOf {lane : Lane} {artifact : Artifact} {text : String}
    (hnamed : s.repo.Resolved previous record) (hversioned : Versioned host lane artifact record)
    (h : versionOf artifact.version previous = .ok text) :
    ∃ base : Version, base.isPrintable ∧ text = String.ofList base.render ∧
      (base.IsDeclared host lane record ∨ base.IsNamed record) := by
  obtain ⟨version, hversion, hdeclared⟩ := hversioned
  rw [hversion.2] at h
  obtain ⟨base, hbase, hprintable, rfl⟩ := versionOf_ok hversion.1 h
  refine ⟨base, hprintable, rfl, hbase.imp (hdeclared base) fun h => ?_⟩
  obtain ⟨before, result, hasked, _⟩ := hnamed
  exact ⟨_, _, before, _, _, hasked, h.2⟩

theorem from_decideText {old new : Artifact} {before : String} {cause : Version.Undecided}
    (hnamed : s.repo.Resolved previous past) (hfinished : s.Finished host compatibility past)
    (hold : Versioned host .previous old past) (hnew : Versioned host .current new past)
    (hbefore : versionOf old.version previous = .ok before)
    (h : Version.decideText before new.version compatibility.forwards compatibility.backwards =
      .error cause) :
    (Halt.fault (.undecided cause)).From host IsComparing depth past := by
  obtain ⟨base, hprintable, rfl, hoffered⟩ := offered_of_versionOf hnamed hold hbefore
  obtain ⟨declared, hversion, hdeclared⟩ := hnew
  rw [hversion.2, Version.decideText_eq hprintable hversion.1, Version.decideVersions_eq_error] at h
  obtain ⟨hnone, rfl⟩ := h
  exact .unprintable hoffered hdeclared hfinished.tells.1 hfinished.tells.2 hnone

theorem orderly_compute (hdepth : depth ≤ s.packaging.depth - 1)
    (hcleared : s.Cleared previous current past) :
    (compute s previous current).Ensures host w (Orderly s host depth past fun d record =>
      d.reason = .computed ∧ (∃ v, Version.parse? d.version = some v) ∧
        ∃ compatibility, d.compatibility = some compatibility ∧
          s.Finished host compatibility record) := by
  rw [compute_eq_settle]
  refine orderly_bind (orderly_withScratch hcleared (fun _ _ _ => orderly_examine hdepth) ?_) ?_
  · rintro ⟨old, new, compatibility⟩ record rest ⟨hfinished, hold, hnew⟩
    have hsub : record ⊆ record ++ rest := List.subset_append_left _ _
    exact ⟨hfinished.append_right rest, hold.mono hsub, hnew.mono hsub⟩
  rintro ⟨old, new, compatibility⟩ front v ⟨hfinished, hold, hnew⟩
  cases settle_cases previous current old new compatibility with
  | unversioned hbefore hsettle =>
    exact hsettle ▸ orderly_halt (versionOf_error (fun _ => trivial) hbefore)
  | undecided hbefore htext hsettle =>
    have hnamed := hcleared.resolvedPrevious.mono (List.subset_append_left past front)
    exact hsettle ▸ orderly_halt (from_decideText hnamed hfinished hold hnew hbefore htext)
  | decided text hbefore htext hsettle =>
    rw [hsettle]
    refine orderly_bind (orderly_silent (only_note trivial) (haltsFrom_note _ _))
      fun _ noted _ _ => ?_
    have hparses := (Version.exists_print?_of_decideText htext).imp fun _ => Version.parse?_of_print?
    exact orderly_pure ⟨rfl, hparses, compatibility, rfl, hfinished.append_right noted⟩

/-! ## The whole decision -/

def EndsEarly : Except Halt Decision → Prop
  | .ok d => d.reason ≠ .computed
  | .error (.failure (.dirtyTree _)) | .error (.failure (.invalidReference _ _))
  | .error (.failure .detachedHead) | .error (.failure (.unreachable _ _)) => True
  | .error _ => False

def CameBack (result : Except Halt Decision) (record : List Event) : Prop :=
  ∃ cause lane command before, result = .error cause ∧
    .command lane command before (.error cause) ∈ record

theorem cameBack_of_endsEarly {cause : Halt} (h : cause.From host IsComparing depth record)
    (hearly : EndsEarly (.error cause)) : CameBack (.error cause) record := by
  cases cause with
  | failure failure =>
    obtain hstated | ⟨lane, command, before, hmem⟩ := h.of_failure
    · cases failure <;> first | exact hstated.elim | exact hearly.elim
    · exact ⟨_, lane, command, before, rfl, hmem⟩
  | fault fault => exact hearly.elim
  | interrupted => exact hearly.elim

theorem guarded_of_survey {result : Except Halt (Decision ⊕ Reference × Reference)}
    (h : (survey s).Course host .main record result) : Guarded (s.Admits host) [] record := by
  refine guarded_of_asks (h.asks ((looks_survey s).mono fun _ => Request.Looks.asks)) ?_
  intro front lane command before reply hquery hmem
  obtain rfl : lane = .main := by simpa [Event.isIn, Event.lane?] using h.isIn _ hmem
  exact .query hquery

/-- How a run ends that has gone through the stages in their order. -/
structure Gated (s : Subject) (host : Host) (result : Except Halt Decision) (record : List Event) :
    Prop where
  guarded : Guarded (s.Admits host) [] record
  computed : ∀ d, result = .ok d → d.reason = .computed →
    ∃ compatibility, d.compatibility = some compatibility ∧ s.Finished host compatibility record
  early : EndsEarly result →
    (∀ event ∈ record, event.Asks s.repo.Query) ∨ CameBack result record

theorem ensures_gated (s : Subject) (host : Host) (w : World) :
    (decide s).Ensures host w fun result record _ => Gated s host result record := by
  rw [decide_eq_survey]
  refine Run.ensures_bind (Run.ensures_lift fun record result _ _ _ hcourse => ?_)
  have hguarded := guarded_of_survey hcourse
  have hasks := hcourse.asks ((looks_survey s).mono fun _ => Request.Looks.asks)
  match result with
  | .error cause =>
    exact ⟨hguarded, fun _ hresult => (nomatch hresult), fun _ => .inl hasks⟩
  | .ok (.inl d) =>
    unfold Run.thenEnds conclude
    refine Run.ensures_pure ?_
    rw [List.append_nil]
    refine ⟨hguarded, ?_, fun _ => .inl hasks⟩
    rintro _ ⟨⟩ hreason
    exact absurd hreason (reason_of_survey hcourse)
  | .ok (.inr (previous, current)) =>
    unfold Run.thenEnds conclude
    refine (orderly_compute le_rfl (cleared_of_survey hcourse)).mono fun result rest _ hends => ?_
    match result with
    | .ok d =>
      obtain ⟨hrest, hreason, _, hfinished⟩ := hends
      refine ⟨guarded_append.2 ⟨hguarded, hrest⟩, ?_, fun hearly => absurd hreason hearly⟩
      rintro _ ⟨⟩ _
      exact hfinished
    | .error cause =>
      exact ⟨guarded_append.2 ⟨hguarded, hends.1⟩, fun _ hresult => (nomatch hresult),
        fun hearly => .inr (cameBack_of_endsEarly hends.2 hearly)⟩

/-- Every command of a decision and its scratch directory come only after what they rest on, a
computed decision only after both checks; and a run that is over before that has asked the
repository and nobody else, unless a command itself came back with what stopped it. -/
theorem gated_of_decide (s : Subject) (host : Host) (w : World) :
    ∃ record, (decide s host w).2.events = w.events ++ record ∧
      Gated s host (decide s host w).1 record := ensures_gated s host w

end Decision

end NextRelease
