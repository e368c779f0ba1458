import NextRelease.Proofs.Package.Manifest
import NextRelease.Proofs.Repository.Queries
import NextRelease.Proofs.Run.Ensuring

/-! Where the causes come from that stop a run. The record accounts for every one: it is a failure
that the program states, a command came back with it, a file could not be had or written, or a text
was at hand that cannot be read. -/

namespace NextRelease

inductive Provided (host : Host) (record : List Event) : String → Prop
  | read {lane : Lane} {path : Path} {tree : FileTree} {bytes : ByteArray} {text : String} :
      .read lane path tree ∈ record → tree.read (path.route host.cwd) = .ok bytes →
        Text.decode? bytes = some text → Provided host record text
  | printed {lane : Lane} {command : Command} {before : FileTree} {result : CommandResult} :
      .command lane command before (.ok result) ∈ record → Provided host record result.out

def FileOperation.Fails (host : Host) (files : FileTree) (fault : FileFault) :
    FileOperation → Prop
  | status path => files.status (path.route host.cwd) = .error fault ∧ fault.isAbsence = false
  | resolve path depth => files.resolve host.cwd path depth = .error fault
  | read path => files.read (path.route host.cwd) = .error fault
  | write path content => files.write (path.route host.cwd) content = .error fault
  | makeDirectory path => files.makeDirectory (path.route host.cwd) = .error fault
  | move source destination => files.moveFile source (destination.route host.cwd) = .error fault
  | makeScratch paths => Scratch.makeFirst files host.cwd paths = .error fault

def FileFault.isOfLinks : FileFault → Bool
  | linkLoop | linksTooDeep => true
  | _ => false

def Version.IsDeclared (host : Host) (lane : Lane) (record : List Event) (v : Version) : Prop :=
  ∃ path tree depth manifest, .read lane path tree ∈ record ∧
    Manifest.HeldBy manifest tree (path.route host.cwd) depth ∧ Manifest.Declares manifest (some v)

def Version.IsNamed (record : List Event) (v : Version) : Prop :=
  ∃ lane cwd before reply name,
    .command lane ⟨Repository.verifyCommand name, cwd⟩ before reply ∈ record ∧
      Version.parse? name = some v

def TellsVerdict (lane : Lane) (record : List Event) (verdict : Bool) : Prop :=
  ∃ command before result, .command lane command before (.ok result) ∈ record ∧
    result.ok = verdict

inductive Halt.From (host : Host) (stated : Failure → Prop) (depth : Nat) (record : List Event) :
    Halt → Prop
  | stated {cause : Failure} : stated cause → From host stated depth record (.failure cause)
  | reply {lane : Lane} {command : Command} {before : FileTree} {cause : Halt} :
      .command lane command before (.error cause) ∈ record → From host stated depth record cause
  | files {lane : Lane} {operation : FileOperation} {tree : FileTree} {fault : FileFault} :
      .failed lane operation tree fault ∈ record → operation.Fails host tree fault →
        fault ≠ .nullCharacter → fault.isOfLinks = false →
          From host stated depth record (.fault (.files fault))
  | nullCharacter {lane : Lane} {operation : FileOperation} {tree : FileTree} :
      .failed lane operation tree .nullCharacter ∈ record →
        operation.Fails host tree .nullCharacter →
          From host stated depth record (.fault (.files .nullCharacter))
  | links {lane : Lane} {operation : FileOperation} {tree : FileTree} {fault : FileFault} :
      .failed lane operation tree fault ∈ record → operation.Fails host tree fault →
        fault.isOfLinks → From host stated depth record (.fault (.files fault))
  | undecodable {lane : Lane} {path : Path} {tree : FileTree} {bytes : ByteArray} :
      .read lane path tree ∈ record → tree.read (path.route host.cwd) = .ok bytes →
        Text.decode? bytes = none → From host stated depth record (.fault .undecodable)
  | unreadable {text source : String} {deep : Nat} {fault : Fault} : depth ≤ deep →
      Provided host record text → Manifest.parse text source deep = .error (.fault fault) →
        From host stated depth record (.fault fault)
  | unencodable {text source version : String} {deep : Nat} {manifest : Fields} :
      Provided host record text → Manifest.parse text source deep = .ok manifest →
        (Manifest.withVersion manifest version).toString? = none →
          From host stated depth record (.fault .unencodable)
  | unprintable {base : Version} {declared : Option Version} {forwards backwards : Bool} :
      base.IsDeclared host .previous record ∨ base.IsNamed record →
        (∀ v ∈ declared, v.IsDeclared host .current record) →
          TellsVerdict .forward record forwards → TellsVerdict .backward record backwards →
            (base.next declared forwards backwards).print? = none →
              From host stated depth record (.fault (.undecided .unprintable))

variable {host : Host} {stated stated' : Failure → Prop} {depth : Nat} {record record' : List Event}

theorem Provided.mono {text : String} (h : Provided host record text) (hsub : record ⊆ record') :
    Provided host record' text := by
  cases h with
  | read hread hbytes htext => exact .read (hsub hread) hbytes htext
  | printed hprinted => exact .printed (hsub hprinted)

theorem Version.IsDeclared.mono {lane : Lane} {v : Version} (h : v.IsDeclared host lane record)
    (hsub : record ⊆ record') : v.IsDeclared host lane record' := by
  obtain ⟨path, tree, depth, manifest, hread, hheld⟩ := h
  exact ⟨path, tree, depth, manifest, hsub hread, hheld⟩

theorem Version.IsNamed.mono {v : Version} (h : v.IsNamed record) (hsub : record ⊆ record') :
    v.IsNamed record' := by
  obtain ⟨lane, cwd, before, reply, name, hasked, hname⟩ := h
  exact ⟨lane, cwd, before, reply, name, hsub hasked, hname⟩

theorem TellsVerdict.mono {lane : Lane} {verdict : Bool} (h : TellsVerdict lane record verdict)
    (hsub : record ⊆ record') : TellsVerdict lane record' verdict := by
  obtain ⟨command, before, result, hmem, hverdict⟩ := h
  exact ⟨command, before, result, hsub hmem, hverdict⟩

theorem Halt.From.mono {cause : Halt} (h : cause.From host stated depth record)
    (hstated : ∀ failure, stated failure → stated' failure) (hsub : record ⊆ record') :
    cause.From host stated' depth record' := by
  cases h with
  | stated h => exact .stated (hstated _ h)
  | reply h => exact .reply (hsub h)
  | files hfailed hfails hnull hlinks => exact .files (hsub hfailed) hfails hnull hlinks
  | nullCharacter hfailed hfails => exact .nullCharacter (hsub hfailed) hfails
  | links hfailed hfails hlinks => exact .links (hsub hfailed) hfails hlinks
  | undecodable hread hbytes htext => exact .undecodable (hsub hread) hbytes htext
  | unreadable hdepth htext hparse => exact .unreadable hdepth (htext.mono hsub) hparse
  | unencodable htext hparse hnone => exact .unencodable (htext.mono hsub) hparse hnone
  | unprintable hbase hdeclared hforwards hbackwards h =>
    exact .unprintable (hbase.imp (·.mono hsub) (·.mono hsub))
      (fun v hv => (hdeclared v hv).mono hsub) (hforwards.mono hsub) (hbackwards.mono hsub) h

theorem Halt.From.of_fails {lane : Lane} (operation : FileOperation) {tree : FileTree}
    {fault : FileFault} (hfailed : .failed lane operation tree fault ∈ record)
    (hfails : operation.Fails host tree fault) :
    (Halt.fault (.files fault)).From host stated depth record := by
  by_cases hlinks : fault.isOfLinks
  · exact .links hfailed hfails hlinks
  · by_cases hnull : fault = .nullCharacter
    · subst hnull
      exact .nullCharacter hfailed hfails
    · exact .files hfailed hfails hnull (Bool.not_eq_true _ ▸ hlinks)

theorem Halt.From.of_failure {cause : Failure}
    (h : (Halt.failure cause).From host stated depth record) :
    stated cause ∨ ∃ lane command before,
      .command lane command before (.error (.failure cause)) ∈ record := by
  cases h with
  | stated h => exact .inl h
  | reply h => exact .inr ⟨_, _, _, h⟩

namespace Script

def HaltsFrom (host : Host) (stated : Failure → Prop) (depth : Nat) {α : Type} (script : Script α) : Prop :=
  ∀ lane record cause, script.Course host lane record (.error cause) →
    cause.From host stated depth record

variable {α β : Type}

theorem haltsFrom_done (value : α) : (done value).HaltsFrom host stated depth :=
  fun _ _ _ h => nomatch h.2

theorem haltsFrom_fail {cause : Failure} (h : stated cause) :
    (fail cause : Script α).HaltsFrom host stated depth := by
  rintro lane record cause' ⟨rfl, hcause⟩
  cases hcause
  exact .stated h

theorem haltsFrom_bind_course {script : Script α} {f : α → Script β}
    (h : script.HaltsFrom host stated depth)
    (hf : ∀ lane front value rest cause, script.Course host lane front (.ok value) →
      (f value).Course host lane rest (.error cause) → cause.From host stated depth (front ++ rest)) :
    (script >>= f).HaltsFrom host stated depth := by
  intro lane record cause hcourse
  obtain ⟨front, value, rest, rfl, hfront, hrest⟩ | ⟨cause', hfront, hcause⟩ :=
    course_bind.1 hcourse
  · exact hf lane front value rest cause hfront hrest
  · cases hcause
    exact h lane record cause hfront

theorem haltsFrom_bind {script : Script α} {f : α → Script β} (h : script.HaltsFrom host stated depth)
    (hf : ∀ value, (f value).HaltsFrom host stated depth) : (script >>= f).HaltsFrom host stated depth :=
  haltsFrom_bind_course h fun lane _ value rest cause _ hrest =>
    (hf value lane rest cause hrest).mono (fun _ => id) (List.subset_append_right _ _)

theorem haltsFrom_run (argv : List String) (cwd : Path) : (run argv cwd).HaltsFrom host stated depth := by
  intro lane record cause hcourse
  obtain ⟨_, before, _, rfl⟩ := course_run.1 hcourse
  exact .reply (List.mem_singleton_self _)

theorem haltsFrom_note (level : Level) (text : String) : (note level text).HaltsFrom host stated depth :=
  fun _ _ _ h => nomatch (course_note.1 h).2

theorem haltsFrom_files {request : Request (Except FileFault α)} (operation : FileOperation)
    (h : ∀ lane w fault, (request.perform host lane w).1 = .error fault →
      .failed lane operation w.files fault ∈ request.record host lane w ∧
        operation.Fails host w.files fault) :
    (files request).HaltsFrom host stated depth := by
  rintro lane record cause ⟨w, rest, rfl, hrest⟩
  cases hanswer : (request.perform host lane w).1 with
  | ok value =>
    rw [hanswer] at hrest
    exact nomatch hrest.2
  | error fault =>
    rw [hanswer] at hrest
    cases hrest.2
    obtain ⟨hfailed, hfails⟩ := h lane w fault hanswer
    exact .of_fails operation (List.mem_append_left _ hfailed) hfails

theorem haltsFrom_resolve (path : Path) (limit : Nat) :
    (Script.resolve path limit).HaltsFrom host stated depth :=
  haltsFrom_files (.resolve path limit) fun lane w fault hanswer => by
    rw [Request.fst_perform_resolve] at hanswer
    refine ⟨List.mem_append_right _ ?_, hanswer⟩
    exact FileOperation.mem_failures.2 ⟨fault, hanswer, rfl, rfl⟩

theorem haltsFrom_read (path : Path) : (files (.read path)).HaltsFrom host stated depth :=
  haltsFrom_files (.read path) fun lane w fault hanswer => by
    rw [Request.fst_perform_read] at hanswer
    refine ⟨List.mem_append_right _ ?_, hanswer⟩
    exact FileOperation.mem_failures.2 ⟨fault, hanswer, rfl, rfl⟩

theorem haltsFrom_write (path : Path) (content : ByteArray) :
    (files (.write path content)).HaltsFrom host stated depth :=
  haltsFrom_files (.write path content) fun lane w fault hanswer => by
    have hwrite := World.eq_error_of_update hanswer
    exact ⟨List.mem_append_right _ (FileOperation.mem_failures.2 ⟨fault, hwrite, rfl, rfl⟩), hwrite⟩

theorem haltsFrom_makeDirectory (path : Path) :
    (files (.makeDirectory path)).HaltsFrom host stated depth :=
  haltsFrom_files (.makeDirectory path) fun lane w fault hanswer => by
    have hmake := World.eq_error_of_update hanswer
    exact ⟨List.mem_append_right _ (FileOperation.mem_failures.2 ⟨fault, hmake, rfl, rfl⟩), hmake⟩

theorem haltsFrom_move (source : Place) (destination : Path) :
    (files (.move source destination)).HaltsFrom host stated depth :=
  haltsFrom_files (.move source destination) fun lane w fault hanswer => by
    have hmove := World.eq_error_of_update hanswer
    exact ⟨List.mem_append_right _ (FileOperation.mem_failures.2 ⟨fault, hmove, rfl, rfl⟩), hmove⟩

theorem haltsFrom_isFile (path : Path) : (isFile path).HaltsFrom host stated depth := by
  rintro lane record cause ⟨w, rest, rfl, hrest⟩
  rw [Request.fst_perform_status] at hrest
  cases hstatus : w.files.status (path.route host.cwd) with
  | ok kind =>
    rw [hstatus] at hrest
    exact nomatch hrest.2
  | error fault =>
    simp only [hstatus] at hrest
    split at hrest
    · exact nomatch hrest.2
    · next hfound =>
      rw [Bool.not_eq_true] at hfound
      cases hrest.2
      have hfailed : .failed lane (.status path) w.files fault ∈
          (Request.status path).record host lane w :=
        List.mem_append_right _ (FileOperation.mem_failures.2 ⟨fault, hstatus, hfound, rfl⟩)
      exact .of_fails _ (List.mem_append_left _ hfailed) ⟨hstatus, hfound⟩

theorem haltsFrom_readText (path : Path) : (readText path).HaltsFrom host stated depth := by
  refine haltsFrom_bind_course (haltsFrom_read _) fun lane front bytes rest cause hfront hrest => ?_
  obtain ⟨w, rfl, hbytes⟩ := course_files hfront
  rw [Request.fst_perform_read] at hbytes
  split at hrest
  · exact nomatch hrest.2
  · next htext =>
    cases hrest.2
    exact .undecodable (List.mem_append_left _ List.mem_cons_self) hbytes htext

end Script

def Accounted (host : Host) (stated : Failure → Prop) (depth : Nat) {α : Type} (good : α → Prop) :
    Except Halt α → List Event → World → Prop
  | .ok value, _, _ => good value
  | .error cause, record, _ => cause.From host stated depth record

namespace Run

variable {α β : Type} {w : World} {good : α → Prop}

theorem accounted_lift {script : Script α} (h : script.HaltsFrom host stated depth)
    (hgood : ∀ record value, script.Course host .main record (.ok value) → good value) :
    (script : Run α).Ensures host w (Accounted host stated depth good) := by
  refine ensures_lift fun record result _ _ _ hcourse => ?_
  cases result with
  | ok value => exact hgood record value hcourse
  | error cause => exact h .main record cause hcourse

theorem accounted_bind {run : Run α} {f : α → Run β} {good' : β → Prop}
    (h : run.Ensures host w (Accounted host stated depth good))
    (hf : ∀ value v, good value → (f value).Ensures host v (Accounted host stated depth good')) :
    (run >>= f).Ensures host w (Accounted host stated depth good') := by
  refine ensures_bind (h.mono fun result front v hends => ?_)
  cases result with
  | error cause => exact hends
  | ok value =>
    unfold thenEnds
    refine (hf value v hends).mono fun result rest _ hrest => ?_
    cases result with
    | error cause => exact hrest.mono (fun _ => id) (List.subset_append_right _ _)
    | ok value => exact hrest

end Run

end NextRelease
