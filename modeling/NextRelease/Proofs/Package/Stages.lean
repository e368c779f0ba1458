import NextRelease.Proofs.Command.Explaining
import NextRelease.Proofs.Package.Requests
import NextRelease.Proofs.Package.Rewriting

/-! The phases in which a revision is packed. Each runs one command, and only where all earlier ones came
back well; what is done between two commands looks at files and changes none. -/

namespace NextRelease

open FileTree Script

def attempt (text : String) (command : Command) (failure : CommandResult → Failure) :
    Script CommandResult := do
  info text
  let result ← run command.argv command.cwd
  if result.ok then return result else Script.fail (failure result)

def verdict (failure : CommandResult → Failure) : Reply → Except Halt CommandResult
  | .ok result => if result.ok then .ok result else .error (.failure (failure result))
  | .error cause => .error cause

theorem verdict_eq_ok {failure : CommandResult → Failure} {reply : Reply} {result : CommandResult} :
    verdict failure reply = .ok result ↔ reply = .ok result ∧ result.ok := by
  cases reply with
  | error cause => simp [verdict]
  | ok other =>
    by_cases hok : other.ok
    · simp only [verdict, if_pos hok, Except.ok.injEq]
      exact ⟨by rintro rfl; exact ⟨rfl, hok⟩, And.left⟩
    · simp only [verdict, if_neg hok, Except.ok.injEq, reduceCtorEq, false_iff]
      rintro ⟨rfl, h⟩
      exact hok h

theorem attempt_bind {α : Type} (text : String) (command : Command)
    (failure : CommandResult → Failure) (f : CommandResult → Script α) :
    attempt text command failure >>= f = (do
      info text
      let result ← run command.argv command.cwd
      if result.ok then f result else Script.fail (failure result)) := by
  unfold attempt
  rw [bind_assoc]
  congr 1
  funext _
  rw [bind_assoc]
  congr 1
  funext result
  split <;> rfl

theorem exec_attempt (host : Host) (lane : Lane) (text : String) (command : Command)
    (failure : CommandResult → Failure) (w : World) :
    ∃ reply after, host.runner.respond (w.events ++ [.note lane .info text]) w.files command =
        (reply, after) ∧
      (attempt text command failure).exec host lane w = (verdict failure reply,
        ⟨after, w.events ++ [.note lane .info text, .command lane command w.files reply]⟩) := by
  refine ⟨_, _, rfl, ?_⟩
  unfold attempt
  rw [exec_bind]
  simp only [info, note, exec, Request.perform, World.record]
  rw [exec_bind, exec_run]
  simp only [Request.perform, World.record, List.append_assoc, List.singleton_append]
  cases (host.runner.respond (w.events ++ [.note lane .info text]) w.files command).1 with
  | error cause => rfl
  | ok result =>
    simp only [verdict]
    split <;> rfl

/-! ## The phases -/

namespace Packaging

inductive Phase where
  | clone
  | rename
  | install
  | build
  | pack
  deriving DecidableEq

/-- A command that was run in a phase, with the files before and after it. -/
structure Attempt where
  phase : Phase
  before : FileTree
  reply : Reply
  after : FileTree

def Attempt.Exited (attempt : Attempt) : Prop := ∃ result, attempt.reply = .ok result ∧ result.ok

def filesAfter (start : FileTree) (attempts : List Attempt) : FileTree :=
  (attempts.getLast?.map (·.after)).getD start

@[simp] theorem filesAfter_concat (start : FileTree) (attempts : List Attempt) (attempt : Attempt) :
    filesAfter start (attempts ++ [attempt]) = attempt.after := by
  simp [filesAfter]

theorem eq_of_mem_getLast?_concat {attempts : List Attempt} {attempt last : Attempt}
    (h : last ∈ (attempts ++ [attempt]).getLast?) : attempt = last :=
  Option.some.inj (List.getLast?_concat.symm.trans h)

/-- What is packed: a reference as a revision, below a scratch directory. -/
structure Job where
  packaging : Packaging
  reference : Reference
  revision : Revision
  scratch : Path

namespace Job

variable (job : Job) (host : Host)

def clone : Path := job.scratch.child job.revision.name

def directory : Path := job.packaging.packageDirectory job.clone

def manifest : Path := job.directory.child Manifest.fileName

def archive : Path := archivePath job.scratch job.revision.name

def script : Script Artifact := job.packaging.build job.reference job.revision.name job.scratch

def command (dialect : Dialect) : Phase → Command
  | .clone => ⟨job.packaging.repo.cloneCommand job.reference.name job.clone, job.clone.parent⟩
  | .rename =>
    ⟨dialect.commands.rename ++ ["name=" ++ packageName job.revision.name], job.directory⟩
  | .install => ⟨dialect.commands.install, job.directory⟩
  | .build => ⟨dialect.commands.build, job.directory⟩
  | .pack => ⟨dialect.commands.pack, job.directory⟩

def failure (phase : Phase) (result : CommandResult) : Failure :=
  match phase with
  | .clone => .stage .clone job.reference.name result.detail
  | .rename => .stage .install job.reference.name ("rename: " ++ result.detail)
  | .install => .stage .install job.reference.name result.detail
  | .build => .stage .build job.reference.name result.detail
  | .pack => .stage .pack job.reference.name result.detail

theorem isOneLine_failure (hname : Text.Unbroken job.reference.name) (phase : Phase)
    (result : CommandResult) : Text.IsOneLine (job.failure phase result).message := by
  have hdetail := result.isOneLine_detail
  have hrename : Text.IsOneLine ("rename: " ++ result.detail) := hdetail.prepend (by decide)
  cases phase with
  | rename => exact Failure.isOneLine_message_stage hname hrename .install
  | clone => exact Failure.isOneLine_message_stage hname hdetail .clone
  | install => exact Failure.isOneLine_message_stage hname hdetail .install
  | build => exact Failure.isOneLine_message_stage hname hdetail .build
  | pack => exact Failure.isOneLine_message_stage hname hdetail .pack

/-- The package manager: the one that was found right after the clone was made. -/
def dialect : List Attempt → Dialect
  | [] => .npm
  | cloned :: _ => .foundIn host cloned.after job.directory

theorem dialect_append {attempts : List Attempt} (h : attempts ≠ []) (rest : List Attempt) :
    job.dialect host (attempts ++ rest) = job.dialect host attempts := by
  cases attempts with
  | nil => exact absurd rfl h
  | cons cloned attempts => rfl

def asked (attempts : List Attempt) : List (Command × Reply) :=
  attempts.map fun attempt => (job.command (job.dialect host attempts) attempt.phase, attempt.reply)

theorem asked_concat (attempts : List Attempt) (attempt : Attempt) :
    job.asked host (attempts ++ [attempt]) = job.asked host attempts ++
      [(job.command (job.dialect host (attempts ++ [attempt])) attempt.phase, attempt.reply)] := by
  cases attempts with
  | nil => rfl
  | cons cloned attempts => simp [asked, dialect]

inductive Ready : List Attempt → Phase → Prop
  | clone : Ready [] .clone
  | rename {cloned : Attempt} {manifest : Fields} :
      Manifest.HeldBy manifest cloned.after (job.manifest.route host.cwd) job.packaging.depth →
        Ready [cloned] .rename
  | install {cloned renamed : Attempt} : Ready [cloned, renamed] .install
  | build {cloned renamed installed : Attempt} {manifest : Fields} :
      Manifest.HeldBy manifest installed.after (job.manifest.route host.cwd)
          (job.packaging.depth - 1) →
        Manifest.IsScripted manifest (Text.ofString "build") →
          Ready [cloned, renamed, installed] .build
  | unbuilt {cloned renamed installed : Attempt} {manifest : Fields} :
      Manifest.HeldBy manifest installed.after (job.manifest.route host.cwd)
          (job.packaging.depth - 1) →
        ¬Manifest.IsScripted manifest (Text.ofString "build") →
          Ready [cloned, renamed, installed] .pack
  | pack {cloned renamed installed built : Attempt} : built.phase = .build →
      Ready [cloned, renamed, installed, built] .pack

theorem Ready.command_eq {job : Job} {host : Host} {attempts : List Attempt} {phase : Phase}
    {dialect : Dialect} (h : job.Ready host attempts phase)
    (hdialect : attempts ≠ [] → dialect = job.dialect host attempts) (attempt : Attempt) :
    job.command dialect phase =
      job.command (job.dialect host (attempts ++ [attempt])) phase := by
  cases h with
  | clone =>
    rfl
  | _ =>
    rw [hdialect (List.cons_ne_nil _ _)]
    rfl

inductive Attempts (start : FileTree) : List Attempt → Prop
  | none : Attempts start []
  | next {attempts : List Attempt} {attempt : Attempt} {events : List Event} :
      Attempts start attempts → (∀ earlier ∈ attempts, earlier.Exited) →
        job.Ready host attempts attempt.phase → attempt.before = filesAfter start attempts →
          host.runner.respond events attempt.before
              (job.command (job.dialect host (attempts ++ [attempt])) attempt.phase) =
            (attempt.reply, attempt.after) →
          Attempts start (attempts ++ [attempt])

/-! ## What holds of all attempts -/

namespace Attempts

variable {job host} {start : FileTree} {attempts : List Attempt}

theorem dropLast (h : job.Attempts host start attempts) :
    ∀ attempt ∈ attempts.dropLast, attempt.Exited := by
  cases h with
  | none => simp
  | next _ hexited => simpa using hexited

theorem order (h : job.Attempts host start attempts) :
    attempts.map (·.phase) <+: [.clone, .rename, .install, .build, .pack] ∨
      attempts.map (·.phase) <+: [.clone, .rename, .install, .pack] := by
  induction h with
  | none => exact .inl List.nil_prefix
  | next _ _ hready _ _ ih =>
    rw [List.map_append]
    generalize hphase : Attempt.phase _ = phase at hready
    cases hready <;> simp_all

theorem chained (h : job.Attempts host start attempts) :
    attempts.IsChain (fun earlier later => later.before = earlier.after) ∧
      ∀ first ∈ attempts.head?, first.before = start := by
  induction h with
  | none => simp
  | @next attempts attempt _ _ _ _ hbefore _ ih =>
    refine ⟨List.isChain_append.2 ⟨ih.1, .singleton _, fun last hlast next hnext => ?_⟩,
      fun first hfirst => ?_⟩
    · obtain rfl : attempt = next := Option.some.inj hnext
      rw [hbefore, filesAfter, Option.mem_def.1 hlast]
      rfl
    · cases attempts with
      | nil =>
        cases hfirst
        exact hbefore
      | cons cloned attempts => exact ih.2 first hfirst

theorem replied (h : job.Attempts host start attempts) :
    ∀ attempt ∈ attempts, ∃ events, host.runner.respond events attempt.before
      (job.command (job.dialect host attempts) attempt.phase) = (attempt.reply, attempt.after) := by
  induction h with
  | none => simp
  | @next attempts attempt events _ _ _ _ hrespond ih =>
    intro other hother
    rcases List.mem_append.1 hother with hearlier | hlast
    · rw [job.dialect_append host (List.ne_nil_of_mem hearlier)]
      exact ih other hearlier
    · rw [List.mem_singleton.1 hlast]
      exact ⟨events, hrespond⟩

theorem building (h : job.Attempts host start attempts)
    {cloned renamed installed next : Attempt} {rest : List Attempt}
    (hattempts : attempts = cloned :: renamed :: installed :: next :: rest) :
    ∃ manifest, Manifest.HeldBy manifest installed.after (job.manifest.route host.cwd)
        (job.packaging.depth - 1) ∧
      (next.phase = .build ∧ Manifest.IsScripted manifest (Text.ofString "build") ∨
        next.phase = .pack ∧ ¬Manifest.IsScripted manifest (Text.ofString "build")) := by
  induction h generalizing rest with
  | none => cases hattempts
  | next _ _ hready _ _ ih =>
    generalize hphase : Attempt.phase _ = phase at hready
    cases hready with
    | build hheld hscript =>
      cases hattempts
      exact ⟨_, hheld, .inl ⟨hphase, hscript⟩⟩
    | unbuilt hheld hscript =>
      cases hattempts
      exact ⟨_, hheld, .inr ⟨hphase, hscript⟩⟩
    | pack =>
      cases hattempts
      exact ih rfl
    | _ => cases hattempts

theorem reading (h : job.Attempts host start attempts) {cloned next : Attempt} {rest : List Attempt}
    (hattempts : attempts = cloned :: next :: rest) :
    ∃ manifest, Manifest.HeldBy manifest cloned.after (job.manifest.route host.cwd)
      job.packaging.depth := by
  induction h generalizing rest with
  | none => cases hattempts
  | next _ _ hready _ _ ih =>
    generalize hphase : Attempt.phase _ = phase at hready
    cases hready with
    | clone => cases hattempts
    | rename hheld =>
      cases hattempts
      exact ⟨_, hheld⟩
    | _ =>
      cases hattempts
      exact ih rfl

end Attempts

/-! ## The script phase by phase -/

def enter (dialect : Dialect) (phase : Phase) (text : String) : Script CommandResult :=
  attempt text (job.command dialect phase) (job.failure phase)

theorem enter_bind {α : Type} (dialect : Dialect) (phase : Phase) (text : String)
    (f : CommandResult → Script α) :
    job.enter dialect phase text >>= f = (do
      info text
      let result ← run (job.command dialect phase).argv (job.command dialect phase).cwd
      if result.ok then f result else Script.fail (job.failure phase result)) :=
  attempt_bind ..

end Job

def deliver (directory destination : Path) (dialect : Dialect) (reference : String) (depth : Nat)
    (result : CommandResult) : Script Path := do
  let filename := dialect.commands.packFilename.getD result.lastLine
  if filename = "" then
    Script.fail (.stage .pack reference "package manager did not report an archive name")
  else
    let packed ← Script.resolve (directory.child filename) depth
    if ← Script.isFile (.ofPlace packed) then
      Script.files (.move packed destination)
      Script.info ("Packed " ++ reference ++ " into " ++ toString destination)
      return destination
    else
      Script.fail (.stage .pack reference
        ("archive " ++ toString (Path.ofPlace packed) ++ " not found"))

namespace Job

variable (job : Job)

def report (archive : Path) : Script Artifact := do
  let manifest ← Manifest.load job.manifest job.packaging.depth
  match Manifest.declaredVersion manifest (Manifest.fileName ++ " at " ++ job.reference.name) with
  | .error cause => Script.fail cause
  | .ok version =>
    return {
      role := job.revision.name
      reference := job.reference
      entryPoints := Manifest.entryPoints manifest
      version
      archive }

def finish (dialect : Dialect) (result : CommandResult) : Script Artifact := do
  let archive ←
    deliver job.directory job.archive dialect job.reference.name job.packaging.depth result
  job.report archive

def work : Script Artifact := do
  job.packaging.repo.clone job.reference.name job.clone
  let _ ← Manifest.load job.manifest job.packaging.depth
  let dialect ← Dialect.detect job.directory
  Script.info ("Using " ++ dialect.name ++ " for " ++ job.reference.name)
  rename job.directory (packageName job.revision.name) dialect job.reference.name
  install job.directory dialect job.reference.name false
  runBuild job.directory dialect job.reference.name (job.packaging.depth - 1)
  let archive ← pack job.directory job.archive dialect job.reference.name job.packaging.depth
  job.report archive

theorem script_eq : job.script = (do
    Script.files (.makeDirectory job.clone)
    job.work) := rfl

variable (dialect : Dialect)

theorem clone_eq : ∃ text text', job.packaging.repo.clone job.reference.name job.clone = (do
    let _ ← job.enter dialect .clone text
    Script.info text') := by
  simp only [enter_bind]
  exact ⟨_, _, rfl⟩

theorem rename_eq : ∃ text,
    rename job.directory (packageName job.revision.name) dialect job.reference.name = (do
      let _ ← job.enter dialect .rename text
      return ()) := by
  simp only [enter_bind]
  exact ⟨_, rfl⟩

theorem install_eq : ∃ text text',
    install job.directory dialect job.reference.name false = (do
      let _ ← job.enter dialect .install text
      Script.info text') := by
  simp only [enter_bind]
  exact ⟨_, _, rfl⟩

theorem runBuild_eq (depth : Nat) : ∃ text text' text'',
    runBuild job.directory dialect job.reference.name depth = (do
      let manifest ← Manifest.load job.manifest depth
      if Manifest.hasScript manifest (Text.ofString "build") then
        let _ ← job.enter dialect .build text
        Script.info text'
      else Script.info text'') := by
  simp only [enter_bind]
  exact ⟨_, _, _, rfl⟩

theorem pack_eq : ∃ text,
    pack job.directory job.archive dialect job.reference.name job.packaging.depth = (do
      let result ← job.enter dialect .pack text
      deliver job.directory job.archive dialect job.reference.name job.packaging.depth result) := by
  simp only [enter_bind]
  refine ⟨"Packing package in " ++ toString job.directory, ?_⟩
  unfold pack
  congr 1
  funext _
  congr 1
  funext result
  cases result.ok <;> rfl

/-! ## The script as attempts -/

variable (host : Host) (lane : Lane) (begun start : FileTree)

inductive Stalls : List Attempt → Prop
  | unmade {fault : FileFault} :
      begun.makeDirectory (job.clone.route host.cwd) = .error fault → Stalls []
  | unread {cloned : Attempt} :
      (∀ manifest, ¬Manifest.HeldBy manifest cloned.after (job.manifest.route host.cwd)
        job.packaging.depth) → Stalls [cloned]
  | undetected {cloned : Attempt} {marker : String × Dialect} {fault : FileFault} :
      marker ∈ Dialect.lockFiles →
        cloned.after.status ((job.directory.child marker.1).route host.cwd) = .error fault →
          fault.isAbsence = false → Stalls [cloned]
  | unscripted {cloned renamed installed : Attempt} :
      (∀ manifest, ¬Manifest.HeldBy manifest installed.after (job.manifest.route host.cwd)
        (job.packaging.depth - 1)) → Stalls [cloned, renamed, installed]

theorem Stalls.ne_pack {job : Job} {host : Host} {begun start : FileTree} {attempts : List Attempt}
    (h : job.Stalls host begun attempts) (htried : job.Attempts host start attempts) :
    ∀ attempt ∈ attempts, attempt.phase ≠ .pack := by
  have horder := htried.order
  cases h <;> simp_all

inductive Ends : List Attempt → Except Halt Artifact × World → Prop
  | stopped {attempts : List Attempt} {cause : Halt} {w : World} :
      job.Attempts host start attempts → (∀ attempt ∈ attempts, attempt.Exited) →
        job.Stalls host begun attempts → Ends attempts (.error cause, w)
  | failed {attempts : List Attempt} {attempt : Attempt} {cause : Halt} {w : World} :
      job.Attempts host start (attempts ++ [attempt]) →
        verdict (job.failure attempt.phase) attempt.reply = .error cause →
          Ends (attempts ++ [attempt]) (.error cause, w)
  | packed {attempts : List Attempt} {attempt : Attempt} {result : CommandResult} {w : World} :
      job.Attempts host start (attempts ++ [attempt]) → attempt.phase = .pack →
        attempt.reply = .ok result → result.ok → w.files = attempt.after →
          Ends (attempts ++ [attempt])
            ((job.finish (job.dialect host (attempts ++ [attempt])) result).exec host lane w)

def Concludes (start : FileTree) (begun : World) (ending : Except Halt Artifact × World) : Prop :=
  ∃ attempts record, ending.2.events = begun.events ++ record ∧
    commandsOf record = job.asked host attempts ∧
      job.Ends host lane begun.files start attempts ending

structure Standing (start : FileTree) (begun : World) (attempts : List Attempt) (w : World) : Prop where
  tried : job.Attempts host start attempts
  exited : ∀ attempt ∈ attempts, attempt.Exited
  files : w.files = filesAfter start attempts
  recorded : ∃ record, w.events = begun.events ++ record ∧ commandsOf record = job.asked host attempts

section

variable {job host lane start} {begun w : World} {attempts : List Attempt} {α : Type}

theorem Standing.look {script : Script α} {next : α → Script Artifact}
    (h : job.Standing host start begun attempts w)
    (hlooks : script.Only (Request.Looks fun _ => False))
    (hstalls : ∀ cause w', script.exec host lane w = (.error cause, w') →
      job.Stalls host begun.files attempts)
    (hnext : ∀ value w', script.exec host lane w = (.ok value, w') →
      job.Standing host start begun attempts w' →
        job.Concludes host lane start begun ((next value).exec host lane w')) :
    job.Concludes host lane start begun ((script >>= next).exec host lane w) := by
  obtain ⟨record, hevents, hcommands⟩ := h.recorded
  obtain ⟨rest, hrest, hnone⟩ := (hlooks.mono fun _ => Request.Looks.asks).commandsOf_exec host lane w
  have hfiles := hlooks.files_exec host lane w
  rw [exec_bind]
  cases hexec : script.exec host lane w with
  | mk outcome w' =>
    rw [hexec] at hrest hfiles
    have hevents' : w'.events = begun.events ++ (record ++ rest) := by
      rw [hrest, hevents, List.append_assoc]
    have hcommands' : commandsOf (record ++ rest) = job.asked host attempts := by
      rw [commandsOf_append, hcommands, hnone, List.append_nil]
    cases outcome with
    | error cause =>
      exact ⟨attempts, _, hevents', hcommands',
        .stopped h.tried h.exited (hstalls cause w' hexec)⟩
    | ok value =>
      exact hnext value w' hexec ⟨h.tried, h.exited, hfiles.trans h.files, _, hevents', hcommands'⟩

theorem Standing.files_concat {attempt : Attempt}
    (h : job.Standing host start begun (attempts ++ [attempt]) w) : w.files = attempt.after :=
  h.files.trans (filesAfter_concat start attempts attempt)

theorem Standing.tell {text : String} {next : Unit → Script Artifact}
    (h : job.Standing host start begun attempts w)
    (hnext : ∀ w', job.Standing host start begun attempts w' →
      job.Concludes host lane start begun ((next ()).exec host lane w')) :
    job.Concludes host lane start begun ((info text >>= next).exec host lane w) :=
  h.look (looks_info _ text) (fun _ _ hexec => nomatch hexec) fun _ w' _ => hnext w'

theorem Standing.load {attempt : Attempt} {depth : Nat} {next : Fields → Script Artifact}
    (h : job.Standing host start begun (attempts ++ [attempt]) w)
    (hstalls : (∀ manifest,
      ¬Manifest.HeldBy manifest attempt.after (job.manifest.route host.cwd) depth) →
        job.Stalls host begun.files (attempts ++ [attempt]))
    (hnext : ∀ manifest w',
      Manifest.HeldBy manifest attempt.after (job.manifest.route host.cwd) depth →
        job.Standing host start begun (attempts ++ [attempt]) w' →
          job.Concludes host lane start begun ((next manifest).exec host lane w')) :
    job.Concludes host lane start begun
      ((Manifest.load job.manifest depth >>= next).exec host lane w) := by
  refine h.look (Manifest.looks_load _ _ _) (fun cause w' hload => hstalls fun manifest hheld => ?_)
    fun manifest w' hload h' => hnext manifest w' (h.files_concat ▸ (Manifest.exec_load hload).1) h'
  rw [← h.files_concat] at hheld
  cases hheld.exec_load.symm.trans hload

theorem Standing.detect {cloned : Attempt} {next : Dialect → Script Artifact}
    (h : job.Standing host start begun [cloned] w)
    (hnext : ∀ w', job.Standing host start begun [cloned] w' →
      job.Concludes host lane start begun ((next (job.dialect host [cloned])).exec host lane w')) :
    job.Concludes host lane start begun
      ((Dialect.detect job.directory >>= next).exec host lane w) := by
  have hfiles : w.files = cloned.after := h.files
  refine h.look (Dialect.looks_detect _ _) (fun cause w' hdetect => ?_) fun dialect w' hdetect => ?_
  · obtain ⟨marker, hmarker, fault, hstatus, habsent⟩ := Dialect.status_of_detect hdetect
    exact .undetected hmarker (hfiles ▸ hstatus) habsent
  · obtain rfl : dialect = job.dialect host [cloned] := by
      rw [Dialect.foundIn_of_detect hdetect, hfiles]
      rfl
    exact hnext w'

theorem Standing.enter {dialect : Dialect} {phase : Phase} {text : String}
    {next : CommandResult → Script Artifact} (h : job.Standing host start begun attempts w)
    (hready : job.Ready host attempts phase)
    (hdialect : attempts ≠ [] → dialect = job.dialect host attempts)
    (hnext : ∀ (attempt : Attempt) (result : CommandResult) w', attempt.phase = phase →
      attempt.reply = .ok result → result.ok →
        job.Standing host start begun (attempts ++ [attempt]) w' →
          job.Concludes host lane start begun ((next result).exec host lane w')) :
    job.Concludes host lane start begun
      ((job.enter dialect phase text >>= next).exec host lane w) := by
  obtain ⟨record, hevents, hcommands⟩ := h.recorded
  obtain ⟨reply, after, hrespond, hexec⟩ :=
    exec_attempt host lane text (job.command dialect phase) (job.failure phase) w
  let attempt : Attempt := ⟨phase, w.files, reply, after⟩
  have hcommand := hready.command_eq hdialect attempt
  have hattempts : job.Attempts host start (attempts ++ [attempt]) :=
    .next h.tried h.exited hready h.files (hcommand ▸ hrespond)
  have hevents' (rest : List Event) : w.events ++ rest = begun.events ++ (record ++ rest) := by
    rw [hevents, List.append_assoc]
  have hasked : commandsOf (record ++ [.note lane .info text,
      .command lane (job.command dialect phase) w.files reply]) =
        job.asked host (attempts ++ [attempt]) := by
    rw [commandsOf_append, hcommands, asked_concat, hcommand]
    rfl
  rw [exec_bind, Job.enter, hexec]
  cases hverdict : verdict (job.failure phase) reply with
  | error cause => exact ⟨_, _, hevents' _, hasked, .failed hattempts hverdict⟩
  | ok result =>
    obtain ⟨rfl, hok⟩ := verdict_eq_ok.1 hverdict
    have hexited : ∀ other ∈ attempts ++ [attempt], other.Exited :=
      List.forall_mem_append.2 ⟨h.exited, List.forall_mem_singleton.2 ⟨result, rfl, hok⟩⟩
    have hfiles : after = filesAfter start (attempts ++ [attempt]) := by rw [filesAfter_concat]
    exact hnext attempt result _ rfl rfl hok ⟨hattempts, hexited, hfiles, _, hevents' _, hasked⟩

theorem looks_report {archive : Path} :
    (job.report archive).Only (Request.Looks fun _ => False) := by
  refine only_bind (Manifest.looks_load _ _ _) fun manifest => ?_
  split <;> trivial

theorem asks_finish (dialect : Dialect) (result : CommandResult) :
    (job.finish dialect result).Only (Request.Asks fun _ => False) := by
  refine only_bind ?_ fun _ => looks_report.mono fun _ => Request.Looks.asks
  unfold deliver
  dsimp only
  split
  · trivial
  · refine only_bind (only_files trivial) fun packed => only_bind (only_isFile trivial) fun found => ?_
    split
    · exact only_bind (only_files trivial) fun _ => only_bind (only_note trivial) fun _ => trivial
    · trivial

theorem Standing.finish {attempt : Attempt} {dialect : Dialect} {result : CommandResult}
    (h : job.Standing host start begun (attempts ++ [attempt]) w) (hphase : attempt.phase = .pack)
    (hreply : attempt.reply = .ok result) (hok : result.ok)
    (hdialect : dialect = job.dialect host (attempts ++ [attempt])) :
    job.Concludes host lane start begun ((job.finish dialect result).exec host lane w) := by
  subst hdialect
  obtain ⟨record, hevents, hcommands⟩ := h.recorded
  obtain ⟨rest, hrest, hnone⟩ := (asks_finish _ result).commandsOf_exec host lane w
  refine ⟨attempts ++ [attempt], record ++ rest, ?_, ?_, .packed h.tried hphase hreply hok
    h.files_concat⟩
  · rw [hrest, hevents, List.append_assoc]
  · rw [commandsOf_append, hcommands, hnone, List.append_nil]

theorem concludes_work (h : job.Standing host start begun [] w) :
    job.Concludes host lane start begun (job.work.exec host lane w) := by
  unfold work
  obtain ⟨_, _, hclone⟩ := job.clone_eq .npm
  rw [hclone, Script.bind_assoc]
  refine h.enter .clone (absurd rfl) fun cloned _ w _ _ _ h => ?_
  refine h.tell fun w h => h.load .unread fun _ w hheld h => h.detect fun w h => h.tell fun w h => ?_
  obtain ⟨_, hrename⟩ := job.rename_eq (job.dialect host [cloned])
  rw [hrename, Script.bind_assoc]
  refine h.enter (.rename hheld) (fun _ => rfl) fun renamed _ w _ _ _ h => ?_
  obtain ⟨_, _, hinstall⟩ := job.install_eq (job.dialect host [cloned])
  rw [Script.pure_eq, done_bind, hinstall, Script.bind_assoc]
  refine h.enter .install (fun _ => rfl) fun installed _ w _ _ _ h => h.tell fun w h => ?_
  obtain ⟨_, _, _, hbuild⟩ := job.runBuild_eq (job.dialect host [cloned]) (job.packaging.depth - 1)
  obtain ⟨_, hpack⟩ := job.pack_eq (job.dialect host [cloned])
  rw [hbuild, hpack, Script.bind_assoc]
  refine h.load .unscripted fun manifest w hheld h => ?_
  by_cases hscript : Manifest.hasScript manifest (Text.ofString "build")
  · rw [if_pos hscript, Script.bind_assoc]
    refine h.enter (.build hheld (Manifest.hasScript_iff.1 hscript)) (fun _ => rfl)
      fun built _ w hbuilt _ _ h => h.tell fun w h => ?_
    rw [Script.bind_assoc]
    exact h.enter (.pack hbuilt) (fun _ => rfl) fun packed result w hpacked hreply hok h =>
      h.finish hpacked hreply hok rfl
  · rw [if_neg hscript]
    refine h.tell fun w h => ?_
    rw [Script.bind_assoc]
    exact h.enter (.unbuilt hheld (mt Manifest.hasScript_iff.2 hscript)) (fun _ => rfl)
      fun packed result w hpacked hreply hok h => h.finish hpacked hreply hok rfl

end

theorem ends_script (job : Job) (host : Host) (lane : Lane) (w : World) :
    ∃ start attempts record,
      (attempts = [] ∧ start = w.files ∨
        w.files.makeDirectory (job.clone.route host.cwd) = .ok start) ∧
      (job.script.exec host lane w).2.events = w.events ++ record ∧
      commandsOf record = job.asked host attempts ∧
      job.Ends host lane w.files start attempts (job.script.exec host lane w) := by
  cases hmade : w.files.makeDirectory (job.clone.route host.cwd) with
  | error fault =>
    have hexec : job.script.exec host lane w = (.error (.fault (.files fault)),
        w.record (.failed lane (.makeDirectory job.clone) w.files fault)) := by
      rw [script_eq, exec_bind, exec_makeDirectory, hmade]
    rw [hexec]
    exact ⟨w.files, [], _, .inl ⟨rfl, rfl⟩, rfl, rfl, .stopped .none (by simp) (.unmade hmade)⟩
  | ok start =>
    have hexec : job.script.exec host lane w = job.work.exec host lane ⟨start, w.events⟩ := by
      rw [script_eq, exec_bind, exec_makeDirectory, hmade]
    have hbegun : job.Standing host start w [] ⟨start, w.events⟩ :=
      ⟨.none, by simp, rfl, [], by simp, rfl⟩
    have hworked : job.Concludes host lane start w (job.work.exec host lane ⟨start, w.events⟩) :=
      concludes_work hbegun
    obtain ⟨attempts, record, hevents, hcommands, hends⟩ := hworked
    rw [hexec]
    exact ⟨start, attempts, record, .inr rfl, hevents, hcommands, hends⟩

end Job

end Packaging

end NextRelease
