import NextRelease.Proofs.Files.Looking
import NextRelease.Proofs.Package.Rewriting
import NextRelease.Proofs.Package.Room
import NextRelease.Proofs.Package.Stages

/-! What comes of an archive. In a scratch directory with room for it, a revision is packed exactly if
every phase went well, the archive that was reported is a file, and the manifest that is left tells the
version. -/

namespace NextRelease

open FileTree Script

namespace Packaging.Job

variable (job : Job) (host : Host) (lane : Lane)

/-! ## The archive and the artifact -/

structure Finds (dialect : Dialect) (result : CommandResult) (tree : FileTree) (place : Place)
    (content : ByteArray) : Prop where
  named : dialect.commands.packFilename.getD result.lastLine ≠ ""
  resolve : tree.resolve host.cwd
    (job.directory.child (dialect.commands.packFilename.getD result.lastLine)) job.packaging.depth =
      .ok place
  exists_file : tree.hasKind .file ((Path.ofPlace place).route host.cwd)
  file : tree.get? place = some (.file content)

def Yields (tree : FileTree) (artifact : Artifact) : Prop :=
  ∃ manifest version,
    Manifest.HeldBy manifest tree (job.manifest.route host.cwd) job.packaging.depth ∧
      Manifest.Declares manifest version ∧
      artifact = ⟨job.revision.name, job.reference, Manifest.entryPoints manifest,
        version.map fun v => String.ofList v.render, job.archive⟩

section

variable {job host} {dialect : Dialect} {result : CommandResult} {w w' : World}

theorem finds_of_deliver {archive : Path}
    (h : (deliver job.directory job.archive dialect job.reference.name job.packaging.depth
      result).exec host lane w = (.ok archive, w')) :
    archive = job.archive ∧ ∃ place content, job.Finds host dialect result w.files place content ∧
      w.files.moveFile place (job.archive.route host.cwd) = .ok w'.files := by
  unfold deliver at h
  dsimp only at h
  split at h
  · cases h
  · next hnamed =>
    obtain ⟨place, v, hresolve, hlook⟩ := exec_bind_ok.1 h
    obtain ⟨hplace, rfl⟩ := exec_resolve_ok.1 hresolve
    obtain ⟨found, v, hfound, h⟩ := exec_bind_ok.1 hlook
    obtain rfl := exec_isFile hfound
    cases found with
    | false => cases h
    | true =>
      obtain ⟨_, v', hmove, h⟩ := exec_bind_ok.1 h
      rw [exec_move] at hmove
      cases hmoved : v.files.moveFile place (job.archive.route host.cwd) with
      | error fault =>
        rw [hmoved] at hmove
        cases hmove
      | ok tree =>
        rw [hmoved] at hmove
        simp only [Prod.mk.injEq, true_and] at hmove
        simp only [info, note, ask_bind, done_bind, Script.pure_eq, exec, Request.perform, ← hmove,
          Prod.mk.injEq, Except.ok.injEq] at h
        obtain ⟨rfl, rfl⟩ := h
        obtain ⟨_, content, hfile, _⟩ := moveFile_eq_ok hmoved
        exact ⟨rfl, place, content, ⟨hnamed, hplace, (hasKind_of_isFile hfound).symm, hfile⟩, hmoved⟩

theorem Finds.exec_deliver {place : Place} {content : ByteArray} {tree : FileTree}
    (h : job.Finds host dialect result w.files place content)
    (hmoved : w.files.moveFile place (job.archive.route host.cwd) = .ok tree) :
    ∃ v, (deliver job.directory job.archive dialect job.reference.name job.packaging.depth
      result).exec host lane w = (.ok job.archive, v) ∧ v.files = tree := by
  have hresolve : (Script.resolve (job.directory.child
      (dialect.commands.packFilename.getD result.lastLine)) job.packaging.depth).exec host lane w =
        (.ok place, w) := exec_resolve_ok.2 ⟨h.resolve, rfl⟩
  unfold deliver
  dsimp only
  rw [if_neg h.named, exec_bind, hresolve]
  dsimp only
  rw [exec_bind, isFile_of_hasKind h.exists_file]
  dsimp only
  rw [if_pos rfl, exec_bind, exec_move, hmoved]
  simp only [info, note, ask_bind, done_bind, Script.pure_eq, exec, Request.perform, World.record]
  exact ⟨_, rfl, rfl⟩

theorem exec_report_eq_ok {artifact : Artifact} :
    ((job.report job.archive).exec host lane w).1 = .ok artifact ↔ job.Yields host w.files artifact := by
  unfold report
  constructor
  · intro h
    obtain ⟨w', h⟩ : ∃ w', (job.report job.archive).exec host lane w = (.ok artifact, w') :=
      ⟨_, Prod.ext h rfl⟩
    obtain ⟨manifest, v, hload, h⟩ := exec_bind_ok.1 h
    cases hdeclared : Manifest.declaredVersion manifest
      (Manifest.fileName ++ " at " ++ job.reference.name) with
    | error cause =>
      rw [hdeclared] at h
      cases h
    | ok declared =>
      rw [hdeclared] at h
      cases h
      obtain ⟨version, hversion, rfl⟩ := Manifest.declares_of_declaredVersion hdeclared
      exact ⟨manifest, version, (Manifest.exec_load hload).1, hversion, rfl⟩
  · rintro ⟨manifest, version, hheld, hdeclares, rfl⟩
    rw [exec_bind, hheld.exec_load]
    dsimp only
    rw [Manifest.declaredVersion_of_declares _ hdeclares]
    rfl

theorem Finds.exec_finish {place : Place} {content : ByteArray} {tree : FileTree}
    (h : job.Finds host dialect result w.files place content)
    (hmoved : w.files.moveFile place (job.archive.route host.cwd) = .ok tree) :
    ∃ v, (job.finish dialect result).exec host lane w = (job.report job.archive).exec host lane v ∧
      v.files = tree ∧ ((job.finish dialect result).exec host lane w).2.files = tree := by
  obtain ⟨v, hdeliver, hv⟩ := h.exec_deliver lane hmoved
  have hfinish : (job.finish dialect result).exec host lane w =
      (job.report job.archive).exec host lane v := by
    rw [finish, exec_bind, hdeliver]
  exact ⟨v, hfinish, hv, by rw [hfinish, looks_report.files_exec, hv]⟩

theorem exec_finish_eq_ok {artifact : Artifact}
    (hmove : ∀ place content, w.files.get? place = some (.file content) →
      ∃ tree, w.files.moveFile place (job.archive.route host.cwd) = .ok tree) :
    let ending := (job.finish dialect result).exec host lane w
    ending.1 = .ok artifact ↔
      (∃ place content, job.Finds host dialect result w.files place content) ∧
        job.Yields host ending.2.files artifact := by
  intro ending
  have hyields {place : Place} {content : ByteArray}
      (hfinds : job.Finds host dialect result w.files place content) :
      ending.1 = .ok artifact ↔ job.Yields host ending.2.files artifact := by
    obtain ⟨tree, hmoved⟩ := hmove place content hfinds.file
    obtain ⟨v, hfinish, rfl, hfiles⟩ := hfinds.exec_finish lane hmoved
    rw [show ending.2.files = v.files from hfiles, ← exec_report_eq_ok lane, ← hfinish]
  constructor
  · intro h
    obtain ⟨w', hexec⟩ : ∃ w', (job.finish dialect result).exec host lane w = (.ok artifact, w') :=
      ⟨_, Prod.ext h rfl⟩
    obtain ⟨archive, v, hdeliver, _⟩ := exec_bind_ok.1 hexec
    obtain ⟨_, place, content, hfinds, _⟩ := finds_of_deliver lane hdeliver
    exact ⟨⟨place, content, hfinds⟩, (hyields hfinds).1 h⟩
  · rintro ⟨⟨place, content, hfinds⟩, h⟩
    exact (hyields hfinds).2 h

end

/-! ## Room for the archive -/

/-- A scratch directory, with the place to which its path leads, where nothing of the revision is yet. -/
structure HasRoom (tree : FileTree) (site : Place) : Prop where
  enters : Enters tree mostLinks [] (host.place job.scratch) site
  free : ∀ place, Territory site job.revision place → tree.get? place = none
  accepts : host.Accepts job.archive

section

variable {job host} {begun start tree : FileTree} {site : Place} {attempts : List Attempt}

theorem agree_makeDirectory (hroom : job.HasRoom host begun site)
    (hmade : begun.makeDirectory (job.clone.route host.cwd) = .ok start) :
    AgreeOutside (site ++ [job.revision.name] <+: ·) begun start := by
  have hnone := hroom.free _ (territory_clone (List.prefix_refl (site ++ [job.revision.name])))
  rw [Job.clone, makeDirectory_of_free hroom.enters
    (job.scratch.names_route_child host.cwd job.revision.isEntryName_name)
    job.revision.isEntryName_name.2 hnone] at hmade
  split at hmade
  · cases hmade
  · cases hmade
    intro place hplace
    rw [get?_makeDirectory hnone, if_neg]
    rintro rfl
    exact hplace (List.prefix_refl _)

theorem Attempts.agree
    (hbelow : ∀ events tree command, AgreeOutside (site ++ [job.revision.name] <+: ·) tree
      (host.runner.respond events tree command).2)
    (h : job.Attempts host start attempts) :
    AgreeOutside (site ++ [job.revision.name] <+: ·) start (filesAfter start attempts) := by
  induction h with
  | none => exact .refl _ _
  | @next attempts attempt events _ _ _ hbefore hrespond ih =>
    have hafter := hbelow events attempt.before
      (job.command (job.dialect host (attempts ++ [attempt])) attempt.phase)
    rw [hrespond, hbefore] at hafter
    rw [filesAfter_concat]
    exact ih.trans hafter

variable (hroom : job.HasRoom host begun site)
  (hagree : AgreeOutside (site ++ [job.revision.name] <+: ·) begun tree)

include hroom hagree

theorem HasRoom.enters_of_agree : Enters tree mostLinks [] (host.place job.scratch) site := by
  refine hroom.enters.mono fun place node _ hget => ?_
  rw [hagree place, hget]
  intro hclone
  cases hget.symm.trans (hroom.free place (territory_clone hclone))

theorem HasRoom.get?_archive : tree.get? (site ++ [job.revision.archiveName]) = none := by
  rw [hagree, hroom.free _ (territory_archive site job.revision)]
  intro hinside
  have hname := eq_of_prefixes hinside (List.prefix_refl _)
  revert hname
  cases job.revision <;> decide

theorem HasRoom.moveFile {place : Place} {content : ByteArray}
    (hfile : tree.get? place = some (.file content)) :
    ∃ tree', tree.moveFile place (job.archive.route host.cwd) = .ok tree' ∧
      tree'.read (job.archive.route host.cwd) = .ok content := by
  have hnames : (job.archive.route host.cwd).names =
      host.place job.scratch ++ [job.revision.archiveName] :=
    job.scratch.names_route_child host.cwd job.revision.isEntryName_archive
  have hname := job.revision.isEntryName_archive.2
  have henters := hroom.enters_of_agree hagree
  have hmove := moveFile_of_free henters hnames hname (hroom.get?_archive hagree) place
  rw [hroom.accepts, hfile] at hmove
  have hmoved := get?_moved hfile (show site ++ [job.revision.archiveName] ≠ [] by simp)
  refine ⟨_, hmove, read_of_enters hnames hname hroom.accepts
    (henters.mono fun other node hway hother => ?_) ((hmoved _).trans (if_pos rfl))⟩
  rw [hmoved, if_neg, if_neg, hother]
  · rintro rfl
    cases hother.symm.trans hfile
    cases hway
  · rintro rfl
    cases hother.symm.trans (hroom.get?_archive hagree)

end

/-! ## Failing fast -/

/-- The commands of a job come in their order, each only if all earlier ones went well, and none is run
any more when one did not. -/
structure FailsFast (begun : FileTree) (attempts : List Attempt)
    (outcome : Except Halt Artifact) : Prop where
  order : attempts.map (·.phase) <+: [.clone, .rename, .install, .build, .pack] ∨
    attempts.map (·.phase) <+: [.clone, .rename, .install, .pack]
  /-- Whether there is a build is told by the manifest after the installation. -/
  building : ∀ cloned renamed installed next rest,
    attempts = cloned :: renamed :: installed :: next :: rest →
      ∃ manifest, Manifest.HeldBy manifest installed.after (job.manifest.route host.cwd)
          (job.packaging.depth - 1) ∧
        (next.phase = .build ∧ Manifest.IsScripted manifest (Text.ofString "build") ∨
          next.phase = .pack ∧ ¬Manifest.IsScripted manifest (Text.ofString "build"))
  reading : ∀ cloned next rest, attempts = cloned :: next :: rest →
    ∃ manifest, Manifest.HeldBy manifest cloned.after (job.manifest.route host.cwd)
      job.packaging.depth
  exited : ∀ attempt ∈ attempts.dropLast, attempt.Exited
  /-- Nothing else keeps a job from going on to the packing. -/
  progress : (∀ attempt ∈ attempts, attempt.Exited) → (∀ attempt ∈ attempts, attempt.phase ≠ .pack) →
    job.Stalls host begun attempts ∧ ∃ cause, outcome = .error cause
  started : ∀ first ∈ attempts.head?,
    begun.makeDirectory (job.clone.route host.cwd) = .ok first.before
  chained : attempts.IsChain fun earlier later => later.before = earlier.after
  replied : ∀ attempt ∈ attempts, ∃ events, host.runner.respond events attempt.before
    (job.command (job.dialect host attempts) attempt.phase) = (attempt.reply, attempt.after)
  refused : ∀ last ∈ attempts.getLast?, ∀ result, last.reply = .ok result → result.ok = false →
    outcome = .error (.failure (job.failure last.phase result))
  raised : ∀ last ∈ attempts.getLast?, ∀ cause, last.reply = .error cause → outcome = .error cause

/-- Each command went well, the archive that was reported is a file, and the manifest that is left
makes the artifact. -/
structure Completes (attempts : List Attempt) (left : FileTree) (artifact : Artifact)
    (content : ByteArray) : Prop where
  exited : ∀ attempt ∈ attempts, attempt.Exited
  packed : ∃ packed ∈ attempts.getLast?, packed.phase = .pack ∧
    ∃ result place, packed.reply = .ok result ∧
      job.Finds host (job.dialect host attempts) result packed.after place content
  yields : job.Yields host left artifact

section

variable {job host lane} {begun start : FileTree} {attempts : List Attempt}
  {ending : Except Halt Artifact × World}

theorem Ends.tried (h : job.Ends host lane begun start attempts ending) :
    job.Attempts host start attempts := by
  cases h with
  | stopped h => exact h
  | failed h => exact h
  | packed h => exact h

theorem Ends.outcome (h : job.Ends host lane begun start attempts ending) {last : Attempt} {cause : Halt}
    (hlast : last ∈ attempts.getLast?)
    (hcause : verdict (job.failure last.phase) last.reply = .error cause) :
    ending.1 = .error cause := by
  cases h with
  | stopped _ hexited =>
    obtain ⟨result, hreply, hok⟩ := hexited last (List.mem_of_getLast? hlast)
    rw [verdict_eq_ok.2 ⟨hreply, hok⟩] at hcause
    cases hcause
  | failed _ hverdict =>
    obtain rfl := eq_of_mem_getLast?_concat hlast
    cases hverdict.symm.trans hcause
    rfl
  | packed _ _ hreply hok =>
    obtain rfl := eq_of_mem_getLast?_concat hlast
    rw [verdict_eq_ok.2 ⟨hreply, hok⟩] at hcause
    cases hcause

theorem Ends.progress (h : job.Ends host lane begun start attempts ending)
    (hexited : ∀ attempt ∈ attempts, attempt.Exited)
    (hunpacked : ∀ attempt ∈ attempts, attempt.phase ≠ .pack) :
    job.Stalls host begun attempts ∧ ∃ cause, ending.1 = .error cause := by
  cases h with
  | stopped _ _ hstalls => exact ⟨hstalls, _, rfl⟩
  | @failed attempts attempt _ _ _ hverdict =>
    obtain ⟨result, hreply, hok⟩ := hexited attempt (by simp)
    cases hverdict.symm.trans (verdict_eq_ok.2 ⟨hreply, hok⟩)
  | @packed attempts attempt _ _ _ hphase => exact absurd hphase (hunpacked attempt (by simp))

theorem Ends.failsFast (h : job.Ends host lane begun start attempts ending)
    (hstart : attempts = [] ∧ start = begun ∨
      begun.makeDirectory (job.clone.route host.cwd) = .ok start) :
    job.FailsFast host begun attempts ending.1 where
  order := h.tried.order
  building _ _ _ _ _ := h.tried.building
  reading _ _ _ := h.tried.reading
  exited := h.tried.dropLast
  progress := h.progress
  started first hfirst := by
    rcases hstart with ⟨rfl, _⟩ | hmade
    · cases hfirst
    · rw [h.tried.chained.2 first hfirst, hmade]
  chained := h.tried.chained.1
  replied := h.tried.replied
  refused last hlast result hreply hok := h.outcome hlast (by simp [hreply, verdict, hok])
  raised last hlast cause hreply := h.outcome hlast (by rw [hreply, verdict])

theorem completes_concat_iff {attempt : Attempt} {result : CommandResult} {left : FileTree}
    {artifact : Artifact} {content : ByteArray}
    (hexited : ∀ other ∈ attempts ++ [attempt], other.Exited) (hphase : attempt.phase = .pack)
    (hreply : attempt.reply = .ok result) :
    job.Completes host (attempts ++ [attempt]) left artifact content ↔
      (∃ place, job.Finds host (job.dialect host (attempts ++ [attempt])) result attempt.after place
        content) ∧ job.Yields host left artifact := by
  constructor
  · rintro ⟨_, ⟨packed, hlast, _, result', place, hreply', hfinds⟩, hyields⟩
    obtain rfl := eq_of_mem_getLast?_concat hlast
    cases hreply.symm.trans hreply'
    exact ⟨⟨place, hfinds⟩, hyields⟩
  · rintro ⟨⟨place, hfinds⟩, hyields⟩
    exact ⟨hexited, ⟨attempt, by simp, hphase, result, place, hreply, hfinds⟩, hyields⟩

theorem Ends.completes_iff (h : job.Ends host lane begun start attempts ending) {artifact : Artifact}
    (hmove : ∀ place content, (filesAfter start attempts).get? place = some (.file content) →
      ∃ tree, (filesAfter start attempts).moveFile place (job.archive.route host.cwd) = .ok tree ∧
        tree.read (job.archive.route host.cwd) = .ok content) :
    (ending.1 = .ok artifact ↔
      ∃ content, job.Completes host attempts ending.2.files artifact content) ∧
    ∀ content, job.Completes host attempts ending.2.files artifact content →
      ending.2.files.read (job.archive.route host.cwd) = .ok content := by
  cases h with
  | stopped htried _ hstalls =>
    have hnot (content : ByteArray) (w : World) :
        ¬job.Completes host attempts w.files artifact content := by
      rintro ⟨_, ⟨packed, hlast, hphase, _⟩, _⟩
      exact hstalls.ne_pack htried packed (List.mem_of_getLast? hlast) hphase
    simp [hnot]
  | @failed attempts attempt cause w _ hverdict =>
    have hnot (content : ByteArray) :
        ¬job.Completes host (attempts ++ [attempt]) w.files artifact content := by
      rintro ⟨hexited, _, _⟩
      obtain ⟨result, hreply, hok⟩ := hexited attempt (by simp)
      rw [verdict_eq_ok.2 ⟨hreply, hok⟩] at hverdict
      cases hverdict
    simp [hnot]
  | @packed attempts attempt result w htried hphase hreply hok hfiles =>
    rw [filesAfter_concat, ← hfiles] at hmove
    have hearlier : ∀ other ∈ attempts, other.Exited := by
      simpa using htried.dropLast
    have hexited : ∀ other ∈ attempts ++ [attempt], other.Exited :=
      List.forall_mem_append.2 ⟨hearlier, List.forall_mem_singleton.2 ⟨result, hreply, hok⟩⟩
    simp only [completes_concat_iff hexited hphase hreply, ← hfiles]
    constructor
    · refine (exec_finish_eq_ok lane fun place content hfile =>
        (hmove place content hfile).imp fun _ => And.left).trans ?_
      rw [exists_comm, exists_and_right]
    · rintro content ⟨⟨place, hfinds⟩, _⟩
      obtain ⟨tree, hmoved, hread⟩ := hmove place content hfinds.file
      obtain ⟨_, _, _, hleft⟩ := hfinds.exec_finish lane hmoved
      rw [hleft, hread]

/-- A job fails fast. In a scratch directory with room, and with commands that keep to the clone, it has
an artifact exactly if it was completed, and the archive is in its place then. -/
theorem script_failsFast (job : Job) (host : Host) (lane : Lane) (w : World) :
    let ending := job.script.exec host lane w
    ∃ attempts record, ending.2.events = w.events ++ record ∧
      commandsOf record = job.asked host attempts ∧
      job.FailsFast host w.files attempts ending.1 ∧
      ∀ site, job.HasRoom host w.files site →
        (∀ events tree command, AgreeOutside (site ++ [job.revision.name] <+: ·) tree
          (host.runner.respond events tree command).2) →
        ∀ artifact,
          (ending.1 = .ok artifact ↔
            ∃ content, job.Completes host attempts ending.2.files artifact content) ∧
          ∀ content, job.Completes host attempts ending.2.files artifact content →
            ending.2.files.read (job.archive.route host.cwd) = .ok content := by
  obtain ⟨start, attempts, record, hstart, hevents, hcommands, hends⟩ := job.ends_script host lane w
  dsimp only
  generalize job.script.exec host lane w = ending at *
  refine ⟨attempts, record, hevents, hcommands, hends.failsFast hstart,
    fun site hroom hbelow artifact => ?_⟩
  have hagree : AgreeOutside (site ++ [job.revision.name] <+: ·) w.files
      (filesAfter start attempts) := by
    rcases hstart with ⟨rfl, rfl⟩ | hmade
    · exact .refl _ _
    · exact (agree_makeDirectory hroom hmade).trans (hends.tried.agree hbelow)
  exact hends.completes_iff fun place content => hroom.moveFile hagree

end

def packingHost : Host where
  runner := ⟨fun _ tree command =>
    match command.argv with
    | "git" :: _ =>
      (.ok { code := 0 }, tree.insert ["s", "current", "package.json"] (.file "\x7b\x7d".toUTF8))
    | _ :: "pack" :: _ =>
      (.ok { code := 0, out := "a.tgz\n" }, tree.insert ["s", "current", "a.tgz"] (.file .empty))
    | _ => (.ok { code := 0 }, tree)⟩
  cwd := []
  temporary := ⟨1, []⟩
  randomNames := []

def packingJob : Job := ⟨⟨⟨["repo"]⟩, ⟨0, []⟩, 5⟩, ⟨"v1", .tag, "c0ffee"⟩, .current, ⟨1, ["s"]⟩⟩

def packingWorld : World := ⟨{ entries := [(["s"], .directory)] }, []⟩

theorem hasRoom_packingWorld : packingJob.HasRoom packingHost packingWorld.files ["s"] where
  enters := .into (by decide) rfl .here
  free := by
    rintro _ ⟨name, _, rest, rfl⟩
    simp [FileTree.get?, packingWorld, List.lookup_cons]
  accepts := by rfl

theorem packingHost_keepsBelow (events : List Event) (tree : FileTree) (command : Command) :
    AgreeOutside (["s"] ++ [packingJob.revision.name] <+: ·) tree
      (packingHost.runner.respond events tree command).2 := by
  have hinsert (name : String) (node : FileNode) : AgreeOutside (["s", "current"] <+: ·) tree
      (tree.insert ["s", "current", name] node) := by
    intro place hplace
    rw [get?_insert _ _ _ _ (List.cons_ne_nil _ _), if_neg]
    rintro rfl
    exact hplace ⟨[name], rfl⟩
  simp only [packingHost]
  split
  · exact hinsert _ _
  · exact hinsert _ _
  · exact .refl _ _

theorem script_failsFast_packs :
    let ending := packingJob.script.exec packingHost .current packingWorld
    let artifact : Artifact :=
      ⟨"current", ⟨"v1", .tag, "c0ffee"⟩, [[]], none, ⟨1, ["s", "liskov-semver-current.tgz"]⟩⟩
    ending.1 = .ok artifact ∧ ∃ attempts content,
      packingJob.Completes packingHost attempts ending.2.files artifact content ∧
      ending.2.files.read (packingJob.archive.route []) = .ok content := by
  intro ending artifact
  have hartifact : (packingJob.script.exec packingHost .current packingWorld).1 = .ok artifact := by
    rfl
  obtain ⟨attempts, _, _, _, _, hroom⟩ :=
    script_failsFast packingJob packingHost .current packingWorld
  obtain ⟨hiff, hread⟩ := hroom ["s"] hasRoom_packingWorld packingHost_keepsBelow artifact
  obtain ⟨content, hcompletes⟩ := hiff.1 hartifact
  exact ⟨hartifact, attempts, content, hcompletes, hread content hcompletes⟩

end Packaging.Job

end NextRelease
