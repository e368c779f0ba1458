import Mathlib
import NextRelease.Proofs.Decision.Success
import NextRelease.Proofs.Files.Plain
import NextRelease.Proofs.Package.Declaring

/-! Rehearsals: surroundings in which every command does what is expected of it, for every history,
whatever its commits declare and whatever the type checker says. A clone holds just a manifest. -/

namespace NextRelease

open FileTree

/-- A host that answers some commands in another way. -/
def Host.answering (host : Host) (answer : FileTree → Command → Option (Reply × FileTree)) : Host :=
  { host with
    runner := ⟨fun past tree command =>
      (answer tree command).getD (host.runner.respond past tree command)⟩ }

theorem Host.leaves_answering (holds : FileTree → FileTree → Prop) {host : Host}
    {answer : FileTree → Command → Option (Reply × FileTree)}
    (h : ∀ past tree command, holds tree (host.runner.respond past tree command).2)
    (hanswer : ∀ tree command answered, answer tree command = some answered →
      holds tree answered.2) (past : List Event) (tree : FileTree) (command : Command) :
    holds tree ((host.answering answer).runner.respond past tree command).2 := by
  simp only [answering]
  cases hanswered : answer tree command with
  | none => exact h past tree command
  | some answered => exact hanswer tree command answered hanswered

theorem Host.kept_of_addFile {host : Host}
    (hhost : ∀ past tree command, (host.runner.respond past tree command).2 = tree ∨
      ∃ directory name content, (host.runner.respond past tree command).2 =
        tree.addFile directory name content) {holds : FileTree → Prop}
    (h : ∀ tree directory name content, holds tree → holds (tree.addFile directory name content))
    (past record : List Event) : host.Kept holds past record := by
  intro front lane command before reply rest _ hholds
  obtain hsame | ⟨_, _, _, hadded⟩ := hhost (past ++ front) before command
  · rwa [hsame]
  · rw [hadded]
    exact h _ _ _ _ hholds

theorem eq_ok_of_toOption {α ε : Type} {result : Except ε α} {value : α}
    (h : result.toOption = some value) : result = .ok value := by
  cases result with
  | ok other => exact congrArg Except.ok (Option.some.inj h)
  | error cause => cases h

/-- What is rehearsed: a history, the version that is declared at each of its references, and what
the type checker says of each program. -/
structure Rehearsal where
  history : History
  declared : String → Option Version
  verdict : String → Bool

namespace Rehearsal

def commits (rehearsal : Rehearsal) : List (String × String) :=
  (rehearsal.history.branch, rehearsal.history.commit) :: rehearsal.history.tags

structure Sound (rehearsal : Rehearsal) : Prop where
  words : ∀ named ∈ rehearsal.commits, Text.IsWord named.1 ∧ Text.IsWord named.2
  unique : ∀ named ∈ rehearsal.commits, ∀ other ∈ rehearsal.commits,
    other.1 = named.1 → other = named
  printable : ∀ named ∈ rehearsal.commits, ∀ v ∈ rehearsal.declared named.1, v.isPrintable

/-- Where a path leads from the root. -/
def place (path : Path) : Place := (path.route []).names

/-- A word on a line. -/
def printed (text : String) : CommandResult := { code := 0, out := text ++ "\n" }

/-- What a command answers, and the tree that it leaves. -/
def answer (rehearsal : Rehearsal) (tree : FileTree) (command : Command) :
    CommandResult × FileTree :=
  match command.argv with
  | "git" :: "tag" :: _ =>
    ({ code := 0, out := Text.wordLines (rehearsal.history.tags.map (·.1)) }, tree)
  | "git" :: "branch" :: _ => (printed rehearsal.history.branch, tree)
  | "git" :: "rev-parse" :: _ =>
    match rehearsal.commits.find? fun named => Repository.verifyCommand named.1 == command.argv with
    | some named => (printed named.2, tree)
    | none => ({ code := 1 }, tree)
  | "git" :: "clone" :: _ :: reference :: rest =>
    ({ code := 0 }, tree.addFile (place (.ofString (rest.getLast?.getD ""))) Manifest.fileName
      (Manifest.declaring (rehearsal.declared reference)).toUTF8)
  | ["npm", "pack"] =>
    (printed "package.tgz", tree.addFile (place command.cwd) "package.tgz" .empty)
  | _ :: "--noEmit" :: rest =>
    ({ code := if rehearsal.verdict (rest.getLast?.getD "") then 0 else 1 }, tree)
  | _ => ({ code := 0 }, tree)

def runner (rehearsal : Rehearsal) : Runner where
  respond _ tree command :=
    let (result, tree) := rehearsal.answer tree command
    (.ok result, tree)

def host (rehearsal : Rehearsal) : Host where
  runner := rehearsal.runner
  cwd := []
  temporary := ⟨1, ["tmp"]⟩
  randomNames := ["0"]

/-- A directory for scratch directories, and nothing else. -/
def world : World := { files := { entries := [(["tmp"], .directory)] } }

/-- A package in the root directory of a repository. -/
def subject (settings : Settings) : Decision.Subject := ⟨⟨["repo"]⟩, ⟨0, []⟩, settings, 0⟩

variable {rehearsal : Rehearsal} {settings : Settings}

/-! ## What the commands leave -/

theorem answer_cases (rehearsal : Rehearsal) (tree : FileTree) (command : Command) :
    (rehearsal.answer tree command).2 = tree ∨
      ∃ directory name content, (rehearsal.answer tree command).2 =
        tree.addFile directory name content := by
  unfold answer
  split
  · exact .inl rfl
  · exact .inl rfl
  · split <;> exact .inl rfl
  · exact .inr ⟨_, _, _, rfl⟩
  · exact .inr ⟨_, _, _, rfl⟩
  · exact .inl rfl
  · exact .inl rfl

theorem extends_answer (rehearsal : Rehearsal) (tree : FileTree) (command : Command) :
    Extends tree (rehearsal.answer tree command).2 := by
  obtain hsame | ⟨_, _, _, hadded⟩ := rehearsal.answer_cases tree command
  · rw [hsame]
    exact fun _ _ h => h
  · rw [hadded]
    exact extends_addFile tree _ _ _

theorem kept_of_addFile {holds : FileTree → Prop}
    (h : ∀ tree directory name content, holds tree → holds (tree.addFile directory name content))
    (past record : List Event) : rehearsal.host.Kept holds past record :=
  Host.kept_of_addFile (fun _ => rehearsal.answer_cases) h past record

theorem kept_grounded (past record : List Event) :
    rehearsal.host.Kept FileTree.Grounded past record :=
  kept_of_addFile (fun _ _ _ _ h => h.addFile _ _ _) past record

theorem spared (route : Route) (past record : List Event) :
    rehearsal.host.Spared route past record where
  plain := kept_of_addFile (fun tree _ _ _ => (changesFiles_addFile tree _ _ _).plain) past record
  content _ := kept_of_addFile (fun tree _ _ _ => (extends_addFile tree _ _ _).read) past record

theorem grounded_world : world.files.Grounded := by
  refine grounded_of_forall rfl fun entry hentry => ?_
  obtain rfl := List.mem_singleton.1 hentry
  rfl

theorem hasRoom_world : rehearsal.host.HasRoom world.files where
  rooted := grounded_world.parent
  temporary := by
    have htop : world.files.Straight ([] ++ ["tmp"]) :=
      (straight_nil world.files).child (by decide) rfl
    exact htop
  free := ⟨"0", List.mem_singleton_self _, by cbv⟩

/-! ## What the commands answer -/

theorem respond_eq (events : List Event) (tree : FileTree) (command : Command) :
    rehearsal.host.runner.respond events tree command =
      (.ok (rehearsal.answer tree command).1, (rehearsal.answer tree command).2) := rfl

theorem answer_check (checker program : String) (tree : FileTree) (scratch : Path) :
    rehearsal.answer tree ⟨checkCommand checker program, scratch⟩ =
      ({ code := if rehearsal.verdict program then 0 else 1 }, tree) := by
  unfold answer checkCommand
  split
  case h_6 rest hargv =>
    cases hargv
    rfl
  all_goals simp_all

theorem verdict_eq {checker program : String} {verdict : Bool}
    (h : rehearsal.host.Verdict checker program verdict) :
    verdict = rehearsal.verdict program := by
  obtain ⟨_, tree, scratch, result, tree', hrespond, rfl⟩ := h
  rw [respond_eq, answer_check] at hrespond
  cases hrespond
  cases rehearsal.verdict program <;> rfl

theorem checks (checker : String) : rehearsal.host.Checks checker where
  install _ _ _ _ := ⟨_, _, rfl, trivial, rfl⟩
  check _ _ _ _ _ _ := ⟨_, _, rfl, trivial, trivial⟩

theorem prints_printed {text : String} (h : Text.IsWord text) : Prints text (printed text) :=
  ⟨rfl, h.trim_line, h.1⟩

theorem find_commits (h : rehearsal.Sound) {named : String × String}
    (hnamed : named ∈ rehearsal.commits) :
    (rehearsal.commits.find? fun other =>
      Repository.verifyCommand other.1 == Repository.verifyCommand named.1) = some named := by
  cases hfind : rehearsal.commits.find? fun other =>
    Repository.verifyCommand other.1 == Repository.verifyCommand named.1 with
  | none => exact absurd (beq_self_eq_true _) (List.find?_eq_none.1 hfind named hnamed)
  | some other =>
    have hsame : Repository.verifyCommand other.1 = Repository.verifyCommand named.1 := by
      simpa using List.find?_some hfind
    simp only [Repository.verifyCommand, List.cons.injEq, String.append_left_inj, and_true,
      true_and] at hsame
    rw [h.unique named hnamed other (List.mem_of_find?_eq_some hfind) hsame]

theorem gives_commit (h : rehearsal.Sound) {named : String × String}
    (hnamed : named ∈ rehearsal.commits) (cwd : Path) :
    rehearsal.host.Gives rehearsal.host.HasRoom (Repository.verifyCommand named.1) cwd
      (Prints named.2) := by
  intro events tree hroom
  refine ⟨printed named.2, tree, ?_, hroom, prints_printed (h.words named hnamed).2⟩
  have hanswer : rehearsal.answer tree ⟨Repository.verifyCommand named.1, cwd⟩ =
      match rehearsal.commits.find? fun other =>
        Repository.verifyCommand other.1 == Repository.verifyCommand named.1 with
      | some named => (printed named.2, tree)
      | none => ({ code := 1 }, tree) := rfl
  rw [respond_eq, hanswer, find_commits h hnamed]

theorem toldBy (h : rehearsal.Sound) :
    rehearsal.history.ToldBy rehearsal.host (subject settings) where
  lines tag htag := (h.words tag (List.mem_cons_of_mem _ htag)).1.isLine
  clean _ _ _ hroom := ⟨_, _, rfl, hroom, rfl, by cbv⟩
  listing _ tree hroom := by
    refine ⟨{ code := 0, out := Text.wordLines (rehearsal.history.tags.map (·.1)) }, tree, ?_, hroom,
      rfl, _, rfl, fun name => ?_⟩
    · cases settings.tagPolicy <;> rfl
    · simp
  tag _ htag := gives_commit h (List.mem_cons_of_mem _ htag) _
  branch _ tree hroom :=
    ⟨_, tree, rfl, hroom, prints_printed (h.words _ List.mem_cons_self).1⟩
  head := gives_commit h List.mem_cons_self _
  linear _ _ _ _ _ hroom := ⟨_, _, rfl, hroom, rfl⟩

/-! ## The scratch directory -/

/-- The scratch directory that is made. -/
def scratch : Path := .ofPlace ["tmp", "liskov-semver-0"]

theorem scratchNamed_eq : rehearsal.host.scratchNamed "0" = scratch := by cbv

theorem utf8ByteSize_below {names : List String} (hfew : names.length ≤ 2)
    (hnames : ∀ name ∈ names, IsName name) :
    (toString (Path.ofPlace ("tmp" :: "liskov-semver-0" :: names))).utf8ByteSize ≤ longestPath := by
  have hfront : ("/" ++ ("tmp" ++ "/" ++ "liskov-semver-0")).utf8ByteSize = 20 := by decide
  have hslash : "/".utf8ByteSize = 1 := by decide
  simp only [String.utf8ByteSize_append] at hfront
  obtain _ | ⟨name, _ | ⟨name', _ | ⟨_, _⟩⟩⟩ := names
  · decide
  · have hname := (hnames name (by simp)).2
    change ("/" ++ ("tmp" ++ "/" ++ "liskov-semver-0" ++ "/" ++ name)).utf8ByteSize ≤ 4095
    simp only [String.utf8ByteSize_append, longestName] at hname ⊢
    omega
  · have hname := (hnames name (by simp)).2
    have hname' := (hnames name' (by simp)).2
    change ("/" ++ ("tmp" ++ "/" ++ "liskov-semver-0" ++ "/" ++ name ++ "/" ++ name')).utf8ByteSize
      ≤ 4095
    simp only [String.utf8ByteSize_append, longestName] at hname hname' ⊢
    omega
  · simp at hfew

theorem accepts_below {names : List String} (hfew : names.length ≤ 2)
    (hnames : ∀ name ∈ names, IsName name) (hnull : ∀ name ∈ names, Char.ofNat 0 ∉ name.toList) :
    rehearsal.host.Accepts (.ofPlace ("tmp" :: "liskov-semver-0" :: names)) := by
  have hfront : Char.ofNat 0 ∉ "tmp".toList ∧ Char.ofNat 0 ∉ "liskov-semver-0".toList := by decide
  have hfits : ¬longestPath < ((Path.ofPlace ("tmp" :: "liskov-semver-0" :: names)).route
      rehearsal.host.cwd).length := Nat.not_lt.2 (utf8ByteSize_below hfew hnames)
  rw [Host.Accepts, refusal?, if_neg, if_neg hfits]
  simp only [List.any_eq_true, List.contains_iff_mem, not_exists, not_and]
  intro name hname
  obtain rfl | rfl | hname := List.mem_cons.1 hname |>.imp_right List.mem_cons.1
  · exact hfront.1
  · exact hfront.2
  · exact hnull name hname

theorem accepts_child {name : String} (hname : IsEntryName name)
    (hnull : Char.ofNat 0 ∉ name.toList) : rehearsal.host.Accepts (scratch.child name) := by
  rw [scratch.child_eq hname]
  exact accepts_below (by simp) (by simpa using hname.2) (by simpa using hnull)

theorem null_not_mem_name (revision : Revision) : Char.ofNat 0 ∉ revision.name.toList := by
  cases revision <;> decide

theorem accepts_package (revision : Revision) {name : String} (hname : IsEntryName name)
    (hnull : Char.ofNat 0 ∉ name.toList) : rehearsal.host.Accepts
      (((subject settings).packaging.packageDirectory (scratch.child revision.name)).child name) := by
  have hpath : ((subject settings).packaging.packageDirectory
      (scratch.child revision.name)).child name =
        .ofPlace ["tmp", "liskov-semver-0", revision.name, name] := by
    rw [scratch.child_eq revision.isEntryName_name, Path.child_eq _ hname]
    rfl
  rw [hpath]
  exact accepts_below (by simp) (by simp [hname.2, revision.isEntryName_name.2])
    (by simp [hnull, null_not_mem_name])

theorem fits : (subject settings).packaging.Fits rehearsal.host scratch where
  revisions revision name hname := by
    simp only [Revision.entries, List.mem_cons, List.not_mem_nil, or_false] at hname
    obtain rfl | rfl := hname
    · exact accepts_child revision.isEntryName_name (null_not_mem_name revision)
    · exact accepts_child revision.isEntryName_archive (by cases revision <;> decide)
  workspace name hname := by
    refine accepts_child (Packaging.isEntryName_workspaceFiles hname) ?_
    revert name
    decide
  package revision name hname := by
    refine accepts_package revision ?_ ?_
    · obtain rfl | hname := List.mem_cons.1 hname
      · exact Manifest.isEntryName_fileName
      · obtain ⟨marker, hmarker, rfl⟩ := List.mem_map.1 hname
        exact Dialect.isEntryName_of_mem hmarker
    · revert name
      decide
  relative := rfl
  names := by simp [subject, Decision.Subject.packaging]

theorem takesNames : rehearsal.host.TakesNames (subject settings).packaging := by
  intro name hname
  cases List.mem_singleton.1 hname
  rw [scratchNamed_eq]
  have hstem : Scratch.stem ++ "0" = "liskov-semver-0" := by decide
  rw [hstem]
  exact ⟨⟨by cbv, by decide⟩, accepts_below (by decide) (by simp) (by simp), fits⟩

structure Cloned (version : Option Version) (clone : Place) (tree : FileTree) : Prop where
  directory : tree.get? clone = some .directory
  manifest : tree.get? (clone ++ [Manifest.fileName]) =
    some (.file (Manifest.declaring version).toUTF8)
  archive : tree.get? (clone ++ ["package.tgz"]) = none ∨
    ∃ content, tree.get? (clone ++ ["package.tgz"]) = some (.file content)

theorem Cloned.checkout {version : Option Version} {clone : Place} {tree : FileTree}
    (h : Cloned version clone tree) (hprintable : ∀ v ∈ version, v.isPrintable) :
    (subject settings).packaging.Checkout version tree clone where
  directories front hfront := by
    rw [List.prefix_nil.1 hfront, List.append_nil, h.directory]
  manifest := ⟨_, (congrArg (fun place => tree.get? (place ++ [Manifest.fileName]))
    (List.append_nil clone)).trans h.manifest,
    Manifest.readable_declaring hprintable (show 1 < Decision.Subject.strandDepth by decide)⟩

theorem apart_cloned (version : Option Version) (clone : Place) :
    Apart (fun place => ¬clone <+: place) (Cloned version clone) := by
  intro tree tree' hagree h
  have hsame (names : List String) : tree'.get? (clone ++ names) = tree.get? (clone ++ names) :=
    hagree _ (not_not_intro (List.prefix_append _ _))
  have hclone : tree'.get? clone = tree.get? clone := hagree _ (not_not_intro (List.prefix_refl _))
  refine ⟨hclone.trans h.directory, (hsame _).trans h.manifest, ?_⟩
  rw [hsame]
  exact h.archive

theorem place_child (revision : Revision) :
    place (.ofString (toString (scratch.child revision.name))) =
      ["tmp", "liskov-semver-0", revision.name] := by
  cases revision <;> cbv

theorem fresh_of_get? {version : Option Version} {tree tree' : FileTree} {clone : Place}
    (hget : ∀ other, tree'.get? other = if other = clone ++ [Manifest.fileName] then
      some (.file (Manifest.declaring version).toUTF8) else tree.get? other)
    (hdirectory : tree.get? clone = some .directory)
    (hnone : ∀ name, tree.get? (clone ++ [name]) = none) :
    Cloned version clone tree' ∧ (subject settings).packaging.Fresh .npm tree' clone := by
  have hmarker (marker : String × Dialect) (hmem : marker ∈ Dialect.lockFiles) :
      tree'.get? (clone ++ [] ++ [marker.1]) = none := by
    have hother : ∀ marker ∈ Dialect.lockFiles, marker.1 ≠ Manifest.fileName := by decide
    rw [List.append_nil, hget, if_neg (by simpa using hother marker hmem), hnone]
  have hfind : (Dialect.lockFiles.find? fun marker =>
      tree'.holdsFile (clone ++ [] ++ [marker.1])) = none :=
    List.find?_eq_none.2 fun marker hmem => by
      rw [holdsFile, hmarker marker hmem]
      exact Bool.false_ne_true
  refine ⟨⟨?_, ?_, .inl ?_⟩, ?_, fun marker hmem target htarget => ?_⟩
  · rw [hget, if_neg (by simp), hdirectory]
  · rw [hget, if_pos rfl]
  · rw [hget, if_neg (by simp [Manifest.fileName]), hnone]
  · exact congrArg (fun found => (Option.map Prod.snd found).getD Dialect.npm) hfind
  · exact absurd ((hmarker marker hmem).symm.trans htarget) (by simp)

theorem works_clone (reference : String) (revision : Revision) {tree : FileTree}
    {clone : Place} (hclone : clone = ["tmp", "liskov-semver-0", revision.name])
    (hdirectory : tree.get? clone = some .directory)
    (hempty : ∀ other, clone <+: other → other ≠ clone → tree.get? other = none) (cwd : Path) :
    Packaging.Works rehearsal.host clone
      ((subject settings).repo.cloneCommand reference (scratch.child revision.name)) cwd tree
      fun _ tree' => Cloned (rehearsal.declared reference) clone tree' ∧
        (subject settings).packaging.Fresh .npm tree' clone := by
  have hnone (name : String) : tree.get? (clone ++ [name]) = none :=
    hempty _ (List.prefix_append _ _) (by simp)
  intro events
  refine ⟨{ code := 0 }, tree.addFile clone Manifest.fileName
    (Manifest.declaring (rehearsal.declared reference)).toUTF8, ?_, rfl,
    agreeOutside_addFile _ _ _ _,
    fresh_of_get? (get?_addFile _ hdirectory (hnone _)) hdirectory hnone⟩
  rw [hclone, ← place_child revision]
  rfl

theorem archived_package (revision : Revision) {result : CommandResult}
    (hlast : result.lastLine = "package.tgz") {tree : FileTree} {clone : Place}
    (hclone : clone = ["tmp", "liskov-semver-0", revision.name]) {content : ByteArray}
    (hfile : tree.get? (clone ++ ["package.tgz"]) = some (.file content)) :
    (subject settings).packaging.Archived rehearsal.host
      ((subject settings).packaging.packageDirectory (scratch.child revision.name)) .npm result tree
        clone := by
  have hname : IsEntryName "package.tgz" := ⟨by cbv, by decide⟩
  have hreported : Dialect.npm.commands.packFilename.getD result.lastLine = "package.tgz" := hlast
  have hbelow : rehearsal.host.Accepts (.ofPlace
      ["tmp", "liskov-semver-0", revision.name, "package.tgz"]) :=
    accepts_below (by simp) (by simp [hname.2, revision.isEntryName_name.2])
      (by simp [null_not_mem_name])
  constructor
  · rw [hreported]
    exact hname
  · rw [hreported]
    decide
  · rw [hreported]
    exact ⟨content, (congrArg (fun names => FileTree.get? _ (names ++ ["package.tgz"]))
      (List.append_nil clone)).trans hfile⟩
  · rw [hreported, hclone]
    exact ⟨accepts_package revision hname (by decide), hbelow⟩

theorem works_pack {version : Option Version} (hprintable : ∀ v ∈ version, v.isPrintable)
    (revision : Revision) {tree : FileTree} {clone : Place}
    (hclone : clone = ["tmp", "liskov-semver-0", revision.name])
    (hcloned : Cloned version clone tree) :
    Packaging.Works rehearsal.host clone Dialect.npm.commands.pack
      ((subject settings).packaging.packageDirectory (scratch.child revision.name)) tree
      fun result tree' => (subject settings).packaging.Checkout version tree' clone ∧
        (subject settings).packaging.Archived rehearsal.host
          ((subject settings).packaging.packageDirectory (scratch.child revision.name)) .npm result
            tree' clone := by
  have hlast : (printed "package.tgz").lastLine = "package.tgz" := by cbv
  have hdirectory : place ((subject settings).packaging.packageDirectory
      (scratch.child revision.name)) = clone := by
    rw [hclone]
    cases revision <;> cbv
  have hadded : ∃ content, (tree.addFile clone "package.tgz" .empty).get?
      (clone ++ ["package.tgz"]) = some (.file content) := by
    obtain hnone | ⟨content, hfile⟩ := hcloned.archive
    · exact ⟨.empty, by rw [get?_addFile _ hcloned.directory hnone, if_pos rfl]⟩
    · exact ⟨content, extends_addFile _ _ _ _ _ _ hfile⟩
  intro events
  refine ⟨printed "package.tgz", tree.addFile clone "package.tgz" .empty, ?_, rfl, ?_, ?_, ?_⟩
  · rw [← hdirectory]
    rfl
  · exact agreeOutside_addFile _ _ _ _
  · refine Cloned.checkout ⟨?_, ?_, .inr hadded⟩ hprintable
    · exact extends_addFile _ _ _ _ _ _ hcloned.directory
    · exact extends_addFile _ _ _ _ _ _ hcloned.manifest
  · obtain ⟨content, hfile⟩ := hadded
    exact archived_package revision hlast hclone hfile

theorem packs (h : rehearsal.Sound) {named : String × String} (hnamed : named ∈ rehearsal.commits)
    (revision : Revision) :
    rehearsal.host.Packs (subject settings).packaging named.1 revision
      (rehearsal.declared named.1) := by
  have hplace : Packaging.clonePlace rehearsal.host scratch revision =
      ["tmp", "liskov-semver-0", revision.name] := rfl
  refine ⟨.npm, Cloned (rehearsal.declared named.1), ?_⟩
  exact {
    apart := apart_cloned _
    checkout := fun _ _ hcloned => hcloned.checkout (h.printable named hnamed)
    clone := by
      intro name hname tree
      cases List.mem_singleton.1 hname
      rw [scratchNamed_eq]
      exact fun hstraight hempty =>
        works_clone named.1 revision hplace hstraight.get? hempty scratch
    step := by
      intro name hname tree argv
      cases List.mem_singleton.1 hname
      rw [scratchNamed_eq]
      intro scratch place hargv _ hcloned events
      refine ⟨{ code := 0 }, tree, ?_, rfl, AgreeOutside.refl _ _, hcloned⟩
      simp only [List.mem_cons, List.not_mem_nil, or_false] at hargv
      obtain rfl | rfl | rfl := hargv <;> rfl
    pack := by
      intro name hname tree
      cases List.mem_singleton.1 hname
      rw [scratchNamed_eq]
      exact fun _ hcloned => works_pack (h.printable named hnamed) revision hplace hcloned }

/-! ## What is decided -/

theorem decide_eq (settings : Settings) (h : rehearsal.Sound)
    (hunnamed : (subject settings).Unnamed)
    {best commit : String} {tag base : Version} (hbest : (best, commit) ∈ rehearsal.history.tags)
    (htag : Version.parse? best = some tag)
    (habove : ∀ other ∈ rehearsal.history.tags, ∀ v, Version.parse? other.1 = some v →
      other.1 = best ∨ v.isBelow tag)
    (hne : commit ≠ rehearsal.history.commit)
    (hbase : Decision.IsBase (rehearsal.declared best) best base)
    (hincrement : (base.increment (base.bumpFor (rehearsal.verdict Witness.forwardFile)
      (rehearsal.verdict Witness.backwardFile))).isPrintable) :
    ∃ w', Decision.decide (subject settings) rehearsal.host world = (.ok
      ⟨String.ofList (base.next (rehearsal.declared rehearsal.history.branch)
          (rehearsal.verdict Witness.forwardFile) (rehearsal.verdict Witness.backwardFile)).render,
        .computed, some ⟨best, .tag, commit⟩,
        some ⟨rehearsal.history.branch, .branch, rehearsal.history.commit⟩,
        some ⟨rehearsal.verdict Witness.forwardFile, rehearsal.verdict Witness.backwardFile⟩⟩,
      w') := by
  obtain ⟨forwards, backwards, w', hdecide, _, hforward, hbackward⟩ :=
    Decision.decide_computed (toldBy h) hunnamed hbest htag habove hne
      (packs h (List.mem_cons_of_mem _ hbest) .previous) (packs h List.mem_cons_self .current)
      (checks settings.checker) takesNames hasRoom_world hbase
      fun forwards backwards hforward hbackward => by
        rw [verdict_eq hforward, verdict_eq hbackward]
        exact hincrement
  obtain rfl := verdict_eq hforward
  obtain rfl := verdict_eq hbackward
  exact ⟨w', hdecide⟩

end Rehearsal

end NextRelease
