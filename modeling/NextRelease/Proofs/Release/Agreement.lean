import NextRelease.Proofs.Decision.Retaining
import NextRelease.Proofs.Package.Declaring
import NextRelease.Proofs.Release.Tagging

/-! What a release that ends well has published. One version, in normal form, is printed, written into
the manifest and tagged: the one that was decided on or the one that was expected, which is not below
it. A release of a version that is below it, or of none, always fails. -/

namespace NextRelease.Release

open Script

variable {order : Order} {host : Host} {w w' decided updated : World} {place : Place} {repo : Repository}
  {decision : Decision} {record front rest : List Event} {version : String}

/-- A release finds a package and its repository at a place and decides on a version for it. -/
def Decides (order : Order) (host : Host) (w : World) (place : Place) (repo : Repository)
    (decision : Decision) (decided : World) : Prop :=
  w.files.resolve host.cwd order.directory (order.depth + 1) = .ok place ∧
    ∃ subject prepared,
      (prepare order (.ofPlace place)).exec host .main w = (.ok (repo, subject), prepared) ∧
      Decision.decide subject host prepared = (.ok decision, decided)

theorem Decides.went (h : Decides order host w place repo decision decided) :
    ∃ subject record, decided.events = w.events ++ record ∧ Tagless record ∧
      Decision.Went subject host w record decided := by
  obtain ⟨_, subject, prepared, hprepare, hdecide⟩ := h
  obtain ⟨front, hfront, hcourse⟩ := (prepare order (.ofPlace place)).exec_course host .main w
  rw [hprepare] at hfront hcourse
  have hlooks := looks_prepare order (.ofPlace place)
  have hasks := hcourse.asks (hlooks.mono fun _ => Request.Looks.asks)
  have hlooked : w.Looked host prepared := .of_exec hlooks hprepare
  obtain ⟨rest, hrest, htagless, hwent⟩ :=
    (Decision.tagless_decide subject host prepared).and (Decision.went_of_decide subject host prepared)
  rw [hdecide] at hrest hwent
  refine ⟨subject, front ++ rest, by rw [hrest, hfront, List.append_assoc], ?_,
    hwent.prepend hlooked hfront (Decision.scratch_not_mem hasks)⟩
  have hnot (command : Command) (h : command.argv = ["git", "rev-parse", "--show-toplevel"]) :
      ¬command.Tags := by simp [Command.Tags, h]
  exact tagless_append.2 ⟨tagless_of_asks hasks hnot, htagless⟩

structure Stages (order : Order) (host : Host) (w : World) (place : Place) (repo : Repository)
    (decision : Decision) (version : String) (decided updated w' : World) : Prop where
  decides : Decides order host w place repo decision decided
  checked : checkExpected decision.version order.expected = .ok version
  updates : (update order ((Path.ofPlace place).child Manifest.fileName) version).exec host .main
    decided = (.ok (), updated)
  tags : if order.tag then
      (createVersionTag repo decision.current version order.settings).exec host .main updated =
        (.ok (), w')
    else w' = updated

theorem stages_of_run {report : Report} (hrun : run order host w = (.ok report, w'))
    (hexit : report.exit = 0) :
    ∃ place repo decision version decided updated,
      Stages order host w place repo decision version decided updated w' ∧
        report.out = order.shown version := by
  rw [run_eq] at hrun
  split at hrun
  · cases hrun
  · next place hplace =>
    obtain ⟨hreport, hworld⟩ := Prod.mk.inj hrun
    obtain ⟨version, hversion, hout⟩ := achieved_of_report hreport hexit
    obtain ⟨proposal, proposed, updated, hpropose, rfl, hupdate, htag⟩ :=
      perform_ok (Prod.ext hversion hworld)
    obtain ⟨subject, decision, prepared, hprepare, hdecide, hcheck, hcurrent⟩ := propose_ok hpropose
    rw [hcurrent] at htag
    exact ⟨place, proposal.repo, decision, proposal.version, proposed, updated,
      ⟨⟨hplace, subject, prepared, hprepare, hdecide⟩, hcheck, hupdate, htag⟩, hout⟩

theorem Stages.parts (h : Stages order host w place repo decision version decided updated w')
    (hrecord : w'.events = w.events ++ record) :
    ∃ front middle last subject, record = front ++ middle ++ last ∧
      decided.events = w.events ++ front ∧ Decision.Went subject host w front decided ∧
      updated.events = w.events ++ (front ++ middle) ∧ Tagless (front ++ middle) ∧
      w'.events = updated.events ++ last ∧ updated.Looked host w' := by
  obtain ⟨subject, front, hfront, htagless, hwent⟩ := h.decides.went
  obtain ⟨middle, hmiddle, hcourse⟩ := (update order ((Path.ofPlace place).child Manifest.fileName)
    version).exec_course host .main decided
  rw [h.updates] at hmiddle hcourse
  have hlooked : updated.Looked host w' := by
    have htag := h.tags
    split at htag
    · exact .of_exec (looks_createVersionTag ..) htag
    · exact htag ▸ .refl host updated
  have ⟨last, hlast, _⟩ := hlooked
  have hsilent : Tagless middle := tagless_of_asks (hcourse.asks (asks_update ..)) fun _ => False.elim
  have hopening : updated.events = w.events ++ (front ++ middle) := by
    rw [hmiddle, hfront, List.append_assoc]
  refine ⟨front, middle, last, subject, ?_, hfront, hwent, hopening,
    tagless_append.2 ⟨htagless, hsilent⟩, hlast, hlooked⟩
  rw [hrecord, hopening, List.append_assoc] at hlast
  exact List.append_cancel_left hlast

/-! ## A version that is too low -/

theorem fails_of_tooLow {text : String} {least : Version}
    (h : Decides order host w place repo decision decided)
    (hleast : least.print? = some decision.version) (hexpected : order.expected = some text)
    (hlow : ∀ v, Version.parse? text = some v → v.isBelow least) :
    run order host w =
      (.ok { exit := 1, err := errorLine (Failure.versionTooLow text decision.version).message },
        decided) := by
  obtain ⟨hplace, subject, prepared, hprepare, hdecide⟩ := h
  have hcheck : checkExpected decision.version order.expected =
      .error (.tooLow text decision.version) := by
    rw [hexpected, checkExpected]
    cases hproposed : Version.parse? text with
    | none => rfl
    | some proposed =>
      simp only [Version.parse?_of_print? hleast, if_pos (hlow proposed hproposed)]
  have hpropose : propose order (.ofPlace place) host w =
      (.error (.failure (.versionTooLow text decision.version)), decided) := by
    have hprepare' : (prepare order (.ofPlace place) : Run _) host w = _ := hprepare
    have hcheck' : ((Script.ofExcept ((checkExpected decision.version order.expected).mapError
        Refused.halt) : Script String) : Run String) host decided =
          (.error (.failure (.versionTooLow text decision.version)), decided) := by
      rw [hcheck]
      rfl
    exact (Run.bind_of_ok hprepare').trans ((Run.bind_of_ok hdecide).trans (Run.bind_of_error hcheck'))
  have hperform : perform order (.ofPlace place) host w =
      (.error (.failure (.versionTooLow text decision.version)), decided) := by
    rw [perform_eq, Run.bind_of_error hpropose]
  rw [run_eq, hplace]
  simp only [hperform]
  rfl

/-! ## The manifest -/

theorem Stages.held {kept : Place → Bool} {content : ByteArray}
    (h : Stages order host w place repo decision version decided updated w')
    (hrecord : w'.events = w.events ++ record) (hasked : order.update)
    (hleaves : host.LeavesAlone kept w record)
    (hfile : w.files.HasFile kept (manifestRoute host place) content) :
    ∃ manifest,
      Manifest.HeldBy manifest w.files (manifestRoute host place) (order.depth - 1) ∧
      Manifest.HeldBy (Manifest.updated manifest version) w'.files (manifestRoute host place)
        (order.depth - 1) := by
  obtain ⟨front, middle, last, subject, rfl, hfront, hwent, hopening, _, hlast, hlooked⟩ :=
    h.parts hrecord
  have hretains := hwent.retains hfront hleaves.of_append_left.of_append_left
  have hsharing := hwent.sharesAlike hfront hleaves.sharing hleaves.shares.of_append_left.of_append_left
  have halone : updated.files.AgreeOutside (fun place => kept place = false) w'.files :=
    hlooked.keeps (.refl _ _) hlast (hopening ▸ (hleaves.alone updated.files).of_append_right)
  obtain ⟨_, manifest, text, hheld, htext, hwrite⟩ | ⟨hnone, _⟩ := exec_update h.updates
  · obtain ⟨bytes, before, source, hread, hdecode, hparse⟩ := hheld
    have hsame : w.files.read (manifestRoute host place) = .ok bytes := by
      rw [(hfile.of_read hretains hread).1, hfile.read]
    have hbefore : Manifest.HeldBy manifest w.files (manifestRoute host place) (order.depth - 1) :=
      ⟨bytes, before, source, hsame, hdecode, hparse⟩
    exact ⟨manifest, hbefore,
      hbefore.written htext (hfile.of_write hretains hsharing hread hwrite halone)⟩
  · cases hasked.symm.trans hnone

/-! ## All that is published -/

/-- What a release leaves of a version that was decided on or expected. -/
structure Published (order : Order) (host : Host) (w w' : World) (record : List Event)
    (place : Place) (repo : Repository) (decision : Decision) (version : String) : Prop where
  /-- Where the commands leave the manifest alone, it has that version and is otherwise as it was. -/
  manifest : order.update → ∀ kept content, host.LeavesAlone kept w record →
    w.files.HasFile kept (manifestRoute host place) content → ∃ manifest,
      Manifest.HeldBy manifest w.files (manifestRoute host place) (order.depth - 1) ∧
      (Json.IsWhole (.obj manifest) → Manifest.HeldBy
        (manifest.set (Text.ofString "version") (.str (Text.ofString version))) w'.files
        (manifestRoute host place) (order.depth - 1))
  /-- Nothing but the last stage can make a tag, and it makes one at the most. -/
  tag : order.tag → ∃ front tagging, record = front ++ tagging ∧ Tagless front ∧
    Tagged repo decision.current version order.settings tagging
  untagged : order.tag = false → Tagless record

theorem Stages.published (h : Stages order host w place repo decision version decided updated w')
    (hrecord : w'.events = w.events ++ record) :
    Published order host w w' record place repo decision version := by
  have htag := h.tags
  refine ⟨fun hasked kept content hleaves hfile => ?_, fun hasked => ?_, fun hnone => ?_⟩
  · obtain ⟨manifest, hbefore, hafter⟩ := h.held hrecord hasked hleaves hfile
    exact ⟨manifest, hbefore, fun hwhole => Manifest.updated_of_isWhole hwhole ▸ hafter⟩
  · obtain ⟨front, middle, last, _, rfl, _, _, _, htagless, hlast, _⟩ := h.parts hrecord
    rw [if_pos hasked] at htag
    obtain ⟨tagging, htagging, hcreated⟩ :=
      (createVersionTag repo decision.current version order.settings).exec_course host .main updated
    rw [htag] at htagging hcreated
    obtain rfl : tagging = last := List.append_cancel_left (htagging.symm.trans hlast)
    exact ⟨front ++ middle, tagging, rfl, htagless, tagged_of_course hcreated⟩
  · obtain ⟨front, middle, last, _, rfl, _, _, _, htagless, hlast, _⟩ := h.parts hrecord
    rw [if_neg (by simp [hnone])] at htag
    rw [htag] at hlast
    rw [List.self_eq_append_right.1 hlast, List.append_nil]
    exact htagless

/-- All that a release which ends well has published is one version in normal form, and a release for
which an unfit version is expected fails. -/
theorem agrees_of_run (order : Order) (host : Host) (w : World) :
    (∀ place repo decision decided text least,
      Decides order host w place repo decision decided → least.print? = some decision.version →
      order.expected = some text → (∀ v, Version.parse? text = some v → v.isBelow least) →
      (run order host w).1 = .ok
        { exit := 1, err := errorLine (Failure.versionTooLow text decision.version).message }) ∧
    ∀ report w' record, run order host w = (.ok report, w') → report.exit = 0 →
      w'.events = w.events ++ record → ∃ place repo decision decided version least v,
        Decides order host w place repo decision decided ∧
        (decision.current = none ↔ decision.reason = .initial) ∧
        least.print? = some decision.version ∧ Settled least order.expected v ∧
        v.print? = some version ∧ report.out = order.shown version ∧
        Published order host w w' record place repo decision version := by
  constructor
  · intro place repo decision decided text least hdecides hleast hexpected hlow
    rw [fails_of_tooLow hdecides hleast hexpected hlow]
  · intro report w' record hrun hexit hrecord
    obtain ⟨place, repo, decision, version, decided, updated, hstages, hout⟩ := stages_of_run hrun hexit
    have ⟨_, subject, prepared, _, hdecide⟩ := hstages.decides
    obtain ⟨⟨least, hleast⟩, hinitial⟩ := Decision.normal_of_decide hdecide
    obtain ⟨v, hv, hsettled⟩ := settled_of_checkExpected hleast hstages.checked
    exact ⟨place, repo, decision, decided, version, least, v, hstages.decides, hinitial, hleast,
      hsettled, hv, hout, hstages.published hrecord⟩

theorem sharesAlike_holding (manifest : ByteArray) : (holding manifest).files.SharesAlike :=
  FileTree.sharesAlike_of_twins rfl

theorem leavesAlone_keeping (tags : List String) (manifest : ByteArray) (record : List Event) :
    (keeping tags).LeavesAlone (fun _ => true) (holding manifest) record := by
  have hkept (holds : FileTree → Prop) (past : List Event) : (keeping tags).Kept holds past record :=
    fun _ _ _ _ _ _ _ h => h
  exact ⟨grounded_holding _, sharesAlike_holding _, hkept _ _, hkept _ _, fun _ => hkept _ _,
    fun _ _ _ => hkept _ _⟩

/-- Beside `v0.1.0` a release that expects `v0.2.0` reports, writes and tags `0.2.0`; with the same
repository and manifest a release of what is no version fails. -/
theorem agrees_of_run_proposed :
    let before : Version := ⟨0, 1, 5, [], []⟩
    let host := keeping ["v0.1.0"]
    let w := holding (Manifest.declaring (some before)).toUTF8
    let route := manifestRoute host ["repo"]
    ∃ w' : World, run (complete (some "v0.2.0")) host w = (.ok { exit := 0, out := "0.2.0\n" }, w') ∧
      host.LeavesAlone (fun _ => true) w w'.events ∧
      w.files.HasFile (fun _ => true) route (Manifest.declaring (some before)).toUTF8 ∧
      (∃ depth, Manifest.HeldBy (Manifest.fields (some before)) w.files route depth ∧
        Manifest.HeldBy [(Text.ofString "version", .str (Text.ofString "0.2.0"))] w'.files route
          depth) ∧
      (∃ front tagging repo current, w'.events = front ++ tagging ∧ Tagless front ∧
        Tagged repo current "0.2.0" {} tagging) ∧
      ∃ err, (run (complete (some "soon")) host w).1 = .ok { exit := 1, err := err } := by
  intro before host w route
  obtain ⟨ended, hended⟩ : ∃ ended, run (complete (some "v0.2.0")) host w = ended := ⟨_, rfl⟩
  have hreport : ended.1 = .ok { exit := 0, out := "0.2.0\n" } :=
    hended ▸ eq_ok_of_toOption (by decide +kernel)
  have hrun : run (complete (some "v0.2.0")) host w = (.ok { exit := 0, out := "0.2.0\n" }, ended.2) :=
    hended.trans (Prod.ext hreport rfl)
  have hleaves : host.LeavesAlone (fun _ => true) w ended.2.events := leavesAlone_keeping ..
  have hfile : w.files.HasFile (fun _ => true) route (Manifest.declaring (some before)).toUTF8 := rfl
  obtain ⟨place, repo, decision, decided, version, least, v, hdecides, _, hleast, hsettled, hv, _,
    hpublished⟩ := (agrees_of_run (complete (some "v0.2.0")) host w).2 _ _ _ hrun rfl
      (List.nil_append _).symm
  obtain rfl : ["repo"] = place := Except.ok.inj hdecides.1
  have hversion : version = "0.2.0" := by
    have hparse : Version.parse? "v0.2.0" = some ⟨0, 2, 0, [], []⟩ := by cbv
    rw [hsettled.eq_of_parse? hparse] at hv
    exact (Option.some.inj hv).symm
  subst hversion
  obtain ⟨manifest, hbefore, hafter⟩ := hpublished.manifest rfl _ _ hleaves hfile
  have hmanifest : manifest = Manifest.fields (some before) :=
    hbefore.unique (Manifest.held_declaring 987 hfile.read)
  subst hmanifest
  obtain ⟨front, tagging, hrecord, htagless, htagged⟩ := hpublished.tag rfl
  have hsoon : Version.parse? "soon" = none := by cbv
  have hfails := (agrees_of_run (complete (some "soon")) host w).1 _ _ _ _ "soon" least hdecides hleast
    rfl fun v hv => by cases hsoon.symm.trans hv
  exact ⟨ended.2, hrun, hleaves, hfile, ⟨_, hbefore, hafter (Manifest.isWhole_fields _)⟩, ⟨front, tagging, repo, _, hrecord,
    htagless, htagged⟩, _, hfails⟩

/-- The release of a package that only updates its manifest, with the settings as they are if none is
given. -/
def updating : Order where
  directory := ⟨1, ["repo"]⟩
  update := true

def cloneOf (reference : String) : Place :=
  ["tmp", "liskov-semver-0", if reference == "main" then "current" else "previous"]

/-- A repository whose branch has gone on since its only tag, where the type checker rejects all. The
clones hold manifests and archives, and a build may put another manifest into the current clone. -/
def advanced (previous current : String) (built : Option String) : Host where
  runner := ⟨fun _ tree command =>
    let reply (out : String) : Reply := .ok { code := 0, out }
    match command.argv with
    | ["git", "rev-parse", "--show-toplevel"] => (reply "/repo\n", tree)
    | ["git", "rev-parse", _, _, name] =>
      (reply (if name == "main^\x7bcommit\x7d" then "7c\n" else "5b\n"), tree)
    | "git" :: "tag" :: _ => (reply "v0.2.0\n", tree)
    | "git" :: "branch" :: _ => (reply "main\n", tree)
    | "git" :: "clone" :: _ :: reference :: _ =>
      (reply "", (tree.addFile (cloneOf reference) "package.tgz" .empty).addFile (cloneOf reference)
        Manifest.fileName (if reference == "main" then current else previous).toUTF8)
    | ["npm", "run", "build"] => (reply "", match built with
      | some text => tree.insert (cloneOf "main" ++ [Manifest.fileName]) (.file text.toUTF8)
      | none => tree)
    | ["npm", "pack"] => (reply "package.tgz\n", tree)
    | _ :: "--noEmit" :: _ => (.ok { code := 1 }, tree)
    | _ => (reply "", tree)⟩
  cwd := []
  temporary := ⟨1, ["tmp"]⟩
  randomNames := ["0"]

/-- A repository with a manifest, beside the directory for scratch directories. -/
def stocked (manifest : String) : World where
  files := { entries := [(["repo"], .directory), (["repo", "package.json"], .file manifest.toUTF8),
    (["tmp"], .directory)] }

def holdsText (host : Host) (text : String) (found : Path × FileTree) : Bool :=
  match found.2.read (found.1.route host.cwd) with
  | .ok bytes => bytes = text.toUTF8
  | .error _ => false

theorem read_of_holdsText {host : Host} {text : String} {found : Path × FileTree}
    (h : holdsText host text found) : found.2.read (found.1.route host.cwd) = .ok text.toUTF8 := by
  unfold holdsText at h
  split at h
  · next bytes hread => rw [hread, of_decide_eq_true h]
  · cases h

/-- A manifest that has nothing but a name. -/
def naming (name : String) : String := "\x7b\"name\": \"" ++ name ++ "\"\x7d"

/-- A release ends well and no command changes anything in the working tree, but the manifest that names
one package before names another one in the end. -/
def Misplaces (host : Host) (w : World) (name other : String) : Prop :=
  let route := manifestRoute host ["repo"]
  (∀ past tree command,
    FileTree.AgreeOutside (¬["repo"] <+: ·) tree (host.runner.respond past tree command).2) ∧
  ∃ report w' before after depth, run updating host w = (.ok report, w') ∧ report.exit = 0 ∧
    Manifest.HeldBy before w.files route depth ∧ Json.IsWhole (.obj before) ∧
    Manifest.HeldBy after w'.files route depth ∧
    before.get? (Text.ofString "name") = some (.str (Text.ofString name)) ∧
    after.get? (Text.ofString "name") = some (.str (Text.ofString other)) ∧ other ≠ name

/-- The clones leave a link to the manifest where the manifest of the scratch directory is written. -/
def linking : Host :=
  let base := advanced "\x7b\x7d" "\x7b\x7d" none
  base.answering fun tree command =>
    let answered := base.runner.respond [] tree command
    if command.argv.take 2 = ["git", "clone"] then some (answered.1,
      answered.2.addLink ["tmp", "liskov-semver-0", Manifest.fileName] "/repo/package.json")
    else none

def workspaceText : String :=
  "\x7b\n  \"name\": \"liskov-semver-workspace\",\n  \"private\": true,\n  \"dependencies\": \x7b\n    " ++
    "\"liskov-semver-previous\": \"file:./liskov-semver-previous.tgz\",\n    " ++
    "\"liskov-semver-current\": \"file:./liskov-semver-current.tgz\"\n  \x7d,\n  " ++
    "\"version\": \"0.3.0\"\n\x7d\n"

/-- A query changes a file beside the working tree. -/
def rewriting : Host :=
  (keeping []).answering fun tree command =>
    if command.argv = ["git", "status", "--porcelain"] then
      some (.ok { code := 0 }, tree.insert ["outside.json"] (.file (naming "q").toUTF8))
    else none

/-- A working tree whose manifest is a link to that file. -/
def referring : World where
  files := { entries := [(["repo"], .directory), (["repo", "package.json"], .link "../outside.json"),
    (["outside.json"], .file (naming "p").toUTF8)] }

def leavesText (host : Host) (text : String) : Except Halt Report × World → Bool
  | (.ok report, w) => report.exit = 0 &&
    holdsText host text ((Path.ofPlace ["repo"]).child Manifest.fileName, w.files)
  | _ => false

theorem heldBy_of_parse {tree : FileTree} {route : Route} {text : String} {manifest : Fields}
    {depth : Nat} (hread : tree.read route = .ok text.toUTF8) (hchars : '\r' ∉ text.toList)
    (hparse : Manifest.parse text "" depth = .ok manifest) :
    Manifest.HeldBy manifest tree route depth :=
  ⟨_, text, "", hread, Text.decode?_toUTF8 hchars, hparse⟩

theorem misplaces_of_leavesText {host : Host} {w : World} {name other : String} (text : String)
    {manifest : Fields}
    (hbeside : ∀ past tree command,
      FileTree.AgreeOutside (¬["repo"] <+: ·) tree (host.runner.respond past tree command).2)
    (hread : w.files.read (manifestRoute host ["repo"]) = .ok (naming name).toUTF8)
    (hparse : Manifest.parse (naming name) "" 3 =
      .ok [(Text.ofString "name", .str (Text.ofString name))])
    (hchars : '\r' ∉ (naming name).toList ∧ '\r' ∉ text.toList)
    (hparse' : Manifest.parse text "" 3 = .ok manifest)
    (hname : manifest.get? (Text.ofString "name") = some (.str (Text.ofString other)))
    (hne : other ≠ name) (h : leavesText host text (run updating host w)) :
    Misplaces host w name other := by
  obtain ⟨⟨result, w'⟩, hrun⟩ : ∃ ended, run updating host w = ended := ⟨_, rfl⟩
  rw [hrun] at h
  cases result with
  | error cause => cases h
  | ok report =>
    simp only [leavesText, Bool.and_eq_true, decide_eq_true_eq] at h
    obtain ⟨hexit, hholds⟩ := h
    have hwhole : Json.IsWhole (.obj [(Text.ofString "name", .str (Text.ofString name))]) :=
      .obj fun field hfield => List.mem_singleton.1 hfield ▸ .str _
    exact ⟨hbeside, report, w', _, manifest, 3, hrun, hexit, heldBy_of_parse hread hchars.1 hparse,
      hwhole, heldBy_of_parse (read_of_holdsText hholds) hchars.2 hparse', rfl, hname, hne⟩

theorem agreeOutside_tree (top : String) {tree tree' : FileTree} (htop : top ≠ "repo")
    (h : FileTree.AgreeOutside ([top] <+: ·) tree tree') :
    FileTree.AgreeOutside (¬["repo"] <+: ·) tree tree' := by
  intro place hplace
  have hrepo : [] ++ ["repo"] <+: place := not_not.1 hplace
  exact h place fun hbelow => htop (Packaging.eq_of_prefixes hbelow hrepo)

theorem agreeOutside_advanced (previous current : String) (built : Option String) (past : List Event)
    (tree : FileTree) (command : Command) : FileTree.AgreeOutside (["tmp"] <+: ·) tree
      ((advanced previous current built).runner.respond past tree command).2 := by
  have hclone (reference : String) : ["tmp"] <+: cloneOf reference := List.prefix_append ["tmp"] _
  have hadded (reference : String) (tree : FileTree) (name : String) (content : ByteArray) :
      FileTree.AgreeOutside (["tmp"] <+: ·) tree
        (tree.addFile (cloneOf reference) name content) :=
    (FileTree.agreeOutside_addFile tree _ name content).mono fun _ => (hclone reference).trans
  simp only [advanced]
  split
  case h_5 => exact (hadded _ _ _ _).trans (hadded _ _ _ _)
  case h_6 =>
    cases built with
    | none => exact .refl _ _
    | some text =>
      exact FileTree.agreeOutside_insert (by simp) ((hclone "main").trans (List.prefix_append _ _)) _ _
  all_goals exact .refl _ _

theorem agreeOutside_linking (past : List Event) (tree : FileTree) (command : Command) :
    FileTree.AgreeOutside (¬["repo"] <+: ·) tree (linking.runner.respond past tree command).2 := by
  have hbase := agreeOutside_advanced "\x7b\x7d" "\x7b\x7d" none
  refine agreeOutside_tree "tmp" (by decide)
    (Host.leaves_answering _ hbase (fun tree command answered hanswered => ?_) past tree command)
  split at hanswered
  · cases hanswered
    exact (hbase [] tree command).trans
      (FileTree.agreeOutside_addLink (by simp) (List.prefix_append ["tmp"] _) _ _)
  · cases hanswered

theorem agreeOutside_rewriting (past : List Event) (tree : FileTree) (command : Command) :
    FileTree.AgreeOutside (¬["repo"] <+: ·) tree (rewriting.runner.respond past tree command).2 := by
  refine agreeOutside_tree "outside.json" (by decide) (Host.leaves_answering _
    (fun _ _ _ => .refl _ _) (fun tree command answered hanswered => ?_) past tree command)
  split at hanswered
  · cases hanswered
    exact FileTree.agreeOutside_insert (by simp) (List.prefix_refl _) _ _
  · cases hanswered

/-- A link that a clone leaves takes the manifest of the scratch directory to that of the package. Or the
manifest of the package is a link to a file beside the working tree, and that is changed. -/
theorem misplaced_of_run :
    Misplaces linking (stocked (naming "p")) "p" "liskov-semver-workspace" ∧
      Misplaces rewriting referring "p" "q" := by
  refine ⟨misplaces_of_leavesText workspaceText agreeOutside_linking rfl (by cbv)
      (by decide +kernel) (by cbv) rfl (by decide) (by decide +kernel),
    misplaces_of_leavesText "\x7b\n  \"name\": \"q\",\n  \"version\": \"0.1.0\"\n\x7d\n"
      agreeOutside_rewriting rfl (by cbv)
      (by decide +kernel) (by cbv) rfl (by decide) (by decide +kernel)⟩

end NextRelease.Release
