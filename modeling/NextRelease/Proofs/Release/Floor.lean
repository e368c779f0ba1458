import NextRelease.Proofs.Decision.Confinement
import NextRelease.Proofs.Decision.Wiring
import NextRelease.Proofs.Release.Agreement
import NextRelease.Proofs.Release.Overriding

/-! The least version of a release. What the manifest declares is not lowered by a version that is
computed, nor by one that is kept; only the first version of a history takes no account of it. -/

namespace NextRelease

open Script

namespace Manifest

/-- A file holds a manifest, and that declares a version. -/
def DeclaredAt (tree : FileTree) (route : Route) (version : Option Version) : Prop :=
  ∃ manifest depth, HeldBy manifest tree route depth ∧ Declares manifest version

/-- Whatever manifest was shown of the history or was found in the strand of the current revision
declares a version. -/
structure Delivered (host : Host) (version : Option Version) (record : List Event) : Prop where
  shown : ∀ words cwd result manifest source depth,
    (⟨"git" :: "show" :: words, cwd⟩, .ok result) ∈ commandsOf record → result.ok →
      parse result.out source depth = .ok manifest → Declares manifest version
  cloned : ∀ path tree manifest depth, (path, tree) ∈ readsOf (laneRecord .current record) →
    HeldBy manifest tree (path.route host.cwd) depth → Declares manifest version

theorem Delivered.mono {host : Host} {version : Option Version} {record front : List Event}
    (h : Delivered host version record) (hsub : front ⊆ record) : Delivered host version front where
  shown words cwd result manifest source depth hmem :=
    h.shown words cwd result manifest source depth (List.filterMap_subset _ hsub hmem)
  cloned path tree manifest depth hmem :=
    h.cloned path tree manifest depth (List.filterMap_subset _ (List.filter_subset _ hsub) hmem)

end Manifest

/-- The record shows that none of the tags from which the previous reference is chosen is a version. -/
def Repository.Unversioned (repo : Repository) (settings : Settings) (record : List Event) : Prop :=
  Answered record ⟨listCommand settings.tagPolicy settings.toRef, repo.rootPath⟩ fun listing =>
    ∀ name ∈ listedNames listing, Version.parse? name = none

namespace Decision

variable {s : Subject} {host : Host} {w w' : World} {record : List Event} {d : Decision}
  {least : Version}

theorem print?_of_versionAt {previous : Reference} {version : String} {keeps : List Event}
    (hdelivered : Manifest.Delivered host (some least) record) (hsub : keeps ⊆ record)
    (h : (versionAt s previous).Course host .main keeps (.ok version)) :
    least.print? = some version := by
  obtain ⟨words, before, result, manifest, source, declared, base, hmem, hok, hparse, hdeclares, hbase,
    hprint⟩ := course_versionAt h
  have hshown : Manifest.Declares manifest (some least) :=
    hdelivered.shown _ _ _ _ _ _ (List.mem_filterMap.2 ⟨_, hsub hmem, rfl⟩) hok hparse
  obtain rfl : declared = some least := hdeclares.unique hshown
  obtain hbase | ⟨hnone, _⟩ := hbase
  · exact Option.some.inj hbase ▸ hprint
  · cases hnone

theorem not_isBelow_of_explains {c : Computation} {checked : FileTree → Prop}
    (h : c.Explains s host checked d record)
    (hdelivered : Manifest.Delivered host (some least) record) :
    ∃ v : Version, v.print? = some d.version ∧ v.isBelow least = false := by
  obtain ⟨path, tree, hread, hheld⟩ := h.packedCurrent.read
  have hdeclared : c.declared = some least :=
    h.declared.unique (hdelivered.cloned path tree _ _ hread hheld)
  obtain ⟨v, hfollows, hprint⟩ := h.version
  refine ⟨v, hprint, ?_⟩
  rw [hfollows.eq_next, hdeclared]
  exact Version.not_latest_isBelow_declared _ least

theorem not_isBelow_of_decide (h : decide s host w = (.ok d, w'))
    (hrecord : w'.events = w.events ++ record)
    (hdelivered : Manifest.Delivered host (some least) record) :
    ∃ v : Version, v.print? = some d.version ∧ (v.isBelow least = false ∨
      d.reason = .initial ∧ v = ⟨0, 1, 0, [], []⟩ ∧ s.repo.Unversioned s.settings record) := by
  obtain ⟨found, front, surveyed, hfront, hsurveyed, hconclude⟩ := surveyed_of_decide h
  cases hsurveyed with
  | initial _ hfound =>
    obtain ⟨rfl, rfl⟩ := Run.pure_ok.1 hconclude
    obtain rfl := List.append_cancel_left (hfront.symm.trans hrecord)
    have hnone := (unversioned_of_previousReference hfound).2
    exact ⟨⟨0, 1, 0, [], []⟩, by decide,
      .inr ⟨rfl, rfl, hnone.mono fun _ hevent => by simp [hevent]⟩⟩
  | unchanged _ _ _ hkeep =>
    obtain ⟨rfl, rfl⟩ := Run.pure_ok.1 hconclude
    obtain rfl := List.append_cancel_left (hfront.symm.trans hrecord)
    obtain ⟨keeps, version, hversion, hsub, rfl⟩ := course_keep hkeep
    exact ⟨least, print?_of_versionAt hdelivered (fun _ hevent => by simp [hsub hevent]) hversion,
      .inl (Version.isBelow_irrefl least)⟩
  | differing _ _ _ _ _ =>
    obtain ⟨_, _, _, _, _, _, _, _, _, _, _, hd, _⟩ := compute_ok hconclude
    obtain ⟨c, explained, hexplained, hexplains⟩ := explains_of_decide h (by rw [hd])
    obtain rfl := List.append_cancel_left (hexplained.symm.trans hrecord)
    obtain ⟨v, hprint, hfloor⟩ := not_isBelow_of_explains hexplains hdelivered
    exact ⟨v, hprint, .inl hfloor⟩

end Decision

namespace Release

variable {order : Order} {host : Host} {w w' decided updated : World} {place : Place} {repo : Repository}
  {decision : Decision} {record : List Event} {version : String} {least : Version}

theorem prepare_ok {directory : Path} {subject : Decision.Subject}
    (h : (prepare order directory).exec host .main w = (.ok (repo, subject), w')) :
    subject.repo = repo ∧ subject.settings = order.settings := by
  obtain ⟨found, u, _, h⟩ := exec_bind_ok.1 h
  obtain ⟨_, v, _, h⟩ := exec_bind_ok.1 h
  obtain ⟨_, v', hsubject, hdone⟩ := exec_bind_ok.1 h
  cases hdone
  exact (Decision.Subject.of_ok hsubject).2

theorem Decides.not_isBelow (h : Decides order host w place repo decision decided)
    (hrecord : decided.events = w.events ++ record)
    (hdelivered : Manifest.Delivered host (some least) record) :
    ∃ v : Version, v.print? = some decision.version ∧ (v.isBelow least = false ∨
      decision.reason = .initial ∧ v = ⟨0, 1, 0, [], []⟩ ∧
        repo.Unversioned order.settings record) := by
  obtain ⟨_, subject, prepared, hprepare, hdecide⟩ := h
  obtain ⟨front, hfront, _⟩ := (prepare order (.ofPlace place)).exec_course host .main w
  obtain ⟨rest, hrest, _⟩ := Decision.went_of_decide subject host prepared
  rw [hprepare] at hfront
  rw [hdecide] at hrest
  obtain rfl : record = front ++ rest := by
    rw [hrest, hfront, List.append_assoc] at hrecord
    exact (List.append_cancel_left hrecord).symm
  have hsub : rest ⊆ front ++ rest := List.subset_append_right front rest
  obtain ⟨rfl, hsettings⟩ := prepare_ok hprepare
  obtain ⟨v, hprint, hfloor⟩ :=
    Decision.not_isBelow_of_decide hdecide hrest (hdelivered.mono hsub)
  refine ⟨v, hprint, hfloor.imp_right fun ⟨hreason, hinitial, hnone⟩ => ⟨hreason, hinitial, ?_⟩⟩
  exact hsettings ▸ hnone.mono hsub

theorem Stages.declaredAt (h : Stages order host w place repo decision version decided updated w')
    (hrecord : w'.events = w.events ++ record) (hasked : order.update)
    (hsharing : w.files.SharesAlike) (hshares : host.Kept FileTree.SharesAlike w.events record)
    (hkept : ∀ bytes, host.Kept (fun tree => tree.read (manifestRoute host place) = .ok bytes) w.events
      record) {v : Version} (hprint : v.print? = some version) :
    Manifest.DeclaredAt w'.files (manifestRoute host place) (some v) := by
  obtain ⟨front, middle, last, subject, rfl, hfront, hwent, hopening, _, hlast, hlooked⟩ :=
    h.parts hrecord
  have hdecided := hwent.sharesAlike hfront hsharing hshares.of_append_left.of_append_left
  obtain ⟨_, manifest, text, hheld, htext, hwrite⟩ | ⟨hnone, _⟩ := exec_update h.updates
  · obtain ⟨bytes, after, source, hread, hdecode, hparse⟩ := hheld.of_write hdecided htext hwrite
    have hlater := hlooked.keeps hread hlast (hopening ▸ (hkept bytes).of_append_right)
    exact ⟨_, _, ⟨bytes, after, source, hlater, hdecode, hparse⟩, Manifest.declares_updated hprint⟩
  · cases hasked.symm.trans hnone

theorem Settled.not_isBelow {least v : Version} {expected : Option String}
    (h : Settled least expected v) : v.isBelow least = false := by
  cases h with
  | computed => exact Version.isBelow_irrefl _
  | expected _ hfloor => exact hfloor

/-- A release that ends well and is to update the manifest does not lower the version that is declared
there, if this is the one that the history delivers and no command writes to the manifest; but the
first version of a history has no floor other than `0.1.0`. -/
theorem notLowered_of_run {report : Report}
    (hplace : w.files.resolve host.cwd order.directory (order.depth + 1) = .ok place)
    (hdeclared : Manifest.DeclaredAt w.files (manifestRoute host place) (some least))
    (hdelivers : ∀ version, Manifest.DeclaredAt w.files (manifestRoute host place) version →
      Manifest.Delivered host version record)
    (hsharing : w.files.SharesAlike) (hshares : host.Kept FileTree.SharesAlike w.events record)
    (hkept : ∀ bytes, host.Kept (fun tree => tree.read (manifestRoute host place) = .ok bytes) w.events
      record)
    (hrun : run order host w = (.ok report, w')) (hexit : report.exit = 0) (hasked : order.update)
    (hrecord : w'.events = w.events ++ record) :
    ∃ repo decision decided v, Decides order host w place repo decision decided ∧
      Manifest.DeclaredAt w'.files (manifestRoute host place) (some v) ∧
      (v.isBelow least = false ∨
        decision.reason = .initial ∧ repo.Unversioned order.settings record ∧
          v.isBelow ⟨0, 1, 0, [], []⟩ = false) := by
  obtain ⟨place', repo, decision, version, decided, updated, hstages, _⟩ := stages_of_run hrun hexit
  obtain rfl : place' = place := Except.ok.inj (hstages.decides.1.symm.trans hplace)
  obtain ⟨front, middle, last, _, hparts, hfront, _⟩ := hstages.parts hrecord
  have hsub : front ⊆ record := fun event hevent => by simp [hparts, hevent]
  obtain ⟨u, hu, hfloor⟩ := hstages.decides.not_isBelow hfront ((hdelivers _ hdeclared).mono hsub)
  obtain ⟨v, hv, hsettled⟩ := settled_of_checkExpected hu hstages.checked
  refine ⟨repo, decision, decided, v, hstages.decides,
    hstages.declaredAt hrecord hasked hsharing hshares hkept hv, ?_⟩
  obtain hfloor | ⟨hreason, rfl, hnone⟩ := hfloor
  · exact .inl (Version.not_isBelow_trans hfloor hsettled.not_isBelow)
  · exact .inr ⟨hreason, hnone.mono hsub, hsettled.not_isBelow⟩

/-- A repository at the commit of all its tags. It shows the shortest manifest with a version. -/
def standing (tags : List String) (declared : Version) : Host where
  runner := ⟨fun _ tree command =>
    let reply (out : String) : Reply := .ok { code := 0, out }
    (match command.argv with
      | ["git", "rev-parse", "--show-toplevel"] => reply "/repo\n"
      | "git" :: "rev-parse" :: _ => reply "7c\n"
      | "git" :: "tag" :: _ => reply (Text.wordLines tags)
      | "git" :: "branch" :: _ => reply "main\n"
      | "git" :: "show" :: _ => reply (Manifest.declaring (some declared))
      | _ => reply "", tree)⟩
  cwd := []
  temporary := ⟨1, ["tmp"]⟩
  randomNames := ["0"]

theorem sharesAlike_stocked (manifest : String) : (stocked manifest).files.SharesAlike :=
  FileTree.sharesAlike_of_twins rfl

structure OnlyAdds (host : Host) : Prop where
  extends_respond : ∀ past tree command,
    FileTree.Extends tree (host.runner.respond past tree command).2
  shares : ∀ past tree command, tree.SharesAlike →
    (host.runner.respond past tree command).2.SharesAlike

theorem onlyAdds_standing (tags : List String) (declared : Version) :
    OnlyAdds (standing tags declared) := ⟨fun _ _ _ _ _ h => h, fun _ _ _ h => h⟩

theorem onlyAdds_advanced (previous current : String) : OnlyAdds (advanced previous current none) := by
  constructor
  · intro past tree command
    simp only [advanced]
    split
    case h_5 =>
      exact fun place node h => FileTree.extends_addFile _ _ _ _ place node
        (FileTree.extends_addFile tree _ _ _ place node h)
    all_goals exact fun _ _ h => h
  · intro past tree command hshares
    simp only [advanced]
    split
    case h_5 => exact (hshares.addFile _ _ _).addFile _ _ _
    all_goals exact hshares

def endsOn (host : Host) (manifest version : String) : Except Halt Report × World → Bool
  | (.ok report, w) =>
    report = { exit := 0, out := version ++ "\n" } &&
      (commandsOf w.events).all (fun answer => answer.1.argv.take 2 != ["git", "show"] ||
        answer.2.toOption.map (·.out) == some manifest) &&
      (readsOf (laneRecord .current w.events)).all (holdsText host manifest)
  | _ => false

section Declaring

variable {host : Host} {w : World} {declared v : Version} {text : String}

theorem OnlyAdds.kept_read (h : OnlyAdds host) (route : Route) (past record : List Event)
    (bytes : ByteArray) : host.Kept (fun tree => tree.read route = .ok bytes) past record :=
  fun front _ command before _ _ _ hread => (h.extends_respond (past ++ front) before command).read hread

theorem OnlyAdds.kept_shares (h : OnlyAdds host) (past record : List Event) :
    host.Kept FileTree.SharesAlike past record :=
  fun front _ command before _ _ _ hshares => h.shares (past ++ front) before command hshares

theorem eq_fields_of_heldBy {version : Option Version} {tree : FileTree} {route : Route} {depth : Nat}
    {manifest : Fields} (hread : tree.read route = .ok (Manifest.declaring version).toUTF8)
    (h : Manifest.HeldBy manifest tree route depth) : manifest = Manifest.fields version := by
  obtain ⟨bytes, text, source, hbytes, hdecode, hparse⟩ := h
  obtain rfl := Except.ok.inj (hread.symm.trans hbytes)
  obtain rfl := Option.some.inj ((Manifest.decode?_declaring _).symm.trans hdecode)
  exact Manifest.eq_fields_of_parse hparse

variable (hprintable : declared.isPrintable)

include hprintable

theorem declaredAt_declaring_iff {tree : FileTree} {route : Route} {version : Option Version}
    (hread : tree.read route = .ok (Manifest.declaring (some declared)).toUTF8) :
    Manifest.DeclaredAt tree route version ↔ version = some declared := by
  have hfields : Manifest.Declares (Manifest.fields (some declared)) (some declared) :=
    Manifest.declares_fields fun _ hv => Option.some.inj hv ▸ hprintable
  constructor
  · rintro ⟨manifest, depth, hheld, hdeclares⟩
    exact (eq_fields_of_heldBy hread hheld ▸ hdeclares).unique hfields
  · rintro rfl
    exact ⟨_, _, Manifest.held_declaring 0 hread, hfields⟩

theorem delivered_of_endsOn {report : Report} {w' : World}
    (h : endsOn host (Manifest.declaring (some declared)) text (.ok report, w')) :
    report = { exit := 0, out := text ++ "\n" } ∧
      Manifest.Delivered host (some declared) w'.events := by
  simp only [endsOn, Bool.and_eq_true, decide_eq_true_eq, List.all_eq_true] at h
  obtain ⟨⟨hreport, hshown⟩, hfound⟩ := h
  have hdeclares : Manifest.Declares (Manifest.fields (some declared)) (some declared) :=
    Manifest.declares_fields fun _ hv => Option.some.inj hv ▸ hprintable
  refine ⟨hreport, ⟨fun words cwd result manifest source depth hmem _ hparse => ?_,
    fun path tree manifest depth hmem hheld => ?_⟩⟩
  · have hout : result.out = Manifest.declaring (some declared) := by
      simpa [Except.toOption] using hshown _ hmem
    rw [hout] at hparse
    rwa [Manifest.eq_fields_of_parse hparse]
  · rwa [eq_fields_of_heldBy (read_of_holdsText (hfound (path, tree) hmem)) hheld]

theorem exists_run_declaring (hadds : OnlyAdds host) (hsharing : w.files.SharesAlike)
    (hevents : w.events = [])
    (hplace : w.files.resolve host.cwd updating.directory (updating.depth + 1) = .ok ["repo"])
    (hread : w.files.read (manifestRoute host ["repo"]) =
      .ok (Manifest.declaring (some declared)).toUTF8)
    (hprint : v.print? = some text)
    (h : endsOn host (Manifest.declaring (some declared)) text (run updating host w)) :
    let route := manifestRoute host ["repo"]
    ∃ w', run updating host w = (.ok { exit := 0, out := text ++ "\n" }, w') ∧
      (∀ version, Manifest.DeclaredAt w.files route version ↔ version = some declared) ∧
      Manifest.Delivered host (some declared) w'.events ∧
      Manifest.DeclaredAt w'.files route (some v) := by
  intro route
  obtain ⟨⟨result, w'⟩, hrun⟩ : ∃ ended, run updating host w = ended := ⟨_, rfl⟩
  rw [hrun] at h
  cases result with
  | error cause => cases h
  | ok report =>
    obtain ⟨rfl, hdelivered⟩ := delivered_of_endsOn hprintable h
    refine ⟨w', hrun, fun _ => declaredAt_declaring_iff hprintable hread, hdelivered, ?_⟩
    obtain ⟨place, repo, decision, version, decided, updated, hstages, hout⟩ := stages_of_run hrun rfl
    obtain rfl : ["repo"] = place := Except.ok.inj (hplace.symm.trans hstages.decides.1)
    obtain rfl : text = version := (String.append_left_inj "\n").1 hout
    exact hstages.declaredAt (by rw [hevents, List.nil_append]) rfl hsharing (hadds.kept_shares _ _)
      (hadds.kept_read _ _ _) hprint

end Declaring

/-- A manifest that declares a version and has its package built. -/
def scripted (version : String) : String :=
  "\x7b\n  \"version\": \"" ++ version ++ "\",\n  \"scripts\": \x7b\n    \"build\": \"b\"\n  \x7d\n\x7d\n"

theorem declaredAt_scripted {tree : FileTree} {route : Route} {version : String} {v : Version}
    (hread : tree.read route = .ok (scripted version).toUTF8)
    (hchars : '\r' ∉ (scripted version).toList)
    (hparse : Manifest.parse (scripted version) "" 2 =
      .ok [(Text.ofString "version", .str (Text.ofString version)),
        (Text.ofString "scripts", .obj [(Text.ofString "build", .str (Text.ofString "b"))])])
    (hversion : Version.parse? version = some v) : Manifest.DeclaredAt tree route (some v) :=
  ⟨_, _, ⟨_, scripted version, "", hread, Text.decode?_toUTF8 hchars, hparse⟩,
    .text rfl (Text.toString?_ofString _) hversion⟩

/-- A host whose build declares `0.0.1` where the clone of the branch declares `1.0.0`. -/
def stamping : Host := advanced "\x7b\x7d" (scripted "1.0.0") (some (scripted "0.0.1"))

def endsStamped (delivered released : String) : Except Halt Report × World → Bool
  | (.ok report, w) =>
    report = { exit := 0, out := released ++ "\n" } &&
      holdsText stamping (scripted released) (.ofPlace ["repo", "package.json"], w.files) &&
      (readsOf (laneRecord .current w.events)).head?.any (holdsText stamping (scripted delivered))
  | _ => false

/-- The manifest declares `2.0.0` and nothing is tagged: the release lowers that to `0.1.0`. It declares
`1.0.0`, as the clone of the branch does until its build declares less: the release lowers that to
`0.3.0`. -/
theorem lowered_of_run :
    (let declared : Version := ⟨2, 0, 0, [], []⟩
    let initial : Version := ⟨0, 1, 0, [], []⟩
    let host := standing [] declared
    let w := holding (Manifest.declaring (some declared)).toUTF8
    let route := manifestRoute host ["repo"]
    ∃ w', run updating host w = (.ok { exit := 0, out := "0.1.0\n" }, w') ∧
      (∀ version, Manifest.DeclaredAt w.files route version ↔ version = some declared) ∧
      Manifest.Delivered host (some declared) w'.events ∧
      Manifest.DeclaredAt w'.files route (some initial) ∧ initial.isBelow declared) ∧
    (let declared : Version := ⟨1, 0, 0, [], []⟩
    let raised : Version := ⟨0, 3, 0, [], []⟩
    let w := stocked (scripted "1.0.0")
    let route := manifestRoute stamping ["repo"]
    (∀ past tree command,
      FileTree.AgreeOutside (["tmp"] <+: ·) tree (stamping.runner.respond past tree command).2) ∧
    ∃ w' path tree, run updating stamping w = (.ok { exit := 0, out := "0.3.0\n" }, w') ∧
      Manifest.DeclaredAt w.files route (some declared) ∧
      (readsOf (laneRecord .current w'.events)).head? = some (path, tree) ∧
      Manifest.DeclaredAt tree (path.route stamping.cwd) (some declared) ∧
      Manifest.DeclaredAt w'.files route (some raised) ∧ raised.isBelow declared) := by
  constructor
  · intro declared initial host w route
    have hprintable : declared.isPrintable := by decide
    have hprint : initial.print? = some "0.1.0" := by decide
    have hended : endsOn host (Manifest.declaring (some declared)) "0.1.0" (run updating host w) := by
      decide +kernel
    obtain ⟨w', hrun, hdeclared, hdelivered, hinitial⟩ :=
      exists_run_declaring hprintable (onlyAdds_standing [] declared) (sharesAlike_holding _) rfl rfl
        rfl hprint hended
    exact ⟨w', hrun, hdeclared, hdelivered, hinitial, by decide⟩
  · intro declared raised w route
    have hended : endsStamped "1.0.0" "0.3.0" (run updating stamping w) := by decide +kernel
    obtain ⟨⟨result, w'⟩, hrun⟩ : ∃ ended, run updating stamping w = ended := ⟨_, rfl⟩
    rw [hrun] at hended
    cases result with
    | error cause => cases hended
    | ok report =>
      simp only [endsStamped, Bool.and_eq_true, decide_eq_true_eq, Option.any_eq_true] at hended
      obtain ⟨⟨rfl, hafter⟩, ⟨path, tree⟩, hfirst, hbefore⟩ := hended
      have hdeclares {tree : FileTree} {route : Route}
          (hread : tree.read route = .ok (scripted "1.0.0").toUTF8) :
          Manifest.DeclaredAt tree route (some declared) :=
        declaredAt_scripted hread (by decide) (by cbv) (by cbv)
      refine ⟨agreeOutside_advanced _ _ _, w', path, tree, hrun, hdeclares rfl, hfirst,
        hdeclares (read_of_holdsText hbefore),
        declaredAt_scripted (read_of_holdsText hafter) (by decide) (by cbv) (by cbv), by decide⟩

def Keeps (host : Host) (declared : Version) : Prop :=
  let w := stocked (Manifest.declaring (some declared))
  let route := manifestRoute host ["repo"]
  ∃ w', run updating host w = (.ok { exit := 0, out := "0.3.0\n" }, w') ∧
    Manifest.DeclaredAt w.files route (some declared) ∧
    (∀ version, Manifest.DeclaredAt w.files route version →
      Manifest.Delivered host version w'.events) ∧
    ∃ repo decision decided v, Decides updating host w ["repo"] repo decision decided ∧
      Manifest.DeclaredAt w'.files route (some v) ∧
      (v.isBelow declared = false ∨
        decision.reason = .initial ∧ repo.Unversioned updating.settings w'.events ∧
          v.isBelow ⟨0, 1, 0, [], []⟩ = false)

/-- Beside the tag `v0.2.0` the manifest declares `0.3.0`, which the release keeps. It declares `0.2.5`
after that tag and breaks what there was, and the release raises that. -/
theorem notLowered_of_run_kept :
    Keeps (standing ["v0.2.0"] ⟨0, 3, 0, [], []⟩) ⟨0, 3, 0, [], []⟩ ∧
      Keeps (advanced "\x7b\x7d" (Manifest.declaring (some ⟨0, 2, 5, [], []⟩)) none)
        ⟨0, 2, 5, [], []⟩ := by
  have hkeeps {host : Host} {declared : Version} (hadds : OnlyAdds host)
      (hprintable : declared.isPrintable)
      (hplace : (stocked (Manifest.declaring (some declared))).files.resolve host.cwd updating.directory
        (updating.depth + 1) = .ok ["repo"])
      (hread : (stocked (Manifest.declaring (some declared))).files.read
        (manifestRoute host ["repo"]) = .ok (Manifest.declaring (some declared)).toUTF8)
      (hended : endsOn host (Manifest.declaring (some declared)) "0.3.0"
        (run updating host (stocked (Manifest.declaring (some declared))))) : Keeps host declared := by
    have hprint : Version.print? ⟨0, 3, 0, [], []⟩ = some "0.3.0" := by decide
    obtain ⟨w', hrun, hdeclared, hdelivered, _⟩ :=
      exists_run_declaring hprintable hadds (sharesAlike_stocked _) rfl hplace hread hprint hended
    have hdelivers (version : Option Version)
        (h : Manifest.DeclaredAt _ (manifestRoute host ["repo"]) version) :
        Manifest.Delivered host version w'.events := (hdeclared version).1 h ▸ hdelivered
    have hbefore := (hdeclared (some declared)).2 rfl
    exact ⟨w', hrun, hbefore, hdelivers,
      notLowered_of_run hplace hbefore hdelivers (sharesAlike_stocked _) (hadds.kept_shares _ _)
        (hadds.kept_read _ _ _) hrun rfl rfl (List.nil_append _).symm⟩
  exact ⟨hkeeps (onlyAdds_standing _ _) (by decide) rfl rfl (by decide +kernel),
    hkeeps (onlyAdds_advanced _ _) (by decide) rfl rfl (by decide +kernel)⟩

end Release

end NextRelease
