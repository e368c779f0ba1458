import NextRelease.Proofs.Decision.Rehearsal
import NextRelease.Proofs.Package.Interference

/-! The two strands of a decision in some order. Where both keep to their clones and nothing leads from
one clone to the other, it makes no difference which turns they take; where a path or a link leads from
one to the other, it does. -/

namespace NextRelease

open FileTree

/-! ## Commands that keep to a directory -/

namespace Host.KeepsTo

variable {host : Host} {directory : Place} {command : Command} {reply : Reply}

theorem of_idle (h : ∀ events tree, host.runner.respond events tree command = (reply, tree)) :
    host.KeepsTo directory command where
  reply _ _ _ _ _ := by rw [h, h]
  effect _ _ _ _ hagree := by
    rw [h, h]
    exact hagree
  within _ _ := by
    rw [h]
    exact .refl _ _

theorem of_insert {name : String} {node : FileNode}
    (h : ∀ events tree, host.runner.respond events tree command =
      (reply, tree.insert (directory ++ [name]) node)) : host.KeepsTo directory command where
  reply _ _ _ _ _ := by rw [h, h]
  effect _ _ tree tree' hagree place hplace := by
    rw [h, h, get?_insert _ _ _ _ (by simp), get?_insert _ _ _ _ (by simp), hagree place hplace]
  within _ tree place hplace := by
    rw [h, get?_insert _ _ _ _ (by simp), if_neg]
    rintro rfl
    exact hplace ⟨List.prefix_append _ _, by simp⟩

theorem of_addFile {name : String} {content : ByteArray}
    (h : ∀ events tree, host.runner.respond events tree command =
      (reply, tree.addFile directory name content)) : host.KeepsTo directory command where
  reply _ _ _ _ _ := by rw [h, h]
  effect _ _ tree tree' hagree place hplace := by
    have hdirectory := hagree directory (not_not_intro (List.prefix_refl _))
    have hname := hagree (directory ++ [name]) (not_not_intro (List.prefix_append _ _))
    rw [h, h, addFile, addFile, hdirectory, hname]
    split
    · rw [get?_insert _ _ _ _ (by simp), get?_insert _ _ _ _ (by simp), hagree place hplace]
    · exact hagree place hplace
  within _ tree place hplace := by
    rw [h]
    obtain hsame | ⟨_, _, hadded⟩ := tree.addFile_cases directory name content
    · rw [hsame]
    · rw [hadded, get?_insert _ _ _ _ (by simp), if_neg]
      rintro rfl
      exact hplace ⟨List.prefix_append _ _, by simp⟩

end Host.KeepsTo

/-! ## Rehearsed strands -/

namespace Rehearsal

variable {rehearsal : Rehearsal} {settings : Settings} {revision : Revision} {reference : Reference}
  {start tree : FileTree}

/-- A new scratch directory, and nothing else. -/
def made : FileTree :=
  { entries := [(["tmp"], .directory), (["tmp", "liskov-semver-0"], .directory)] }

/-- The place of the scratch directory. -/
def site : Place := ["tmp", "liskov-semver-0"]

theorem straight_site : made.Straight site := by
  have htop : made.Straight ([] ++ ["tmp"]) := (straight_nil made).child (by decide) rfl
  have hsite : made.Straight (["tmp"] ++ ["liskov-semver-0"]) := htop.child (by decide) rfl
  exact hsite

theorem site_made {host : Host} (hplace : host.place scratch = site) :
    Packaging.Site host scratch made site where
  enters := by
    have hstraight : made.Straight ([] ++ site) := straight_site
    rw [hplace]
    exact hstraight.enters
  free revision place hterritory := by
    obtain ⟨name, _, rest, rfl⟩ := hterritory
    simp [made, site, FileTree.get?, List.lookup_cons]

theorem keepsTo {command : Command}
    (hwork : (subject settings).packaging.Work reference.name revision scratch command) :
    rehearsal.host.KeepsTo (site ++ [revision.name]) command := by
  cases hwork with
  | clone =>
    have hplace : site ++ [revision.name] =
        place (.ofString (toString (scratch.child revision.name))) := (place_child revision).symm
    rw [hplace]
    exact .of_addFile fun _ _ => rfl
  | rename dialect => cases dialect <;> exact .of_idle fun _ _ => rfl
  | install dialect => cases dialect <;> exact .of_idle fun _ _ => rfl
  | build dialect => cases dialect <;> exact .of_idle fun _ _ => rfl
  | pack dialect =>
    cases dialect with
    | npm =>
      have hplace : site ++ [revision.name] = place ((subject settings).packaging.packageDirectory
          (scratch.child revision.name)) := by
        cases revision <;> cbv
      rw [hplace]
      exact .of_addFile fun _ _ => rfl
    | pnpm => exact .of_idle fun _ _ => rfl
    | yarn => exact .of_idle fun _ _ => rfl

theorem keepsWays_of_reached
    (h : (subject settings).packaging.Reached rehearsal.host reference.name revision scratch start site
      tree) : KeepsWays tree (Packaging.withClone start site revision) := by
  induction h with
  | new => exact fun _ _ _ => id
  | run events _ _ ih =>
    rename_i command tree _ _
    have hchanges : ChangesFiles tree (rehearsal.host.runner.respond events tree command).2 :=
      kept_of_addFile (fun tree' directory name content hchanges =>
          hchanges.trans (changesFiles_addFile tree' directory name content))
        events [.command .main command tree (.ok { code := 0 })] [] .main command tree _ []
        rfl (.refl tree)
    exact fun place node hway hget => ih place node hway (hchanges.keepsWays place node hway hget)

section Scratch

variable (hstraight : start.Straight site)
  (hnew : ∀ revision : Revision, ∀ place, site ++ [revision.name] <+: place →
    start.get? place = none)

include hstraight hnew

theorem located {dialect : Dialect} {result : CommandResult}
    (h : (subject settings).packaging.Reached rehearsal.host reference.name revision scratch start site
      tree)
    (hname : dialect.commands.packFilename.getD result.lastLine = "package.tgz") :
    (subject settings).packaging.Located rehearsal.host revision scratch site dialect result tree := by
  have hentryName : IsEntryName "package.tgz" := ⟨by cbv, by decide⟩
  refine ⟨.ok (site ++ [revision.name] ++ ["package.tgz"]), ?_, fun tree' hagree => ?_⟩
  · rintro _ ⟨⟩
    exact List.prefix_append _ _
  have helsewhere : Packaging.Elsewhere start site tree' :=
    ((h.agree fun _ hwork => keepsTo hwork).mono fun _ hown => ⟨_, hown⟩).trans
      (hagree.mono fun _ hother => ⟨_, hother⟩)
  have hsame (place : Place) (hinside : site ++ [revision.name] <+: place) :
      tree'.get? place = tree.get? place :=
    hagree _ (Packaging.territory_clone hinside).disjoint
  have hclone : tree'.get? (site ++ [revision.name]) = some .directory :=
    (hsame _ (List.prefix_refl _)).trans (h.get?_clone fun _ hwork => keepsTo hwork)
  have hlink (target : String) :
      tree'.get? (site ++ [revision.name] ++ ["package.tgz"]) ≠ some (.link target) := by
    intro hget
    rw [hsame _ (List.prefix_append _ _)] at hget
    have hway := keepsWays_of_reached h _ _ rfl hget
    rw [Packaging.get?_withClone, if_neg (by simp), hnew revision _ (List.prefix_append _ _)] at hway
    cases hway
  have hentry : tree'.Entry (((subject settings).packaging.packageDirectory
      (scratch.child revision.name)).child "package.tgz" |>.route rehearsal.host.cwd)
      (site ++ [revision.name]) "package.tgz" :=
    { straight := (helsewhere.straight hstraight).child revision.isEntryName_name.2 hclone
      names := (Path.names_route_child _ _ hentryName).trans
        (congrArg (· ++ ["package.tgz"]) (Packaging.place_packageDirectory rfl))
      name := hentryName.2
      accepted := accepts_package revision hentryName (by decide) }
  rw [hname]
  exact hentry.resolve hlink _

theorem keepsToClone (revision : Revision) (reference : Reference) :
    (subject settings).packaging.KeepsToClone rehearsal.host reference.name revision scratch start
      site where
  keeps _ hwork := keepsTo hwork
  archive dialect events tree result hreached := by
    intro command hreply _ hne
    refine located hstraight hnew (.run events (.pack dialect) hreached) ?_
    cases dialect with
    | npm =>
      cases Except.ok.inj hreply
      cbv
    | pnpm =>
      cases Except.ok.inj hreply
      exact absurd (by cbv) hne
    | yarn => rfl

end Scratch

theorem secluded (revision : Revision) (reference : Reference) :
    (subject settings).packaging.Secluded rehearsal.host reference.name revision scratch made site :=
  have hsite : Packaging.Site rehearsal.host scratch made site := site_made rfl
  { keepsToClone straight_site
      (fun revision place hclone => hsite.free revision place (Packaging.territory_clone hclone))
      revision reference with
    inward := fun _ hreached => hsite.inward (keepsWays_of_reached hreached) }

end Rehearsal

/-! ## Side by side and one after the other -/

namespace Packaging

variable {packaging : Packaging} {host : Host} {scratch : Path} {made : FileTree} {site : Place}

/-- Where the commands of both strands keep to their clones, the strands end in every order of turns as
they do one after the other, whichever is first. -/
theorem builds_endLike {previous current : Reference} (hsite : Site host scratch made site)
    (hbelow : packaging.IsBelowRoot)
    (hprevious : packaging.Secluded host previous.name .previous scratch made site)
    (hcurrent : packaging.Secluded host current.name .current scratch made site) {w : World}
    (hw : w.files = made) (patience : Patience) (turns : List Side) :
    let p := packaging.build previous Revision.previous.name scratch
    let q := packaging.build current Revision.current.name scratch
    let ended := Strands.run host .previous .current patience turns false false p q w
    ended.1.EndLike .previous .current ended.2 (.leftFirst host .previous .current p q w) ∧
      ended.1.EndLike .previous .current ended.2 (.rightFirst host .previous .current p q w) := by
  have hp := steady_build hsite hbelow hprevious
  have hq := steady_build hsite hbelow hcurrent
  exact Strands.run_endLike hp hq hw hw patience turns false false

/-- A history of one tag, of which no reference declares a version. -/
def oneTag : Rehearsal := ⟨⟨[("0.1.0", "a1")], "main", "b2"⟩, fun _ => none, fun _ => true⟩

/-- Both strands come to artifacts, although their first requests alternate. -/
theorem builds_endLike_oneTag :
    let packaging := (Rehearsal.subject {}).packaging
    let p := packaging.build ⟨"0.1.0", .tag, "a1"⟩ Revision.previous.name Rehearsal.scratch
    let q := packaging.build ⟨"main", .branch, "b2"⟩ Revision.current.name Rehearsal.scratch
    let w : World := { files := Rehearsal.made }
    let ended := Strands.run oneTag.host .previous .current .untilAllEnd
      [.left, .right, .right, .left, .right, .left] false false p q w
    Site oneTag.host Rehearsal.scratch Rehearsal.made Rehearsal.site ∧ packaging.IsBelowRoot ∧
      packaging.Secluded oneTag.host "0.1.0" .previous Rehearsal.scratch Rehearsal.made
        Rehearsal.site ∧
      packaging.Secluded oneTag.host "main" .current Rehearsal.scratch Rehearsal.made
        Rehearsal.site ∧
      (ended.1.left.result.toOption.isSome ∧ ended.1.right.result.toOption.isSome) ∧
      ended.1.EndLike .previous .current ended.2 (.leftFirst oneTag.host .previous .current p q w) ∧
      ended.1.EndLike .previous .current ended.2
        (.rightFirst oneTag.host .previous .current p q w) := by
  have hsite : Site oneTag.host Rehearsal.scratch Rehearsal.made Rehearsal.site :=
    Rehearsal.site_made rfl
  have hbelow : (Rehearsal.subject {}).packaging.IsBelowRoot := ⟨rfl, List.not_mem_nil⟩
  have hsecluded (revision : Revision) (reference : Reference) :
      (Rehearsal.subject {}).packaging.Secluded oneTag.host reference.name revision
        Rehearsal.scratch Rehearsal.made Rehearsal.site := Rehearsal.secluded revision reference
  have hprevious := hsecluded .previous ⟨"0.1.0", .tag, "a1"⟩
  have hcurrent := hsecluded .current ⟨"main", .branch, "b2"⟩
  exact ⟨hsite, hbelow, hprevious, hcurrent, by decide +kernel,
    builds_endLike hsite hbelow hprevious hcurrent rfl _ _⟩

/-! ## Ways from one clone to the other -/

/-- Both strands keep to their clones in a scratch directory, and still it makes a difference which of
them is first. -/
structure Interfere (packaging : Packaging) (host : Host) (previous current : Reference)
    (scratch : Path) (made : FileTree) (site : Place) : Prop where
  enters : Enters made mostLinks [] (host.place scratch) site
  keepsPrevious : packaging.KeepsToClone host previous.name .previous scratch made site
  keepsCurrent : packaging.KeepsToClone host current.name .current scratch made site
  otherwise :
    let p := packaging.build previous Revision.previous.name scratch
    let q := packaging.build current Revision.current.name scratch
    let first := JointEnding.leftFirst host .previous .current p q { files := made }
    let second := JointEnding.rightFirst host .previous .current p q { files := made }
    first.left ≠ second.left ∨
      ∃ place, first.world.files.get? place ≠ second.world.files.get? place

/-- Clones hold one entry, under the name of the manifest, and all other commands fail. -/
def cloning (entry : String → FileNode) : Host where
  runner := { respond := fun _ tree command =>
    match command.argv with
    | "git" :: "clone" :: _ :: reference :: rest =>
      (.ok { code := 0 }, tree.insert (Rehearsal.place (.ofString (rest.getLast?.getD "")) ++
        [Manifest.fileName]) (entry reference))
    | _ => (.ok { code := 1 }, tree) }
  cwd := []
  temporary := ⟨1, ["tmp"]⟩
  randomNames := ["0"]

theorem keepsToClone_cloning (packaging : Packaging) (entry : String → FileNode) (reference : String)
    (revision : Revision) (made : FileTree) :
    packaging.KeepsToClone (cloning entry) reference revision Rehearsal.scratch made
      Rehearsal.site where
  keeps command hwork := by
    cases hwork with
    | clone =>
      have hplace : Rehearsal.site ++ [revision.name] = Rehearsal.place
          (.ofString (toString (Rehearsal.scratch.child revision.name))) :=
        (Rehearsal.place_child revision).symm
      rw [hplace]
      exact .of_insert fun _ _ => rfl
    | rename dialect => cases dialect <;> exact .of_idle fun _ _ => rfl
    | install dialect => cases dialect <;> exact .of_idle fun _ _ => rfl
    | build dialect => cases dialect <;> exact .of_idle fun _ _ => rfl
    | pack dialect => cases dialect <;> exact .of_idle fun _ _ => rfl
  archive dialect events tree result _ := by
    intro command hreply hok
    cases dialect <;>
      · cases Except.ok.inj hreply
        cases hok

/-- A new scratch directory but for a link in the place of an archive, to where a clone will be. -/
def linked : FileTree :=
  Rehearsal.made.insert (Rehearsal.site ++ [Revision.previous.archiveName])
    (.link Revision.current.name)

theorem straight_linked : linked.Straight Rehearsal.site := by
  refine Packaging.Elsewhere.straight (fun place hplace => ?_) Rehearsal.straight_site
  rw [linked, get?_insert _ _ _ _ (by simp), if_neg]
  rintro rfl
  exact hplace ⟨.previous, territory_archive _ _⟩

theorem get?_linked_clone (revision : Revision) (place : Place)
    (hclone : Rehearsal.site ++ [revision.name] <+: place) : linked.get? place = none := by
  have hsite : Site oneTag.host Rehearsal.scratch Rehearsal.made Rehearsal.site :=
    Rehearsal.site_made rfl
  rw [linked, get?_insert _ _ _ _ (by simp), if_neg, hsite.free revision _ (territory_clone hclone)]
  rintro rfl
  have hname := eq_of_prefixes hclone (List.prefix_refl _)
  cases revision <;> exact absurd hname (by decide)

def isMissing : Except Halt Artifact → Bool
  | .error (.failure (.malformedManifest _)) => true
  | _ => false

def isLink : Option FileNode → Bool
  | some (.link _) => true
  | _ => false

/-- The strands interfere where the path of the package leads out of the clone, where a link that a
clone holds does, and where a link takes the archive of one to the clone of the other. -/
theorem interfere_cloning :
    Interfere ⟨⟨["repo"]⟩, ⟨0, ["..", "current"]⟩, 100⟩ (cloning fun _ => .file "\x7b\x7d".toUTF8)
        ⟨"0.1.0", .tag, "a1"⟩ ⟨"main", .branch, "b2"⟩ Rehearsal.scratch Rehearsal.made
          Rehearsal.site ∧
      Interfere ⟨⟨["repo"]⟩, ⟨0, []⟩, 100⟩ (cloning fun reference =>
          if reference = "main" then .file "\x7b\x7d".toUTF8 else .link "../current/package.json")
        ⟨"0.1.0", .tag, "a1"⟩ ⟨"main", .branch, "b2"⟩ Rehearsal.scratch Rehearsal.made
          Rehearsal.site ∧
      Interfere (Rehearsal.subject {}).packaging oneTag.host ⟨"0.1.0", .tag, "a1"⟩
        ⟨"main", .branch, "b2"⟩ Rehearsal.scratch linked Rehearsal.site := by
  have differ {α : Type} (test : α → Bool) {a b : α} (ha : test a = true) (hb : test b = false) :
      a ≠ b := by
    rintro rfl
    cases ha.symm.trans hb
  have henters {files : FileTree} (hstraight : files.Straight ([] ++ Rehearsal.site)) :
      Enters files mostLinks [] Rehearsal.site Rehearsal.site := hstraight.enters
  have hkeeps (revision : Revision) (reference : Reference) :
      (Rehearsal.subject {}).packaging.KeepsToClone oneTag.host reference.name revision
        Rehearsal.scratch linked Rehearsal.site :=
    Rehearsal.keepsToClone straight_linked get?_linked_clone revision reference
  refine ⟨⟨henters Rehearsal.straight_site, keepsToClone_cloning .., keepsToClone_cloning ..,
      .inl (differ isMissing (by decide +kernel) (by decide +kernel))⟩,
    ⟨henters Rehearsal.straight_site, keepsToClone_cloning .., keepsToClone_cloning ..,
      .inl (differ isMissing (by decide +kernel) (by decide +kernel))⟩,
    ⟨henters straight_linked, hkeeps .previous ⟨"0.1.0", .tag, "a1"⟩,
      hkeeps .current ⟨"main", .branch, "b2"⟩,
      .inr ⟨Rehearsal.site ++ [Revision.previous.archiveName], Ne.symm (differ isLink ?_ ?_)⟩⟩⟩
  · decide +kernel
  · decide +kernel

end Packaging

end NextRelease
