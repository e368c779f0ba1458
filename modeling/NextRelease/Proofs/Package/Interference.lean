import NextRelease.Proofs.Package.Requests
import NextRelease.Proofs.Package.Room
import NextRelease.Proofs.Run.Steady

/-! The strands that pack both revisions do not interfere. Where the commands of a strand keep to its
clone and nothing in it leads to what belongs to the other one, each strand is answered as if it were
alone, so in every order of turns both end as they do one after the other. -/

namespace NextRelease

open FileTree Script

def Revision.lane : Revision → Lane
  | previous => .previous
  | current => .current

structure Host.KeepsTo (host : Host) (directory : Place) (command : Command) : Prop where
  reply : ∀ events events' tree tree', AgreeOutside (fun place => ¬directory <+: place) tree tree' →
    (host.runner.respond events' tree' command).1 = (host.runner.respond events tree command).1
  effect : ∀ events events' tree tree', AgreeOutside (fun place => ¬directory <+: place) tree tree' →
    AgreeOutside (fun place => ¬directory <+: place) (host.runner.respond events tree command).2
      (host.runner.respond events' tree' command).2
  within : ∀ events tree, AgreeOutside (fun place => directory <+: place ∧ place ≠ directory) tree
    (host.runner.respond events tree command).2

namespace Packaging

/-- The package is at a place below the root of the repository. -/
structure IsBelowRoot (packaging : Packaging) : Prop where
  relative : packaging.packagePath.slashes = 0
  down : ".." ∉ packaging.packagePath.names

/-- A scratch directory in which nothing belongs to the revisions yet, with the place to which its path
leads. -/
structure Site (host : Host) (scratch : Path) (made : FileTree) (site : Place) : Prop where
  enters : Enters made mostLinks [] (host.place scratch) site
  free : ∀ revision place, Territory site revision place → made.get? place = none

def Inward (site : Place) (revision : Revision) (tree : FileTree) : Prop :=
  ∀ names, ".." ∉ names → ∀ place, tree.Looks mostLinks site (revision.name :: names) place →
    ¬Territory site revision.other place

def Located (packaging : Packaging) (host : Host) (revision : Revision) (scratch : Path) (site : Place)
    (dialect : Dialect) (result : CommandResult) (tree : FileTree) : Prop :=
  ∃ outcome, (∀ packed, outcome = .ok packed → site ++ [revision.name] <+: packed) ∧
    ∀ tree', AgreeOutside (Territory site revision.other) tree tree' →
      tree'.resolve host.cwd ((packaging.packageDirectory (scratch.child revision.name)).child
        (dialect.commands.packFilename.getD result.lastLine)) packaging.depth = outcome

def withClone (made : FileTree) (site : Place) (revision : Revision) : FileTree :=
  (made.insert (site ++ [revision.name]) .directory).stampNew (site ++ [revision.name])

inductive Reached (packaging : Packaging) (host : Host) (reference : String) (revision : Revision)
    (scratch : Path) (made : FileTree) (site : Place) : FileTree → Prop
  | new : Reached packaging host reference revision scratch made site (withClone made site revision)
  | run {command : Command} {tree : FileTree} (events : List Event) :
      packaging.Work reference revision scratch command →
        Reached packaging host reference revision scratch made site tree →
          Reached packaging host reference revision scratch made site
            (host.runner.respond events tree command).2

structure KeepsToClone (packaging : Packaging) (host : Host) (reference : String)
    (revision : Revision) (scratch : Path) (made : FileTree) (site : Place) : Prop where
  keeps : ∀ command, packaging.Work reference revision scratch command →
    host.KeepsTo (site ++ [revision.name]) command
  archive : ∀ (dialect : Dialect) events tree result,
    packaging.Reached host reference revision scratch made site tree →
      let command : Command :=
        ⟨dialect.commands.pack, packaging.packageDirectory (scratch.child revision.name)⟩
      (host.runner.respond events tree command).1 = .ok result → result.ok →
        dialect.commands.packFilename.getD result.lastLine ≠ "" →
          packaging.Located host revision scratch site dialect result
            (host.runner.respond events tree command).2

/-- They leave no way out of the clone to what belongs to the other revision either. -/
structure Secluded (packaging : Packaging) (host : Host) (reference : String) (revision : Revision)
    (scratch : Path) (made : FileTree) (site : Place) : Prop
    extends packaging.KeepsToClone host reference revision scratch made site where
  inward : ∀ tree, packaging.Reached host reference revision scratch made site tree →
    Inward site revision tree

def post (site : Place) (revision : Revision) : Post where
  lane := revision.lane
  other := revision.other.lane
  own := Territory site revision
  others := Territory site revision.other
  ne := by cases revision <;> decide
  apart _ h := h.disjoint

variable {packaging : Packaging} {host : Host} {reference : Reference} {revision : Revision}
  {scratch : Path} {made tree : FileTree} {site : Place} {dialect : Dialect}

theorem get?_withClone (made : FileTree) (site : Place) (revision : Revision) (place : Place) :
    (withClone made site revision).get? place =
      if place = site ++ [revision.name] then some .directory else made.get? place := by
  rw [withClone, get?_stampNew, get?_insert _ _ _ _ (by simp)]

theorem agree_withClone (made : FileTree) (site : Place) (revision : Revision) :
    AgreeOutside (Territory site revision) made (withClone made site revision) := by
  intro place hplace
  rw [get?_withClone, if_neg]
  rintro rfl
  exact hplace (territory_clone (List.prefix_refl _))

theorem not_prefix_archive : ¬site ++ [revision.name] <+: site ++ [revision.archiveName] := by
  intro hinside
  have hname := eq_of_prefixes hinside (List.prefix_refl _)
  cases revision <;> exact absurd hname (by decide)

/-! ## Alone -/

structure Alone (made : FileTree) (site : Place) (revision : Revision) (tree : FileTree) : Prop where
  agree : AgreeOutside (Territory site revision) made tree
  inward : Inward site revision tree

namespace Reached

variable (hkeeps : ∀ command, packaging.Work reference.name revision scratch command →
    host.KeepsTo (site ++ [revision.name]) command)
  (h : packaging.Reached host reference.name revision scratch made site tree)

include hkeeps h

theorem agree : AgreeOutside (Territory site revision) made tree := by
  induction h with
  | new => exact agree_withClone made site revision
  | run events hwork _ ih =>
    exact ih.trans (((hkeeps _ hwork).within events _).mono fun _ hinside =>
      territory_clone hinside.1)

theorem get?_clone : tree.get? (site ++ [revision.name]) = some .directory := by
  induction h with
  | new => rw [get?_withClone, if_pos rfl]
  | run events hwork _ ih => rw [(hkeeps _ hwork).within events _ _ fun hinside => hinside.2 rfl, ih]

theorem get?_archive (hsite : Site host scratch made site) :
    tree.get? (site ++ [revision.archiveName]) = none := by
  induction h with
  | new =>
    rw [get?_withClone, if_neg, hsite.free revision _ (territory_archive site revision)]
    intro heq
    exact not_prefix_archive ⟨[], (List.append_nil _).trans heq.symm⟩
  | run events hwork _ ih =>
    rw [(hkeeps _ hwork).within events _ _ fun hinside => not_prefix_archive hinside.1, ih]

end Reached

theorem Secluded.alone (h : packaging.Secluded host reference.name revision scratch made site)
    (hreached : packaging.Reached host reference.name revision scratch made site tree) :
    Alone made site revision tree :=
  ⟨hreached.agree h.keeps, h.inward tree hreached⟩

/-! ## Where a strand looks -/

namespace Site

variable (hsite : Site host scratch made site)

include hsite

theorem keepsWays (hagree : AgreeOutside (Territory site revision) made tree) :
    KeepsWays made tree := by
  intro place node _ hget
  rw [hagree place, hget]
  intro hterritory
  cases hget.symm.trans (hsite.free revision place hterritory)

theorem keepsWays_beside {tree' : FileTree} (hagree : AgreeOutside (Territory site revision) made tree)
    (hagree' : AgreeOutside (Territory site revision.other) tree tree') : KeepsWays made tree' :=
  fun place node hway hget =>
    (hagree' place fun hother => by cases hget.symm.trans (hsite.free _ _ hother)).trans
      (hsite.keepsWays hagree place node hway hget)

theorem enters_of_agree (hagree : AgreeOutside (Territory site revision) made tree) :
    Enters tree mostLinks [] (host.place scratch) site :=
  hsite.enters.mono (hsite.keepsWays hagree)

theorem enters_self : Enters made mostLinks [] site site := by
  have hstraight : made.Straight ([] ++ site) := hsite.enters.straight (straight_nil made)
  exact hstraight.enters

theorem looks {front names : List String} (hfront : Enters made mostLinks [] front site)
    (h : Alone made site revision tree) (hdown : ".." ∉ names) {place : Place}
    (hlooks : tree.Looks mostLinks [] (front ++ revision.name :: names) place) :
    ¬Territory site revision.other place := by
  obtain hmade | hlooks := hlooks.of_enters hfront (hsite.keepsWays h.agree)
  · exact fun hterritory => hmade (hsite.free _ _ hterritory)
  · exact h.inward names hdown place hlooks

theorem looks_entry (hbelow : packaging.IsBelowRoot) (h : Alone made site revision tree)
    {name : String} (hname : IsEntryName name) {place : Place}
    (hlooks : tree.Looks mostLinks [] (host.place
      ((packaging.packageDirectory (scratch.child revision.name)).child name)) place) :
    ¬Territory site revision.other place := by
  have hplace : host.place ((packaging.packageDirectory (scratch.child revision.name)).child name) =
      host.place scratch ++ revision.name :: (packaging.packagePath.names ++ [name]) :=
    calc
      _ = host.place (packaging.packageDirectory (scratch.child revision.name)) ++ [name] :=
        Path.names_route_child _ _ hname
      _ = _ := by
        rw [place_packageDirectory hbelow.relative]
        simp only [List.append_assoc, List.cons_append, List.nil_append]
  rw [hplace] at hlooks
  refine hsite.looks hsite.enters h ?_ hlooks
  simp only [List.mem_append, List.mem_singleton, not_or]
  exact ⟨hbelow.down, Ne.symm hname.2.1⟩

theorem looks_packed {packed : Place} (hinside : site ++ [revision.name] <+: packed)
    (hdown : ".." ∉ packed) (h : Alone made site revision tree) {place : Place}
    (hlooks : tree.Looks mostLinks [] packed place) : ¬Territory site revision.other place := by
  obtain ⟨names, rfl⟩ := hinside
  rw [List.append_assoc, List.singleton_append] at hlooks
  exact hsite.looks hsite.enters_self h
    (fun hmem => hdown (List.mem_append_right _ hmem)) hlooks

end Site

theorem Site.inward (hsite : Site host scratch made site)
    (hways : KeepsWays tree (withClone made site revision)) : Inward site revision tree := by
  have hclean : ¬Territory site revision.other (site ++ [revision.name]) :=
    (territory_clone (List.prefix_refl _)).disjoint
  have hown {rest : Place} : ¬Territory site revision.other (site ++ [revision.name] ++ rest) :=
    (territory_clone (List.prefix_append _ _)).disjoint
  have hclone : (withClone made site revision).get? (site ++ [revision.name]) = some .directory := by
    rw [get?_withClone, if_pos rfl]
  have hempty (name : String) :
      (withClone made site revision).get? (site ++ [revision.name] ++ [name]) = none := by
    rw [get?_withClone, if_neg (by simp)]
    exact hsite.free revision _ (territory_clone (List.prefix_append _ _))
  -- The clone is empty at first: no look-up gets beyond its entries, whatever is built there later.
  intro names hdown place hlooks
  have hlooks := hlooks.of_keepsWays hways
  have hname := revision.isEntryName_name.2.1
  generalize withClone made site revision = new at *
  generalize revision.name = name at *
  cases hlooks with
  | up => exact absurd rfl hname
  | entry => exact hclean
  | follow _ hlink => cases hclone.symm.trans hlink
  | into _ _ hlooks =>
    cases hlooks with
    | here => exact hclean
    | up => exact absurd List.mem_cons_self hdown
    | entry => exact hown
    | into _ hdirectory => cases (hempty _).symm.trans hdirectory
    | follow _ hlink => cases (hempty _).symm.trans hlink

/-! ## The requests of a strand -/

theorem steady_makeClone (hsite : Site host scratch made site) :
    (Request.makeDirectory (scratch.child revision.name)).Steady host (post site revision) (· = made)
      fun answer tree => ∀ value, answer = .ok value → tree = withClone made site revision := by
  rintro alone w rfl hagree
  have hclone : Territory site revision (site ++ [revision.name]) :=
    territory_clone (List.prefix_refl _)
  have hnone := hsite.free revision _ hclone
  have hfree (tree : FileTree) (henters : Enters tree mostLinks [] (host.place scratch) site)
      (hnone : tree.get? (site ++ [revision.name]) = none) :=
    makeDirectory_of_free henters (scratch.names_route_child host.cwd revision.isEntryName_name)
      revision.isEntryName_name.2 hnone
  have halone := hfree alone.files hsite.enters hnone
  have hw := hfree w.files (hsite.enters_of_agree hagree)
    ((hagree _ hclone.disjoint).trans hnone)
  refine Request.steadyAt_update
    (fun tree => tree.makeDirectory ((scratch.child revision.name).route host.cwd))
    (fun u => ⟨u.events, _, rfl⟩) hagree ?_
  cases hrefusal : refusal? ((scratch.child revision.name).route host.cwd) with
  | some fault =>
    rw [hrefusal] at halone hw
    exact .inl ⟨fault, halone, hw⟩
  | none =>
    rw [hrefusal] at halone hw
    refine .inr ⟨_, _, halone, hw, agree_withClone w.files site revision, fun place hplace => ?_, rfl⟩
    change (withClone w.files site revision).get? place =
      (withClone alone.files site revision).get? place
    rw [get?_withClone, get?_withClone, hagree place hplace]

theorem Secluded.steady_run (h : packaging.Secluded host reference.name revision scratch made site)
    {command : Command} (hwork : packaging.Work reference.name revision scratch command) :
    (Request.run command).Steady host (post site revision)
      (packaging.Reached host reference.name revision scratch made site) fun reply tree =>
        packaging.Reached host reference.name revision scratch made site tree ∧
          ∃ events before, packaging.Reached host reference.name revision scratch made site before ∧
            (reply, tree) = host.runner.respond events before command := by
  intro alone w hreached hagree
  have hkeeps := h.keeps command hwork
  have hclone : AgreeOutside (fun place => ¬site ++ [revision.name] <+: place) alone.files w.files :=
    fun place hplace => hagree place (territory_clone (Decidable.not_not.1 hplace)).disjoint
  have hwithin := hkeeps.within alone.events alone.files
  refine ⟨hkeeps.reply _ _ _ _ hclone,
    (hkeeps.within _ _).mono fun _ hinside => territory_clone hinside.1, fun place hplace => ?_,
    .run _ hwork hreached, _, _, hreached, rfl⟩
  by_cases hinside : site ++ [revision.name] <+: place
  · exact hkeeps.effect _ _ _ _ hclone place (not_not_intro hinside)
  · exact (hkeeps.within _ _ place fun h => hinside h.1).trans
      ((hagree place hplace).trans (hwithin place fun h => hinside h.1).symm)

theorem Secluded.calm_run (h : packaging.Secluded host reference.name revision scratch made site)
    {command : Command} (hwork : packaging.Work reference.name revision scratch command) :
    (Request.run command).Calm host (post site revision)
      (packaging.Reached host reference.name revision scratch made site) :=
  fun alone w hholds hagree =>
    let hsteady := h.steady_run hwork alone w hholds hagree
    ⟨hsteady.answer, hsteady.own, hsteady.files, hsteady.after.1⟩

theorem agree_moved {packed : Place} (hinside : site ++ [revision.name] <+: packed)
    {content : ByteArray} (hsource : tree.get? packed = some (.file content)) :
    AgreeOutside (Territory site revision) tree
      ((((tree.erase packed).restrict (· != site ++ [revision.archiveName])).insert
        (site ++ [revision.archiveName]) (.file content)).stampNew
          (site ++ [revision.archiveName])) := by
  intro place hplace
  rw [get?_moved hsource (by simp), if_neg, if_neg]
  · rintro rfl
    exact hplace (territory_clone hinside)
  · rintro rfl
    exact hplace (territory_archive site revision)

theorem steady_deliver (hsite : Site host scratch made site)
    (h : packaging.Secluded host reference.name revision scratch made site) {packed : Place}
    (hinside : site ++ [revision.name] <+: packed) :
    (Request.move packed (archivePath scratch revision.name)).Steady host (post site revision)
      (packaging.Reached host reference.name revision scratch made site)
      fun answer tree => ∀ value, answer = .ok value → Alone made site revision tree := by
  intro alone w hreached hagree
  have hholds := h.alone hreached
  have hnone := hreached.get?_archive h.keeps hsite
  have hpath : archivePath scratch revision.name = scratch.child revision.archiveName := rfl
  rw [hpath]
  have harchive := territory_archive site revision
  have hpacked : Territory site revision packed := territory_clone hinside
  have hfree (tree : FileTree) (henters : Enters tree mostLinks [] (host.place scratch) site)
      (hnone : tree.get? (site ++ [revision.archiveName]) = none) :=
    moveFile_of_free henters (scratch.names_route_child host.cwd revision.isEntryName_archive)
      revision.isEntryName_archive.2 hnone packed
  have halone := hfree alone.files (hsite.enters_of_agree hholds.agree) hnone
  have hw := hfree w.files (hsite.enters.mono (hsite.keepsWays_beside hholds.agree hagree))
    ((hagree _ harchive.disjoint).trans hnone)
  rw [hagree packed hpacked.disjoint] at hw
  refine Request.steadyAt_update
    (fun tree => tree.moveFile packed ((scratch.child revision.archiveName).route host.cwd))
    (fun u => ⟨_, _, by rw [Request.perform, World.record]⟩) hagree ?_
  cases hrefusal : refusal? ((scratch.child revision.archiveName).route host.cwd) with
  | some fault =>
    rw [hrefusal] at halone hw
    exact .inl ⟨fault, halone, hw⟩
  | none =>
    rw [hrefusal] at halone hw
    cases hsource : alone.files.get? packed with
    | none =>
      rw [hsource] at halone hw
      exact .inl ⟨.notFound, halone, hw⟩
    | some node =>
      rw [hsource] at halone hw
      cases node with
      | file content =>
        have hsource' := (hagree packed hpacked.disjoint).trans hsource
        refine .inr ⟨_, _, halone, hw, agree_moved hinside hsource', fun place hplace => ?_,
          hholds.agree.trans (agree_moved hinside hsource), fun names hdown place hlooks => ?_⟩
        · have hne : site ++ [revision.archiveName] ≠ [] := by simp
          rw [get?_moved hsource hne, get?_moved hsource' hne, hagree place hplace]
        · exact hholds.inward names hdown place
            (hlooks.of_keepsWays (changesFiles_moveFile halone).keepsWays)
      | directory => exact .inl ⟨.notFound, halone, hw⟩
      | link target => exact .inl ⟨.notFound, halone, hw⟩
      | device device => exact .inl ⟨.notFound, halone, hw⟩

/-! ## The stages of a strand -/

section Stages

theorem steady_resolve {result : CommandResult} {holds : FileTree → Prop} :
    (Script.resolve ((packaging.packageDirectory (scratch.child revision.name)).child
        (dialect.commands.packFilename.getD result.lastLine)) packaging.depth).Steady host
      (post site revision)
      (fun tree => packaging.Located host revision scratch site dialect result tree ∧
        holds tree)
      fun packed tree => (site ++ [revision.name] <+: packed ∧ ".." ∉ packed) ∧ holds tree := by
  refine steady_files ?_
  rintro alone w ⟨⟨outcome, hinside, hresolve⟩, hholds⟩ hagree
  have halone := hresolve alone.files (.refl _ _)
  have hw := hresolve w.files hagree
  constructor <;> simp only [Request.perform, World.fst_look, World.files_look]
  · exact hw.trans halone.symm
  · exact .refl _ _
  · exact hagree
  · intro packed hpacked
    exact ⟨⟨hinside packed (halone.symm.trans hpacked), not_mem_of_resolve hpacked⟩, hholds⟩

variable (hsite : Site host scratch made site) (hbelow : packaging.IsBelowRoot)

include hsite hbelow

theorem calm_looks {name : String} (hname : IsEntryName name)
    {holds : FileTree → Prop} (hholds : ∀ tree, holds tree → Alone made site revision tree) :
    let path := (packaging.packageDirectory (scratch.child revision.name)).child name
    (Request.status path).Calm host (post site revision) holds ∧
      (Request.read path).Calm host (post site revision) holds :=
  ⟨Request.calm_status fun _ h _ => hsite.looks_entry hbelow (hholds _ h) hname,
    Request.calm_read fun _ h _ => hsite.looks_entry hbelow (hholds _ h) hname⟩

theorem steady_loadClone {holds : FileTree → Prop}
    (hholds : ∀ tree, holds tree → Alone made site revision tree) (depth : Nat) :
    (Manifest.load ((packaging.packageDirectory (scratch.child revision.name)).child
        Manifest.fileName) depth).Steady host (post site revision) holds fun _ => holds :=
  have hlooks := calm_looks hsite hbelow Manifest.isEntryName_fileName hholds
  Only.steady (Manifest.only_load hlooks.1 hlooks.2 depth)

variable (h : packaging.Secluded host reference.name revision scratch made site)

include h

omit hsite hbelow in
theorem steady_report :
    (run dialect.commands.pack (packaging.packageDirectory (scratch.child revision.name))).Steady host
      (post site revision) (packaging.Reached host reference.name revision scratch made site)
      fun result tree =>
        (result.ok → dialect.commands.packFilename.getD result.lastLine ≠ "" →
          packaging.Located host revision scratch site dialect result tree) ∧
        packaging.Reached host reference.name revision scratch made site tree := by
  refine steady_run fun alone w hreached hagree => ?_
  have hsteady := h.steady_run (.pack dialect) alone w hreached hagree
  refine ⟨hsteady.answer, hsteady.own, hsteady.files, fun result hresult => ?_⟩
  obtain ⟨hreached', events, before, hbefore, hreply⟩ := hsteady.after
  obtain ⟨hreply, htree⟩ := Prod.mk.inj hreply
  rw [htree] at hreached' ⊢
  exact ⟨h.archive dialect events before result hbefore (hreply.symm.trans hresult), hreached'⟩

omit hbelow in
theorem steady_pack :
    (pack (packaging.packageDirectory (scratch.child revision.name))
        (archivePath scratch revision.name) dialect reference.name packaging.depth).Steady host
      (post site revision) (packaging.Reached host reference.name revision scratch made site)
      fun _ => Alone made site revision := by
  refine steady_bind (Only.steady (only_note (Request.calm_note _ _))) fun _ => ?_
  refine steady_bind (steady_report h) fun result => ?_
  split
  · exact steady_halt
  next hok =>
  dsimp only
  split
  · exact steady_halt
  next hne =>
  refine (steady_bind steady_resolve fun packed => steady_of_and ?_).mono
    (fun tree hholds => ⟨hholds.1 (by simpa using hok) hne, hholds.2⟩) fun _ _ => id
  rintro ⟨hinside, hdown⟩
  have hplace : host.place (.ofPlace packed) = packed := rfl
  refine steady_bind (Only.steady (only_isFile (Request.calm_status fun tree hholds place hlooks =>
    hsite.looks_packed hinside hdown (h.alone hholds) (hplace ▸ hlooks)))) fun found => ?_
  split
  · exact steady_bind (steady_files (steady_deliver hsite h hinside)) fun _ =>
      steady_bind (Only.steady (only_note (Request.calm_note _ _))) fun _ => steady_done fun _ => id
  · exact steady_halt

theorem steady_build :
    (packaging.build reference revision.name scratch).Steady host (post site revision) (· = made)
      fun _ => Alone made site revision := by
  have hnote (level : Level) (text : String) : (Request.note level text).Calm host
      (post site revision) (packaging.Reached host reference.name revision scratch made site) :=
    Request.calm_note level text
  have halone : ∀ tree, packaging.Reached host reference.name revision scratch made site tree →
      Alone made site revision tree := fun _ => h.alone
  have hlooks {name : String} (hname : IsEntryName name) := calm_looks hsite hbelow hname halone
  have hclone : (files (.makeDirectory (scratch.child revision.name))).Steady host
      (post site revision) (· = made) fun _ tree => tree = withClone made site revision :=
    steady_files (steady_makeClone hsite)
  refine steady_bind (hclone.mono (fun _ => id) fun _ tree htree => htree ▸ .new) fun _ =>
    steady_bind (Only.steady (Repository.only_clone hnote _ (h.calm_run .clone))) fun _ =>
    steady_bind (steady_loadClone hsite hbelow halone _) fun _ => ?_
  refine steady_bind (Only.steady (Dialect.only_detectAmong fun marker hmarker =>
    (hlooks (Dialect.isEntryName_of_mem hmarker)).1)) fun dialect =>
    steady_bind (Only.steady (only_note (hnote _ _))) fun _ => ?_
  refine steady_bind (Only.steady (only_rename hnote (h.calm_run (.rename dialect)))) fun _ =>
    steady_bind (Only.steady (only_install hnote (h.calm_run (.install dialect)))) fun _ => ?_
  refine steady_bind (Only.steady (only_runBuild hnote (hlooks Manifest.isEntryName_fileName).1
    (hlooks Manifest.isEntryName_fileName).2 (h.calm_run (.build dialect)) _)) fun _ =>
    steady_bind (steady_pack hsite h) fun _ => ?_
  refine steady_bind (steady_loadClone hsite hbelow (fun _ => id) _) fun manifest => ?_
  dsimp only
  split
  · exact steady_halt
  · exact steady_done fun _ => id

end Stages

end Packaging

end NextRelease
