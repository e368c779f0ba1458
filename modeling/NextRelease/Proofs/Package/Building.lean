import NextRelease.Proofs.Package.Room

/-! Packing succeeds. Where the commands work in its clone, a strand comes to an artifact, whatever
the other strand does meanwhile, and the artifact has the version that the clone declares. -/

namespace NextRelease

open FileTree Script

section

variable {host : Host} {lane : Lane} {others own : Place → Prop} {before : FileTree → Prop}

theorem Manifest.brings_load {path : Path} {depth least : Nat} {version : Option Version}
    (directory : Place) {name : String} (hbefore : Apart others before)
    (hplace : ¬others (directory ++ [name]))
    (h : ∀ tree, before tree → tree.Entry (path.route host.cwd) directory name ∧
      ∃ content, tree.get? (directory ++ [name]) = some (.file content) ∧
        Readable content version least)
    (hdepth : depth = least ∨ depth = least - 1) :
    (load path depth).Brings host lane others own before fun manifest tree =>
      Declares manifest version ∧ before tree := by
  have hlink (tree : FileTree) (hw : before tree) (target : String) :
      tree.get? (directory ++ [name]) ≠ some (.link target) := by
    obtain ⟨_, content, hget, _⟩ := h tree hw
    simp [hget]
  refine brings_bind _ (brings_isFile hbefore hplace fun tree hw => ⟨(h tree hw).1, hlink tree hw⟩)
    fun found => ?_
  have hfound (tree : FileTree) (hw : found = tree.holdsFile (directory ++ [name]) ∧ before tree) :
      found = true := by
    obtain ⟨_, content, hget, _⟩ := h tree hw.2
    rw [hw.1, holdsFile, hget]
  refine brings_of_holds (fun tree hw => ⟨hfound tree hw, hw.2⟩) fun hfound => ?_
  rw [if_pos hfound]
  refine brings_bind (fun text tree =>
    (∃ manifest, Declares manifest version ∧ parse text "" depth = .ok manifest) ∧ before tree)
    (brings_readText hbefore (fun _ => (apart_const _ _).and hbefore) fun tree hw => ?_)
    fun text => brings_of_and ?_
  · obtain ⟨hentry, content, hget, text, manifest, htext, hdeclares, hparse, hparse'⟩ := h tree hw
    refine ⟨content, text, hentry.read hget, htext, ⟨manifest, hdeclares, ?_⟩, hw⟩
    obtain rfl | rfl := hdepth
    · exact hparse
    · exact hparse'
  · rintro ⟨manifest, hdeclares, hparse⟩
    exact brings_ofExcept hbefore (parse_ok hparse) fun tree hw => ⟨hdeclares, hw⟩

theorem Dialect.brings_detectAmong {path : Path} (directory : Place)
    {markers : List (String × Dialect)} (hbefore : Apart others before)
    (hplace : ∀ marker ∈ markers, ¬others (directory ++ [marker.1]))
    (h : ∀ tree, before tree → ∀ marker ∈ markers,
      tree.Entry ((path.child marker.1).route host.cwd) directory marker.1 ∧
        ∀ target, tree.get? (directory ++ [marker.1]) ≠ some (.link target)) :
    (detectAmong path markers).Brings host lane others own before fun dialect tree =>
      dialect = ((markers.find? fun marker => tree.holdsFile (directory ++ [marker.1])).map
        (·.2)).getD npm ∧ before tree := by
  induction markers generalizing before with
  | nil => exact brings_done hbefore fun tree hw => ⟨rfl, hw⟩
  | cons marker markers ih =>
    have hplace' := hplace marker List.mem_cons_self
    refine brings_bind _ (brings_isFile hbefore hplace' fun tree hw => h tree hw marker
      List.mem_cons_self) fun found => ?_
    have hlater : Apart others fun tree =>
        found = tree.holdsFile (directory ++ [marker.1]) ∧ before tree :=
      Apart.and (fun tree tree' hagree hfound => by
        rw [hfound, holdsFile, holdsFile, hagree _ hplace']) hbefore
    cases found with
    | true =>
      rw [if_pos rfl]
      exact brings_done hlater fun tree hw => ⟨by simp [← hw.1], hw.2⟩
    | false =>
      rw [if_neg Bool.false_ne_true]
      refine (ih hlater (fun marker' hmem => hplace marker' (List.mem_cons_of_mem _ hmem))
        fun tree hw marker' hmem => h tree hw.2 marker' (List.mem_cons_of_mem _ hmem)).mono
        (fun _ => id) fun dialect tree hw => ⟨?_, hw.2.2⟩
      rw [List.find?_cons, ← hw.2.1]
      exact hw.1

end

namespace Packaging

theorem brings_works {host : Host} {lane : Lane} {others own : Place → Prop} {β : Type}
    {frame inner : FileTree → Prop} {after : CommandResult → FileTree → Prop}
    {final : β → FileTree → Prop} {clone : Place} {argv : List String} {cwd : Path}
    {next : CommandResult → Script β} (hown : ∀ place, clone <+: place → own place)
    (hframe : Apart others frame) (hclone : Apart (clone <+: ·) frame)
    (hinner : Apart others inner) (hafter : ∀ result, Apart others (after result))
    (h : ∀ tree, frame tree → inner tree → Works host clone argv cwd tree after)
    (hnext : ∀ result : CommandResult, result.ok → (next result).Brings host lane others own
      (fun tree => frame tree ∧ after result tree) final) :
    (run argv cwd >>= next).Brings host lane others own (fun tree => frame tree ∧ inner tree)
      final := by
  refine brings_bind (fun result tree => result.ok = true ∧ frame tree ∧ after result tree)
    (brings_run (hframe.and hinner)
      (fun result => (apart_const _ _).and (hframe.and (hafter result))) fun events tree hw => ?_)
    fun result => brings_of_and (hnext result)
  obtain ⟨result, tree', hrespond, hok, hagree, hresult⟩ := h tree hw.1 hw.2 events
  exact ⟨result, tree', hrespond, hagree.mono hown, hok, hclone _ _ hagree hw.1, hresult⟩

variable {packaging : Packaging} {host : Host} {lane : Lane} {scratch : Path} {made : FileTree}
  {revision : Revision} {version : Option Version} {dialect : Dialect} {reference : Reference}
  {cloned : Place → FileTree → Prop}

theorem territory_entry {names : List String} {name : String} :
    Territory (host.place scratch) revision (clonePlace host scratch revision ++ names ++ [name]) :=
  territory_clone ((List.prefix_append _ _).trans (List.prefix_append _ _))

structure NewClone (tree : FileTree) (clone : Place) : Prop where
  directory : tree.get? clone = some .directory
  empty : ∀ other, clone <+: other → other ≠ clone → tree.get? other = none

theorem apart_newClone (clone : Place) :
    Apart (fun place => ¬clone <+: place) (NewClone · clone) := by
  intro tree tree' hagree h
  refine ⟨?_, fun other hother hne => ?_⟩
  · rw [hagree _ (not_not_intro (List.prefix_refl _)), h.directory]
  · rw [hagree _ (not_not_intro hother), h.empty other hother hne]

theorem Around.straight (hroom : packaging.Room host scratch made) {tree : FileTree}
    (h : Around made (host.place scratch) revision tree)
    (hget : tree.get? (clonePlace host scratch revision) = some .directory) :
    tree.Straight (clonePlace host scratch revision) :=
  (h.1.straight hroom.straight).child revision.isEntryName_name.2 hget

theorem brings_makeClone (hroom : packaging.Room host scratch made) :
    (files (.makeDirectory (scratch.child revision.name))).Brings host lane
      (Territory (host.place scratch) revision.other) (Territory (host.place scratch) revision)
      (fun tree => Elsewhere made (host.place scratch) tree ∧
        ∀ place, Territory (host.place scratch) revision place → tree.get? place = none)
      fun _ tree => Around made (host.place scratch) revision tree ∧
        NewClone tree (clonePlace host scratch revision) := by
  refine brings_files ((apart_elsewhere revision.other fun _ => id).and ?_)
    (fun _ => apart_around_other.and (apart_of_clone (apart_newClone _))) fun w hw => ?_
  · intro tree tree' hagree hempty place hplace
    rw [hagree _ hplace.disjoint, hempty place hplace]
  · obtain ⟨helsewhere, hempty⟩ := hw
    have hclone : Territory (host.place scratch) revision (clonePlace host scratch revision) :=
      territory_clone (List.prefix_refl _)
    obtain ⟨tree, hmade, hget⟩ := (hroom.entry helsewhere revision.isEntryName_name
      (hroom.revisions revision _ (by simp [Revision.entries]))).makeDirectory (hempty _ hclone)
    refine ⟨(), { w with files := tree }, by simp [Request.perform, hmade, World.update],
      fun place hplace => ?_, ⟨fun place hplace => ?_, ?_⟩, ?_, fun other hother hne => ?_⟩
    · rw [hget, if_neg (by rintro rfl; exact hplace hclone)]
    · rw [hget, if_neg (by rintro rfl; exact hplace ⟨revision, hclone⟩)]
      exact helsewhere place hplace
    · rw [hget, if_neg, hempty _ (territory_archive _ revision)]
      intro heq
      cases revision <;> simp [Revision.archiveName, packageName, Revision.name] at heq
    · rw [hget, if_pos rfl]
    · rw [hget, if_neg hne, hempty other (territory_clone hother)]

theorem brings_clone (hclones : Clones host packaging reference.name revision version dialect cloned)
    (hroom : packaging.Room host scratch made) :
    (packaging.repo.clone reference.name (scratch.child revision.name)).Brings host lane
      (Territory (host.place scratch) revision.other) (Territory (host.place scratch) revision)
      (fun tree => Around made (host.place scratch) revision tree ∧
        NewClone tree (clonePlace host scratch revision))
      fun _ tree => Around made (host.place scratch) revision tree ∧
        cloned (clonePlace host scratch revision) tree ∧
        packaging.Fresh dialect tree (clonePlace host scratch revision) := by
  have hparent : (scratch.child revision.name).parent = scratch := by
    simp [scratch.child_eq revision.isEntryName_name, Path.parent]
  have hinner : Apart (Territory (host.place scratch) revision.other)
      (NewClone · (clonePlace host scratch revision)) := apart_of_clone (apart_newClone _)
  have hafter : Apart (Territory (host.place scratch) revision.other) fun tree =>
      cloned (clonePlace host scratch revision) tree ∧
        packaging.Fresh dialect tree (clonePlace host scratch revision) :=
    apart_of_clone ((hclones.apart _).and (apart_fresh _))
  refine brings_bind _ (brings_info (apart_around_other.and hinner)) fun _ => ?_
  rw [hparent]
  refine brings_works (fun _ => territory_clone) apart_around_other apart_around_clone hinner
    (fun _ => hafter) (fun tree haround hw => ?_) fun result hok => ?_
  · obtain ⟨name, hname, rfl⟩ := hroom.named
    exact hclones.clone name hname tree (haround.straight hroom hw.directory) hw.empty
  rw [if_pos hok]
  exact brings_info (apart_around_other.and hafter)

def AtWork (host : Host) (scratch : Path) (made : FileTree) (revision : Revision)
    (cloned : Place → FileTree → Prop) (tree : FileTree) : Prop :=
  Around made (host.place scratch) revision tree ∧ cloned (clonePlace host scratch revision) tree

theorem apart_atWork (hclones : Clones host packaging reference.name revision version dialect cloned) :
    Apart (Territory (host.place scratch) revision.other)
      (AtWork host scratch made revision cloned) :=
  apart_around_other.and (apart_of_clone (hclones.apart _))

theorem AtWork.entry (hclones : Clones host packaging reference.name revision version dialect cloned)
    (hroom : packaging.Room host scratch made) {tree : FileTree}
    (h : AtWork host scratch made revision cloned tree) {name : String} (hname : IsEntryName name)
    (haccepts : host.Accepts
      ((packaging.packageDirectory (scratch.child revision.name)).child name)) :
    tree.Entry (((packaging.packageDirectory (scratch.child revision.name)).child name).route
        host.cwd) (clonePlace host scratch revision ++ packaging.packagePath.names) name :=
  hroom.entry_package h.1.1 (hclones.checkout _ _ h.2).directories hname haccepts

theorem brings_step (hclones : Clones host packaging reference.name revision version dialect cloned)
    (hroom : packaging.Room host scratch made) {argv : List String} {β : Type}
    {next : CommandResult → Script β} {final : β → FileTree → Prop}
    (hargv : argv ∈ [dialect.commands.rename ++ ["name=" ++ packageName revision.name],
      dialect.commands.install, dialect.commands.build])
    (hnext : ∀ result : CommandResult, result.ok → (next result).Brings host lane
      (Territory (host.place scratch) revision.other) (Territory (host.place scratch) revision)
      (AtWork host scratch made revision cloned) final) :
    (run argv (packaging.packageDirectory (scratch.child revision.name)) >>= next).Brings host lane
      (Territory (host.place scratch) revision.other) (Territory (host.place scratch) revision)
      (AtWork host scratch made revision cloned) final := by
  refine brings_works (fun _ => territory_clone) apart_around_other apart_around_clone
    (apart_of_clone (hclones.apart _)) (fun _ => apart_of_clone (hclones.apart _))
    (fun tree haround hcloned => ?_) hnext
  have hclone := (hclones.checkout _ _ hcloned).directories [] List.nil_prefix
  rw [List.append_nil] at hclone
  obtain ⟨name, hname, rfl⟩ := hroom.named
  exact hclones.step name hname tree argv hargv (haround.straight hroom hclone) hcloned

theorem brings_rename (hclones : Clones host packaging reference.name revision version dialect cloned)
    (hroom : packaging.Room host scratch made) :
    (rename (packaging.packageDirectory (scratch.child revision.name)) (packageName revision.name)
        dialect reference.name).Brings host lane
      (Territory (host.place scratch) revision.other) (Territory (host.place scratch) revision)
      (AtWork host scratch made revision cloned)
      fun _ => AtWork host scratch made revision cloned := by
  refine brings_bind _ (brings_info (apart_atWork hclones)) fun _ =>
    brings_step hclones hroom (by simp) fun result hok => ?_
  rw [if_pos hok]
  exact brings_done (apart_atWork hclones) fun _ => id

theorem brings_install (hclones : Clones host packaging reference.name revision version dialect cloned)
    (hroom : packaging.Room host scratch made) :
    (install (packaging.packageDirectory (scratch.child revision.name)) dialect reference.name
        false).Brings host lane
      (Territory (host.place scratch) revision.other) (Territory (host.place scratch) revision)
      (AtWork host scratch made revision cloned)
      fun _ => AtWork host scratch made revision cloned := by
  refine brings_bind _ (brings_info (apart_atWork hclones)) fun _ =>
    brings_step hclones hroom (by simp) fun result hok => ?_
  rw [if_pos hok]
  exact brings_info (apart_atWork hclones)

theorem brings_loadClone (hroom : packaging.Room host scratch made) {depth : Nat}
    (hdepth : depth = packaging.depth ∨ depth = packaging.depth - 1)
    {frame : FileTree → Prop} (hframe : Apart (Territory (host.place scratch) revision.other) frame)
    (hatWork : ∀ tree, frame tree → Elsewhere made (host.place scratch) tree ∧
      packaging.Checkout version tree (clonePlace host scratch revision)) :
    (Manifest.load ((packaging.packageDirectory (scratch.child revision.name)).child
        Manifest.fileName) depth).Brings host lane
      (Territory (host.place scratch) revision.other) (Territory (host.place scratch) revision)
      frame fun manifest tree => Manifest.Declares manifest version ∧ frame tree := by
  refine Manifest.brings_load (clonePlace host scratch revision ++
    packaging.packagePath.names) hframe ?_ (fun tree hw => ⟨?_, (hatWork tree hw).2.manifest⟩) hdepth
  · exact territory_entry.disjoint
  · exact hroom.entry_package (hatWork tree hw).1 (hatWork tree hw).2.directories
      Manifest.isEntryName_fileName (hroom.package revision _ (by simp))

theorem brings_runBuild (hclones : Clones host packaging reference.name revision version dialect cloned)
    (hroom : packaging.Room host scratch made) :
    (runBuild (packaging.packageDirectory (scratch.child revision.name)) dialect reference.name
        (packaging.depth - 1)).Brings host lane
      (Territory (host.place scratch) revision.other) (Territory (host.place scratch) revision)
      (AtWork host scratch made revision cloned)
      fun _ => AtWork host scratch made revision cloned := by
  refine brings_bind _ (brings_loadClone hroom (.inr rfl) (apart_atWork hclones)
    fun tree hw => ⟨hw.1.1, hclones.checkout _ _ hw.2⟩) fun manifest => brings_of_and fun _ => ?_
  split
  · refine brings_bind _ (brings_info (apart_atWork hclones)) fun _ =>
      brings_step hclones hroom (by simp) fun result hok => ?_
    rw [if_pos hok]
    exact brings_info (apart_atWork hclones)
  · exact brings_info (apart_atWork hclones)

def Reported (packaging : Packaging) (host : Host) (scratch : Path) (made : FileTree)
    (revision : Revision) (version : Option Version) (dialect : Dialect) (result : CommandResult)
    (tree : FileTree) : Prop :=
  Around made (host.place scratch) revision tree ∧
    packaging.Checkout version tree (clonePlace host scratch revision) ∧
    packaging.Archived host (packaging.packageDirectory (scratch.child revision.name)) dialect
      result tree (clonePlace host scratch revision)

def Delivered (packaging : Packaging) (host : Host) (scratch : Path) (made : FileTree)
    (revision : Revision) (version : Option Version) (tree : FileTree) : Prop :=
  Elsewhere made (host.place scratch) tree ∧
    packaging.Checkout version tree (clonePlace host scratch revision)

theorem apart_reported {result : CommandResult} :
    Apart (Territory (host.place scratch) revision.other)
      (packaging.Reported host scratch made revision version dialect result) :=
  apart_around_other.and (apart_of_clone ((apart_checkout _).and (apart_archived _)))

theorem apart_delivered :
    Apart (Territory (host.place scratch) revision.other)
      (packaging.Delivered host scratch made revision version) :=
  (apart_elsewhere revision.other fun _ => id).and (apart_of_clone (apart_checkout _))

theorem Archived.ne_empty {directory : Path} {result : CommandResult} {tree : FileTree}
    {clone : Place} (h : packaging.Archived host directory dialect result tree clone) :
    dialect.commands.packFilename.getD result.lastLine ≠ "" := by
  intro hempty
  have hname := h.name.1
  rw [hempty, show Path.ofString "" = ⟨0, []⟩ by cbv] at hname
  cases hname

theorem clonePlace_append_ne (rest : Place) :
    clonePlace host scratch revision ++ rest ≠ host.place scratch ++ [revision.archiveName] := by
  intro heq
  have hinside : host.place scratch ++ [revision.name] <+:
      host.place scratch ++ [revision.archiveName] := ⟨rest, heq⟩
  have hname := eq_of_prefixes hinside (List.prefix_refl _)
  cases revision <;> exact absurd hname (by decide)

def MoveEnd (packaging : Packaging) (host : Host) (scratch : Path) (revision : Revision)
    (name : String) (place : Place) : Prop :=
  place = host.place scratch ++ [revision.archiveName] ∨
    place = clonePlace host scratch revision ++ packaging.packagePath.names ++ [name]

theorem MoveEnd.territory {name : String} {place : Place}
    (h : packaging.MoveEnd host scratch revision name place) :
    Territory (host.place scratch) revision place := by
  obtain rfl | rfl := h
  · exact territory_archive _ revision
  · exact territory_entry

theorem not_moveEnd {name : String} {rest : Place}
    (h : rest ≠ packaging.packagePath.names ++ [name]) :
    ¬packaging.MoveEnd host scratch revision name (clonePlace host scratch revision ++ rest) := by
  rintro (hmade | hpacked)
  · exact clonePlace_append_ne rest hmade
  · exact h (by simpa using hpacked)

theorem Reported.moveFile (hroom : packaging.Room host scratch made) {tree : FileTree}
    {result : CommandResult}
    (h : packaging.Reported host scratch made revision version dialect result tree) :
    ∃ tree', tree.moveFile (clonePlace host scratch revision ++ packaging.packagePath.names ++
        [dialect.commands.packFilename.getD result.lastLine])
        ((archivePath scratch revision.name).route host.cwd) = .ok tree' ∧
      AgreeOutside (packaging.MoveEnd host scratch revision
        (dialect.commands.packFilename.getD result.lastLine)) tree tree' := by
  obtain ⟨⟨helsewhere, harchive⟩, -, harchived⟩ := h
  obtain ⟨content, hfile⟩ := harchived.file
  have hentry := hroom.entry helsewhere revision.isEntryName_archive
    (hroom.revisions revision _ (by simp [Revision.entries]))
  obtain ⟨tree', hmoved, hget⟩ := hentry.moveFile harchive hfile
  refine ⟨tree', hmoved, fun place hplace => ?_⟩
  rw [hget, if_neg fun heq => hplace (.inl heq), if_neg fun heq => hplace (.inr heq)]

theorem Reported.delivered {tree tree' : FileTree} {result : CommandResult}
    (h : packaging.Reported host scratch made revision version dialect result tree)
    (hmoved : AgreeOutside (packaging.MoveEnd host scratch revision
      (dialect.commands.packFilename.getD result.lastLine)) tree tree') :
    packaging.Delivered host scratch made revision version tree' := by
  obtain ⟨⟨helsewhere, -⟩, hcheckout, harchived⟩ := h
  refine ⟨fun place hplace => ?_, fun front hfront => ?_, ?_⟩
  · rw [hmoved place fun hend => hplace ⟨revision, hend.territory⟩, helsewhere place hplace]
  · rw [hmoved _ (not_moveEnd ?_), hcheckout.directories front hfront]
    rintro rfl
    have hlength := hfront.length_le
    rw [List.length_append, List.length_singleton] at hlength
    omega
  · obtain ⟨manifest, hmanifest, hreadable⟩ := hcheckout.manifest
    have hsame : tree'.get? (clonePlace host scratch revision ++ packaging.packagePath.names ++
        [Manifest.fileName]) = tree.get? (clonePlace host scratch revision ++
          packaging.packagePath.names ++ [Manifest.fileName]) := by
      rw [List.append_assoc]
      exact hmoved _ (not_moveEnd fun heq => harchived.other (by simpa using heq.symm))
    exact ⟨manifest, hsame.trans hmanifest, hreadable⟩

theorem brings_deliver (hroom : packaging.Room host scratch made) {result : CommandResult} :
    (files (.move (clonePlace host scratch revision ++ packaging.packagePath.names ++
        [dialect.commands.packFilename.getD result.lastLine])
        (archivePath scratch revision.name))).Brings host lane
      (Territory (host.place scratch) revision.other) (Territory (host.place scratch) revision)
      (packaging.Reported host scratch made revision version dialect result)
      fun _ => packaging.Delivered host scratch made revision version := by
  refine brings_files apart_reported (fun _ => apart_delivered) fun w hw => ?_
  obtain ⟨tree, hmoved, hagree⟩ := hw.moveFile hroom
  refine ⟨(), ⟨tree, w.events ++ [.move lane (clonePlace host scratch revision ++
    packaging.packagePath.names ++ [dialect.commands.packFilename.getD result.lastLine])
      (archivePath scratch revision.name)]⟩, ?_, hagree.mono fun _ => MoveEnd.territory,
    hw.delivered hagree⟩
  simp only [Request.perform, World.record, World.update, hmoved]

theorem Reported.entry (hroom : packaging.Room host scratch made) {tree : FileTree}
    {result : CommandResult}
    (h : packaging.Reported host scratch made revision version dialect result tree) {path : Path}
    (hnames : host.place path = clonePlace host scratch revision ++
      packaging.packagePath.names ++ [dialect.commands.packFilename.getD result.lastLine])
    (haccepts : host.Accepts path) :
    tree.Entry (path.route host.cwd)
      (clonePlace host scratch revision ++ packaging.packagePath.names)
      (dialect.commands.packFilename.getD result.lastLine) :=
  ⟨hroom.straight_package h.1.1 h.2.1.directories, hnames, h.2.2.name.2, haccepts⟩

theorem Reported.noLink {tree : FileTree} {result : CommandResult}
    (h : packaging.Reported host scratch made revision version dialect result tree)
    (target : String) : tree.get? (clonePlace host scratch revision ++
      packaging.packagePath.names ++ [dialect.commands.packFilename.getD result.lastLine]) ≠
        some (.link target) := by
  obtain ⟨content, hfile⟩ := h.2.2.file
  rw [hfile]
  exact fun heq => nomatch heq

theorem Reported.holdsFile {tree : FileTree} {result : CommandResult}
    (h : packaging.Reported host scratch made revision version dialect result tree) :
    tree.holdsFile (clonePlace host scratch revision ++ packaging.packagePath.names ++
      [dialect.commands.packFilename.getD result.lastLine]) = true := by
  obtain ⟨content, hfile⟩ := h.2.2.file
  rw [FileTree.holdsFile, hfile]

theorem brings_resolve (hroom : packaging.Room host scratch made) {result : CommandResult}
    (depth : Nat) :
    (resolve ((packaging.packageDirectory (scratch.child revision.name)).child
        (dialect.commands.packFilename.getD result.lastLine)) depth).Brings host lane
      (Territory (host.place scratch) revision.other) (Territory (host.place scratch) revision)
      (packaging.Reported host scratch made revision version dialect result)
      fun packed tree => packed = clonePlace host scratch revision ++
          packaging.packagePath.names ++ [dialect.commands.packFilename.getD result.lastLine] ∧
        packaging.Reported host scratch made revision version dialect result tree := by
  refine brings_files apart_reported (fun _ => (apart_const _ _).and apart_reported) fun w hw =>
    ⟨_, w, ?_, AgreeOutside.refl _ _, rfl, hw⟩
  have hentry := Reported.entry hroom hw ((Path.names_route_child _ _ hw.2.2.name).trans
    (congrArg (· ++ _) hroom.names_directory)) hw.2.2.accepted.1
  simp only [Request.perform]
  rw [hentry.resolve (Reported.noLink hw), World.look_ok]

theorem brings_pack (hclones : Clones host packaging reference.name revision version dialect cloned)
    (hroom : packaging.Room host scratch made) (depth : Nat) :
    (pack (packaging.packageDirectory (scratch.child revision.name))
        (archivePath scratch revision.name) dialect reference.name depth).Brings host lane
      (Territory (host.place scratch) revision.other) (Territory (host.place scratch) revision)
      (AtWork host scratch made revision cloned)
      fun _ => packaging.Delivered host scratch made revision version := by
  have hreported (result : CommandResult) : Apart (Territory (host.place scratch) revision.other)
      fun tree => packaging.Checkout version tree (clonePlace host scratch revision) ∧
        packaging.Archived host (packaging.packageDirectory (scratch.child revision.name)) dialect
          result tree (clonePlace host scratch revision) :=
    apart_of_clone ((apart_checkout _).and (apart_archived _))
  refine brings_bind _ (brings_info (apart_atWork hclones)) fun _ => brings_works
    (fun _ => territory_clone) apart_around_other apart_around_clone
    (apart_of_clone (hclones.apart _)) hreported (fun tree haround hcloned => ?_)
    fun result hok => ?_
  · have hclone := (hclones.checkout _ _ hcloned).directories [] List.nil_prefix
    rw [List.append_nil] at hclone
    obtain ⟨name, hname, rfl⟩ := hroom.named
    exact hclones.pack name hname tree (haround.straight hroom hclone) hcloned
  simp only [hok, Bool.not_true, Bool.false_eq_true, if_false]
  refine brings_of_holds (fun tree hw => ⟨hw.2.2.ne_empty, hw⟩) fun hne => ?_
  rw [if_neg hne]
  refine brings_bind _ (brings_resolve hroom depth) fun packed => brings_of_and ?_
  rintro rfl
  refine brings_bind _ (brings_isFile apart_reported territory_entry.disjoint fun tree hw =>
    ⟨Reported.entry hroom hw rfl hw.2.2.accepted.2, Reported.noLink hw⟩) fun found => ?_
  refine brings_of_holds (fun tree hw => ⟨hw.1.trans (Reported.holdsFile hw.2), hw.2⟩)
    fun hfound => ?_
  rw [if_pos hfound]
  exact brings_bind _ (brings_deliver hroom) fun _ => brings_bind _ (brings_info apart_delivered)
    fun _ => brings_done apart_delivered fun _ => id

theorem brings_build (lane : Lane)
    (hclones : Clones host packaging reference.name revision version dialect cloned)
    (hroom : packaging.Room host scratch made) :
    (packaging.build reference revision.name scratch).Brings host lane
      (Territory (host.place scratch) revision.other) (Territory (host.place scratch) revision)
      (fun tree => Elsewhere made (host.place scratch) tree ∧
        ∀ place, Territory (host.place scratch) revision place → tree.get? place = none)
      fun artifact tree => (artifact.version = version.map (fun v => String.ofList v.render) ∧
        ∀ v ∈ version, v.isPrintable) ∧ Elsewhere made (host.place scratch) tree := by
  refine brings_bind _ (brings_makeClone hroom) fun _ =>
    brings_bind _ (brings_clone hclones hroom) fun _ => ?_
  have hfresh : Apart (Territory (host.place scratch) revision.other) fun tree =>
      Around made (host.place scratch) revision tree ∧
        cloned (clonePlace host scratch revision) tree ∧
        packaging.Fresh dialect tree (clonePlace host scratch revision) :=
    apart_around_other.and (apart_of_clone ((hclones.apart _).and (apart_fresh _)))
  refine brings_bind _ (brings_loadClone hroom (.inl rfl) hfresh
    fun tree hw => ⟨hw.1.1, hclones.checkout _ _ hw.2.1⟩) fun _ => brings_of_and fun _ => ?_
  refine brings_bind (fun found tree => found = dialect ∧
      AtWork host scratch made revision cloned tree)
    ((Dialect.brings_detectAmong (clonePlace host scratch revision ++
      packaging.packagePath.names) hfresh ?_ ?_).mono (fun _ => id) ?_)
    fun found => brings_of_and ?_
  · exact fun marker _ => territory_entry.disjoint
  · intro tree hw marker hmarker
    exact ⟨AtWork.entry hclones hroom ⟨hw.1, hw.2.1⟩ (Dialect.isEntryName_of_mem hmarker)
      (hroom.package revision _ (List.mem_cons_of_mem _ (List.mem_map_of_mem hmarker))),
      hw.2.2.noLink marker hmarker⟩
  · rintro found tree ⟨rfl, hw⟩
    exact ⟨hw.2.2.locked, hw.1, hw.2.1⟩
  rintro rfl
  refine brings_bind _ (brings_info (apart_atWork hclones)) fun _ =>
    brings_bind _ (brings_rename hclones hroom) fun _ =>
    brings_bind _ (brings_install hclones hroom) fun _ =>
    brings_bind _ (brings_runBuild hclones hroom) fun _ =>
    brings_bind _ (brings_pack hclones hroom _) fun _ => ?_
  refine brings_bind _ (brings_loadClone hroom (.inl rfl) apart_delivered fun _ => id)
    fun manifest => brings_of_and fun hdeclares => ?_
  simp only [Manifest.declaredVersion_of_declares _ hdeclares]
  exact brings_done apart_delivered fun tree hw => ⟨⟨rfl, hdeclares.isPrintable⟩, hw.1⟩

end Packaging

end NextRelease
