import NextRelease.Proofs.Decision.Working
import NextRelease.Proofs.Run.Territory

/-! What a decision does outside its scratch directory. Where the commands keep to that directory,
each place outside of it stays as it was, unless what a package manager reported as its archive was
a file there: such a file is moved into the scratch directory and removed with it. -/

namespace NextRelease

open FileTree Script

def FileTree.InScratch (host : Host) (tree : FileTree) (record : List Event) (place : Place) : Prop :=
  ∃ scratch directory, .scratch scratch ∈ record ∧
    tree.locateEntry (scratch.route host.cwd) = .ok directory ∧ directory <+: place ∧
      place ≠ directory

/-- The commands of a record keep to the scratch directory: what each of them changes is inside it,
and where a decision is to put files of its own they put plain files or nothing. -/
structure Host.KeepsToScratch (host : Host) (w : World) (record : List Event) : Prop where
  grounded : w.files.Grounded
  grounds : host.Kept FileTree.Grounded w.events record
  inside : ∀ front lane command before reply rest,
    record = front ++ .command lane command before reply :: rest →
      AgreeOutside (InScratch host w.files front) before
        (host.runner.respond (w.events ++ front) before command).2
  plain : ∀ scratch, .scratch scratch ∈ record → ∀ name ∈ scratchFiles,
    host.Kept (·.Plain (scratchRoute host scratch name)) w.events record

/-- A file was to be moved away from a place. -/
def Taken (place : Place) (record : List Event) : Prop :=
  ∃ lane destination, .move lane place destination ∈ record

theorem Taken.mono {place : Place} {record record' : List Event} (h : Taken place record)
    (hsub : record ⊆ record') : Taken place record' := by
  rcases h with ⟨lane, destination, hmem⟩
  exact ⟨lane, destination, hsub hmem⟩

/-! ## A tree around a scratch directory -/

structure FileTree.Fresh (made : FileTree) (route : Route) (directory : Place) : Prop where
  enters : Enters made mostLinks [] route.names directory
  self : made.get? directory = some .directory
  empty : ∀ place, directory <+: place → place ≠ directory → made.get? place = none

structure Encloses (host : Host) (scratch : Path) (directory : Place) (made : FileTree)
    (record : List Event) (tree : FileTree) : Prop where
  self : tree.get? directory = some .directory
  plain : ∀ name ∈ scratchFiles, tree.Plain (scratchRoute host scratch name)
  outside : ∀ place, ¬directory <+: place → tree.get? place = made.get? place ∨
    tree.get? place = none ∧ (∃ content, made.get? place = some (.file content)) ∧
      Taken place record

section Enclosing

variable {host : Host} {scratch : Path} {directory : Place} {made tree tree' : FileTree}
  {record record' : List Event}

theorem fresh_of_makeDirectory {route : Route} (hgrounded : tree.Grounded)
    (h : tree.makeDirectory route = .ok made) :
    ∃ directory, tree.locateEntry route = .ok directory ∧ made.Fresh route directory ∧
      ∀ place, made.get? place = if place = directory then some .directory else tree.get? place := by
  obtain ⟨directory, hlocate, hnone, hmade⟩ := makeDirectory_eq_ok h
  have hget (place : Place) :
      made.get? place = if place = directory then some .directory else tree.get? place := by
    rw [hmade, get?_makeDirectory hnone]
  have hways : KeepsWays tree made := hmade ▸ keepsWays_makeDirectory hnone
  have hwalks := (locateEntry_eq_ok_iff.1 hlocate).2
  refine ⟨directory, hlocate, ⟨?_, by rw [hget, if_pos rfl], fun place hbelow hne => ?_⟩, hget⟩
  · exact hwalks.enters hways (by rw [hget, if_pos rfl])
  · rw [hget, if_neg hne, hgrounded.get?_below hnone hbelow]

namespace Encloses

theorem enters (h : Encloses host scratch directory made record tree)
    (hfresh : made.Fresh (scratch.route host.cwd) directory) :
    Enters tree mostLinks [] (scratch.route host.cwd).names directory := by
  refine hfresh.enters.mono fun place node hway hget => ?_
  by_cases hbelow : directory <+: place
  · by_cases hself : place = directory
    · subst hself
      rwa [h.self, ← hfresh.self]
    · rw [hfresh.empty place hbelow hself] at hget
      cases hget
  · rcases h.outside place hbelow with hsame | ⟨_, ⟨content, hfile⟩, _⟩
    · rw [hsame, hget]
    · cases hget.symm.trans hfile
      cases hway

variable (hfresh : made.Fresh (scratch.route host.cwd) directory)

include hfresh

theorem workplace (h : Encloses host scratch directory made record tree) :
    Workplace host scratch directory tree := ⟨h.enters hfresh, h.plain⟩

theorem write (h : Encloses host scratch directory made record tree) {name : String}
    (hname : name ∈ scratchFiles) {content : ByteArray}
    (hwrite : tree.write (scratchRoute host scratch name) content = .ok tree') :
    Encloses host scratch directory made record tree' := by
  obtain ⟨hwork, hget⟩ := (h.workplace hfresh).write hname hwrite
  refine ⟨?_, hwork.plain, fun other hother => ?_⟩
  · rw [hget, if_neg (by simp), h.self]
  · rw [hget, if_neg (not_prefix_child hother name)]
    exact h.outside other hother

theorem makeDirectory (h : Encloses host scratch directory made record tree)
    {revision : Revision}
    (hmade : tree.makeDirectory ((scratch.child revision.name).route host.cwd) = .ok tree') :
    Encloses host scratch directory made record tree' := by
  obtain ⟨hwork, hget⟩ := (h.workplace hfresh).makeDirectory hmade
  refine ⟨?_, hwork.plain, fun other hother => ?_⟩
  · rw [hget, if_neg (by simp), h.self]
  · rw [hget, if_neg (not_prefix_child hother _)]
    exact h.outside other hother

theorem moveFile (h : Encloses host scratch directory made record tree) {name : String}
    (hname : name ∈ scratchFiles) {source : Place} (htaken : Taken source record)
    (hmove : tree.moveFile source (scratchRoute host scratch name) = .ok tree') :
    Encloses host scratch directory made record tree' := by
  obtain ⟨hwork, _, content, hsource, hget⟩ := (h.workplace hfresh).moveFile hname hmove
  refine ⟨?_, hwork.plain, fun other hother => ?_⟩
  · have hne : directory ≠ source := by
      rintro rfl
      cases h.self.symm.trans hsource
    rw [hget, if_neg (by simp), if_neg hne, h.self]
  · rw [hget, if_neg (not_prefix_child hother name)]
    split
    · next hother' =>
      subst hother'
      rcases h.outside other hother with hsame | ⟨hnone, _⟩
      · exact .inr ⟨rfl, ⟨content, hsame ▸ hsource⟩, htaken⟩
      · cases hnone.symm.trans hsource
    · exact h.outside other hother

theorem removeTree (h : Encloses host scratch directory made record tree) {place : Place}
    (hplace : ¬directory <+: place) :
    (tree.removeTree (scratch.route host.cwd)).2.get? place = tree.get? place :=
  (h.workplace hfresh).removeTree hplace

end Encloses

end Enclosing

/-! ## The work -/

structure Host.StaysInside (host : Host) (scratch : Path) (directory : Place)
    (past record : List Event) : Prop where
  inside : ∀ front lane command before reply rest,
    record = front ++ .command lane command before reply :: rest →
      AgreeOutside (fun place => directory <+: place ∧ place ≠ directory) before
        (host.runner.respond (past ++ front) before command).2
  plain : ∀ name ∈ scratchFiles, host.Kept (·.Plain (scratchRoute host scratch name)) past record

theorem Host.StaysInside.of_append_left {host : Host} {scratch : Path} {directory : Place}
    {past front rest : List Event} (h : host.StaysInside scratch directory past (front ++ rest)) :
    host.StaysInside scratch directory past front where
  inside before lane command tree reply rest' hrecord :=
    h.inside before lane command tree reply (rest' ++ rest) (by rw [hrecord]; simp)
  plain name hname := (h.plain name hname).of_append_left

def World.Enclosed (host : Host) (scratch : Path) (directory : Place) (made w : World) : Prop :=
  ∃ record, w.events = made.events ++ record ∧
    (host.StaysInside scratch directory made.events record →
      Encloses host scratch directory made.files record w.files)

section Work

variable {host : Host} {scratch : Path} {directory : Place} {made : World}

theorem Encloses.command {past record : List Event} {tree before : FileTree} {lane : Lane}
    {command : Command} {reply : Reply}
    (h : Encloses host scratch directory tree record before)
    (hinside : host.StaysInside scratch directory past
      (record ++ [.command lane command before reply])) :
    Encloses host scratch directory tree record
      (host.runner.respond (past ++ record) before command).2 := by
  have hagree := hinside.inside record lane command before reply [] rfl
  refine ⟨?_, fun name hname => ?_, fun place hplace => ?_⟩
  · rw [hagree directory fun hbelow => hbelow.2 rfl, h.self]
  · exact hinside.plain name hname record lane command before reply [] rfl (h.plain name hname)
  · rw [hagree place fun hbelow => hplace hbelow.1]
    exact h.outside place hplace

theorem Encloses.mono {record record' : List Event} {tree tree' : FileTree}
    (h : Encloses host scratch directory tree record tree') (hsub : record ⊆ record') :
    Encloses host scratch directory tree record' tree' where
  self := h.self
  plain := h.plain
  outside place hplace :=
    (h.outside place hplace).imp_right fun ⟨hnone, hfile, htaken⟩ =>
      ⟨hnone, hfile, htaken.mono hsub⟩

theorem Request.Works.keeps_enclosed (hfresh : made.files.Fresh (scratch.route host.cwd) directory)
    {β : Type} {request : Request β} (h : request.Works scratch) :
    request.Keeps host (made.Enclosed host scratch directory) := by
  rintro lane w ⟨record, hevents, hencloses⟩
  refine ⟨record ++ request.record host lane w, ?_, fun hinside => ?_⟩
  · rw [request.events_perform, hevents, List.append_assoc]
  have hw := hencloses hinside.of_append_left
  have hlater := hw.mono (List.subset_append_left record (request.record host lane w))
  have hlooks (h : request.Looks fun _ => False) := h.files_perform host lane w
  cases request with
  | run command =>
    have hafter := hw.command hinside
    rw [← hevents] at hafter
    exact hafter.mono (List.subset_append_left record _)
  | removeTree path => exact h.elim
  | write path content =>
    obtain ⟨name, hname, rfl⟩ := h
    exact w.files_update_ok _ hlater fun _ hwrite => hlater.write hfresh hname hwrite
  | makeDirectory path =>
    obtain ⟨revision, rfl⟩ := h
    exact w.files_update_ok _ hlater fun _ hmade => hlater.makeDirectory hfresh hmade
  | move source destination =>
    -- The destination stays a variable, or the tree would be computed.
    obtain ⟨revision, hdestination⟩ := h
    refine World.files_update_ok (w := w.record (.move lane source destination)) _ hlater
      fun _ hmove => ?_
    rw [hdestination] at hmove
    refine hlater.moveFile hfresh (archiveName_mem revision) ?_ hmove
    exact ⟨lane, destination, List.mem_append_right record List.mem_cons_self⟩
  | _ => exact hlooks trivial ▸ hlater

end Work

/-! ## The decision -/

/-- What became of the places outside the scratch directories of a record: each is as it was, or a
file was moved away from it and nothing is there any more. -/
def FileTree.KeptOutside (host : Host) (record : List Event) (tree tree' : FileTree) : Prop :=
  ∀ place, (∀ scratch directory, .scratch scratch ∈ record →
      tree.locateEntry (scratch.route host.cwd) = .ok directory → ¬directory <+: place) →
    tree'.get? place = tree.get? place ∨ tree'.get? place = none ∧
      (∃ content, tree.get? place = some (.file content)) ∧ Taken place record

section Decision

variable {host : Host} {w v w' : World} {record front rest : List Event}

theorem Host.KeepsToScratch.of_append_left (h : host.KeepsToScratch w (front ++ rest)) :
    host.KeepsToScratch w front where
  grounded := h.grounded
  grounds := h.grounds.of_append_left
  inside before lane command tree reply rest' hrecord :=
    h.inside before lane command tree reply (rest' ++ rest) (by rw [hrecord]; simp)
  plain scratch hscratch name hname :=
    (h.plain scratch (List.mem_append_left _ hscratch) name hname).of_append_left

theorem Host.KeepsToScratch.looked (h : host.KeepsToScratch w record) (hlooked : w.Looked host v)
    (hevents : v.events = w.events ++ record) (hnone : ∀ scratch, .scratch scratch ∉ record) :
    v.files.Grounded ∧ ∀ place, v.files.get? place = w.files.get? place := by
  refine ⟨hlooked.keeps h.grounded hevents h.grounds, ?_⟩
  have hkept : host.Kept (AgreeOutside (fun _ => False) w.files) w.events record := by
    intro before lane command tree reply rest' hrecord hagree
    refine hagree.trans fun place _ => h.inside before lane command tree reply rest' hrecord place ?_
    rintro ⟨scratch, _, hscratch, _⟩
    exact hnone scratch (by rw [hrecord]; exact List.mem_append_left _ hscratch)
  have hsame := hlooked.keeps (AgreeOutside.refl _ _) hevents hkept
  exact fun place => hsame place not_false

theorem locateEntry_congr {tree tree' : FileTree} (h : ∀ place, tree'.get? place = tree.get? place)
    {route : Route} {place : Place} (hlocate : tree'.locateEntry route = .ok place) :
    tree.locateEntry route = .ok place := by
  rw [locateEntry_eq_ok_iff] at hlocate ⊢
  exact ⟨hlocate.1, hlocate.2.mono (fun other _ _ hget => (h other).symm.trans hget) (h place).symm⟩

theorem Host.KeepsToScratch.staysInside {scratch : Path} {directory : Place} {text : String}
    {worked : List Event} {made : World}
    (h : host.KeepsToScratch w
      (front ++ .scratch scratch :: .note .main .debug text :: (worked ++ rest)))
    (hevents : made.events = w.events ++ (front ++ [.scratch scratch, .note .main .debug text]))
    (hfront : ∀ other, .scratch other ∉ front) (hworked : ∀ other, .scratch other ∉ worked)
    (hplace : w.files.locateEntry (scratch.route host.cwd) = .ok directory) :
    host.StaysInside scratch directory made.events worked := by
  have hrecord : front ++ .scratch scratch :: .note .main .debug text :: (worked ++ rest) =
      (front ++ [.scratch scratch, .note .main .debug text]) ++ (worked ++ rest) := by simp
  refine ⟨fun before lane command tree reply rest' hsplit place hplace' => ?_,
    fun name hname => ?_⟩
  · rw [hevents, List.append_assoc]
    refine h.inside _ lane command tree reply (rest' ++ rest) ?_ place ?_
    · rw [hrecord, hsplit]
      simp
    · rintro ⟨other, directory', hother, hlocate, hinside⟩
      have hsame : other = scratch := by
        rcases List.mem_append.1 hother with hother | hother
        · rcases List.mem_append.1 hother with hother | hother
          · exact absurd hother (hfront other)
          · simpa using hother
        · exact absurd (hsplit ▸ List.mem_append_left _ hother) (hworked other)
      subst hsame
      obtain rfl : directory = directory' := Except.ok.inj (hplace.symm.trans hlocate)
      exact hplace' hinside
  · have hkept := h.plain scratch (by simp) name hname
    rw [hrecord] at hkept
    rw [hevents]
    exact hkept.of_append_right.of_append_left

theorem Decision.Went.keptOutside {s : Subject} (h : Went s host w record w')
    (hevents : w'.events = w.events ++ record) (hkeeps : host.KeepsToScratch w record) :
    w.files.KeptOutside host record w'.files := by
  cases h with
  | looked hlooked hnone =>
    exact fun place _ => .inl ((hkeeps.looked hlooked hevents hnone).2 place)
  | @worked front worked rest scratch text previous current v made removed _ gone hlooked hfront hnone
      hmake hmade hworked hclean hremove hsame _ =>
    obtain ⟨hgrounded, hsameFront⟩ := hkeeps.of_append_left.looked hlooked hfront hnone
    obtain ⟨_, hmakes, _⟩ := Scratch.make_ok hmake
    obtain ⟨directory, hlocate, hfresh, hget⟩ := fresh_of_makeDirectory hgrounded hmakes
    have hplace := locateEntry_congr hsameFront hlocate
    have hinside := hkeeps.staysInside (by rw [hmade, hfront, List.append_assoc]) hnone hclean hplace
    have hbegin : Encloses host scratch directory made.files [] made.files := by
      refine ⟨hfresh.self, fun name hname => ?_, fun _ _ => .inl rfl⟩
      have hentry := isEntryName_scratchFiles hname
      exact hgrounded.plain_of_makeDirectory hmakes hentry.2 (names_scratchRoute host scratch hentry)
    obtain ⟨worked', hworked', hencloses⟩ := preserves_examine
      (fun _ hrequest => hrequest.keeps_enclosed hfresh) s previous current made
      ⟨[], (List.append_nil _).symm, fun _ => hbegin⟩
    obtain rfl : worked' = worked := List.append_cancel_left (hworked'.symm.trans hworked)
    have hafter := hencloses hinside
    intro place houtside
    have hbeside : ¬directory <+: place := houtside scratch directory (by simp) hplace
    have hremoved : w'.files.get? place =
        (examine s previous current scratch host made).2.files.get? place := by
      rw [hsame]
      exact holds_removeTree (·.get? place = _) hremove rfl (hafter.removeTree hfresh hbeside)
    have hbefore : made.files.get? place = w.files.get? place := by
      have hne : place ≠ directory := by
        rintro rfl
        exact hbeside (List.prefix_refl _)
      rw [hget, if_neg hne, hsameFront]
    rw [hremoved, ← hbefore]
    refine (hafter.outside place hbeside).imp_right fun ⟨hgone, hfile, htaken⟩ => ?_
    exact ⟨hgone, hfile, htaken.mono fun _ hmem => by simp [hmem]⟩

end Decision

namespace Decision

/-- However a decision ends, if the commands kept to the scratch directory, each place outside of it is
as it was, unless a file was moved away from there. -/
theorem keptOutside_of_decide (s : Subject) (host : Host) (w : World) :
    (decide s).Ensures host w fun _ record w' =>
      host.KeepsToScratch w record → w.files.KeptOutside host record w'.files :=
  (went_of_decide s host w).recorded.mono fun _ _ _ ⟨hwent, hevents⟩ => hwent.keptOutside hevents

/-- Where the rehearsed commands clone to. -/
def cloneFor (current : Bool) : Place :=
  ["tmp", "liskov-semver-0", if current then "current" else "previous"]

/-- A repository that has gone on since its only tag. A clone is given a manifest, packing puts an
archive into it, and a text is reported as the name of the archive. -/
def packing (reported : String) : Host where
  runner := ⟨fun _ tree command =>
    let reply (out : String) : Reply := .ok { code := 0, out }
    match command.argv with
    | "git" :: "tag" :: _ => (reply "0.1.0\n", tree)
    | "git" :: "branch" :: _ => (reply "main\n", tree)
    | ["git", "rev-parse", _, _, name] => (reply (if name.length = 13 then "b\n" else "a\n"), tree)
    | "git" :: "clone" :: _ :: name :: _ =>
      (reply "", tree.addFile (cloneFor (name == "main")) Manifest.fileName "{}".toUTF8)
    | ["npm", "pack"] =>
      (reply reported, tree.addFile (cloneFor (command.cwd.names.contains "current")) "package.tgz"
        .empty)
    | _ => (reply "", tree)⟩
  cwd := []
  temporary := ⟨1, ["tmp"]⟩
  randomNames := ["0"]

/-- A working tree with one file, beside the directory for scratch directories. -/
def noted : World where
  files := { entries := [(["repo"], .directory), (["repo", "notes"], .file "kept".toUTF8),
    (["tmp"], .directory)] }

/-- The package at the root of that working tree. -/
def notedSubject : Subject := ⟨⟨["repo"]⟩, ⟨0, []⟩, {}, Manifest.depthLimit - 1⟩

section Packing

variable {reported : String}

theorem packing_cases (reported : String) (past : List Event) (tree : FileTree) (command : Command) :
    ((packing reported).runner.respond past tree command).2 = tree ∨
      ∃ current name content, ((packing reported).runner.respond past tree command).2 =
        tree.addFile (cloneFor current) name content := by
  simp only [packing]
  split
  · exact .inl rfl
  · exact .inl rfl
  · exact .inl rfl
  · exact .inr ⟨_, _, _, rfl⟩
  · exact .inr ⟨_, _, _, rfl⟩
  · exact .inl rfl

theorem packing_query {past : List Event} {tree : FileTree} {command : Command}
    (h : Repository.IsQuery command.argv) :
    ((packing reported).runner.respond past tree command).2 = tree := by
  obtain ⟨argv, cwd⟩ := command
  cases h <;> rfl

theorem agreeOutside_packing (past : List Event) (tree : FileTree) (command : Command) :
    AgreeOutside (fun place => ["tmp", "liskov-semver-0"] <+: place ∧
      place ≠ ["tmp", "liskov-semver-0"]) tree
      ((packing reported).runner.respond past tree command).2 := by
  obtain hsame | ⟨current, _, _, hadded⟩ := packing_cases reported past tree command
  · rw [hsame]
    exact .refl _ _
  · rw [hadded]
    refine (agreeOutside_addFile _ _ _ _).mono fun place hclone => ?_
    refine ⟨(List.prefix_append _ [_]).trans hclone, ?_⟩
    rintro rfl
    exact absurd hclone.length_le (by simp [cloneFor])

theorem kept_packing {holds : FileTree → Prop}
    (h : ∀ tree directory name content, holds tree → holds (tree.addFile directory name content))
    (past record : List Event) : (packing reported).Kept holds past record :=
  Host.kept_of_addFile (fun past tree command =>
    (packing_cases reported past tree command).imp_right fun ⟨_, hadded⟩ => ⟨_, hadded⟩) h past record

theorem keepsToScratch_packing {record : List Event}
    (hguarded : Guarded (notedSubject.Admits (packing reported)) [] record)
    (hmade : ∀ scratch, .scratch scratch ∈ record → scratch = .ofPlace ["tmp", "liskov-semver-0"]) :
    (packing reported).KeepsToScratch noted record where
  grounded := by
    refine grounded_of_forall rfl fun entry hentry => ?_
    simp only [noted, List.mem_cons, List.not_mem_nil, or_false] at hentry
    rcases hentry with rfl | rfl | rfl <;> rfl
  grounds := kept_packing (fun _ _ _ _ h => h.addFile _ _ _) _ _
  plain _ _ _ _ := kept_packing (fun tree _ _ _ => (changesFiles_addFile tree _ _ _).plain) _ _
  inside front lane command before reply rest hrecord := by
    have hinside : notedSubject.IsInside := ⟨rfl, List.not_mem_nil⟩
    obtain ⟨-, hquery | ⟨scratch, hscratch, -⟩⟩ :=
      (hguarded front _ rest hrecord).confines hinside
    · rw [packing_query hquery.words]
      exact .refl _ _
    · obtain rfl := hmade scratch (hrecord ▸ List.mem_append_left _ hscratch)
      exact (agreeOutside_packing _ _ _).mono fun place hplace =>
        ⟨_, _, hscratch, rfl, hplace.1, hplace.2⟩

def endsPacked (ended : Except Halt Decision × World) : Bool :=
  (match ended.1 with
    | .ok d => d.reason == .computed
    | .error _ => false) &&
  ended.2.events.all (fun event =>
    match event with
    | .scratch scratch => scratch == .ofPlace ["tmp", "liskov-semver-0"]
    | _ => true) &&
  [false, true].all fun current => ended.2.events.any fun event =>
    match event with
    | .move _ source _ => source == cloneFor current ++ ["package.tgz"]
    | _ => false

theorem packed_of_endsPacked {ended : Except Halt Decision × World} (h : endsPacked ended) :
    ∃ d w', ended = (.ok d, w') ∧ d.reason = .computed ∧
      (∀ scratch, .scratch scratch ∈ w'.events → scratch = .ofPlace ["tmp", "liskov-semver-0"]) ∧
      ∀ current, Taken (cloneFor current ++ ["package.tgz"]) w'.events := by
  obtain ⟨result, w'⟩ := ended
  simp only [endsPacked, Bool.and_eq_true, List.all_eq_true] at h
  obtain ⟨⟨hcomputed, hmade⟩, htaken⟩ := h
  cases result with
  | error cause => cases hcomputed
  | ok d =>
    refine ⟨d, w', rfl, by simpa using hcomputed, fun scratch hscratch => ?_, fun current => ?_⟩
    · simpa using hmade _ hscratch
    · obtain ⟨event, hevent, hsource⟩ := List.any_eq_true.1 (htaken current (by cases current <;> simp))
      split at hsource
      · next lane source destination =>
        rw [← eq_of_beq hsource]
        exact ⟨lane, destination, hevent⟩
      · cases hsource

/-- Where the archives are reported that were packed in the clones, the decision is computed and
nothing outside its scratch directory has changed. -/
theorem keptOutside_of_decide_packed :
    let host := packing "package.tgz\n"
    ∃ d w', decide notedSubject host noted = (.ok d, w') ∧ d.reason = .computed ∧
      (∀ current, Taken (cloneFor current ++ ["package.tgz"]) w'.events) ∧
      host.KeepsToScratch noted w'.events ∧ noted.files.KeptOutside host w'.events w'.files := by
  intro host
  have hends : endsPacked (decide notedSubject host noted) := by decide +kernel
  obtain ⟨record, hevents, hkeeps, hgated⟩ :=
    (keptOutside_of_decide notedSubject host noted).and (ensures_gated notedSubject host noted)
  obtain ⟨d, w', hdecide, hreason, hmade, htaken⟩ := packed_of_endsPacked hends
  rw [hdecide] at hevents hkeeps
  obtain rfl : w'.events = record := hevents
  have hcommands := keepsToScratch_packing hgated.guarded hmade
  exact ⟨d, w', hdecide, hreason, htaken, hcommands, hkeeps hcommands⟩

end Packing

/-- Where a file of the working tree is reported, it is lost, though no command changes anything outside
the scratch directory. -/
theorem lost_of_decide :
    (∀ past tree command, AgreeOutside
      (fun place => ["tmp", "liskov-semver-0"] <+: place ∧ place ≠ ["tmp", "liskov-semver-0"]) tree
      ((packing "/repo/notes\n").runner.respond past tree command).2) ∧
    noted.files.get? ["repo", "notes"] = some (.file "kept".toUTF8) ∧
    ((decide notedSubject (packing "/repo/notes\n") noted).2.files.get? ["repo", "notes"]).isNone :=
  ⟨agreeOutside_packing, rfl, by decide +kernel⟩

end Decision

end NextRelease
