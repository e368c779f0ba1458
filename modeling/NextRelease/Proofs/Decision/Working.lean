import NextRelease.Proofs.Decision.Confinement
import NextRelease.Proofs.Files.Reaching
import NextRelease.Proofs.Package.Room

/-! The work of a decision in its scratch directory. Apart from commands, a decision changes files
only in three ways, all of them in that directory: it makes the directories of the clones, writes
the files of the workspace and moves the archives there. -/

namespace NextRelease

open FileTree Script

def scratchFiles : List String :=
  [Manifest.fileName, Witness.forwardFile, Witness.backwardFile, Revision.previous.archiveName,
    Revision.current.archiveName]

theorem isEntryName_scratchFiles {name : String} (h : name ∈ scratchFiles) : IsEntryName name := by
  simp only [scratchFiles, List.mem_cons, List.not_mem_nil, or_false] at h
  obtain rfl | rfl | rfl | rfl | rfl := h
  · exact Manifest.isEntryName_fileName
  · exact Witness.isEntryName_forwardFile
  · exact Witness.isEntryName_backwardFile
  · exact Revision.isEntryName_archive .previous
  · exact Revision.isEntryName_archive .current

theorem scratchFiles_ne_name {name : String} (h : name ∈ scratchFiles) (revision : Revision) :
    name ≠ revision.name := by
  have hdisjoint : ∀ name ∈ scratchFiles, name ≠ Revision.previous.name ∧
      name ≠ Revision.current.name := by decide
  cases revision
  · exact (hdisjoint name h).1
  · exact (hdisjoint name h).2

theorem archiveName_mem (revision : Revision) : revision.archiveName ∈ scratchFiles := by
  cases revision <;> simp [scratchFiles]

/-! ## A scratch directory at work -/

structure Workplace (host : Host) (scratch : Path) (directory : Place) (tree : FileTree) : Prop where
  enters : Enters tree mostLinks [] (scratch.route host.cwd).names directory
  plain : ∀ name ∈ scratchFiles, tree.Plain (scratchRoute host scratch name)

namespace Workplace

variable {host : Host} {scratch : Path} {directory : Place} {tree tree' : FileTree}

theorem of_makeDirectory (hgrounded : tree.Grounded)
    (h : tree.makeDirectory (scratch.route host.cwd) = .ok tree') :
    ∃ directory, tree.get? directory = none ∧ Workplace host scratch directory tree' ∧
      ∀ place, tree'.get? place =
        if place = directory then some .directory else tree.get? place := by
  obtain ⟨directory, hnone, rfl, henters⟩ := enters_makeDirectory h
  refine ⟨directory, hnone, ⟨henters, fun name hname => ?_⟩, fun _ => get?_makeDirectory hnone⟩
  have hentry := isEntryName_scratchFiles hname
  exact hgrounded.plain_of_makeDirectory h hentry.2 (names_scratchRoute host scratch hentry)

theorem makeDirectory (h : Workplace host scratch directory tree) {revision : Revision}
    (hmade : tree.makeDirectory ((scratch.child revision.name).route host.cwd) = .ok tree') :
    Workplace host scratch directory tree' ∧ ∀ other, tree'.get? other =
      if other = directory ++ [revision.name] then some .directory else tree.get? other := by
  have hentry := revision.isEntryName_name
  have hnames := scratch.names_route_child host.cwd hentry
  obtain ⟨place, hplace, hnone, heq⟩ := makeDirectory_eq_ok hmade
  obtain rfl := (hnames ▸ (locateEntry_eq_ok_iff.1 hplace).2).unique
    (h.enters.walks hentry.2 fun _ _ => rfl)
  refine ⟨⟨heq ▸ h.enters.mono (keepsWays_makeDirectory hnone), fun name hname => ?_⟩,
    fun other => heq ▸ get?_makeDirectory hnone⟩
  have hfile := isEntryName_scratchFiles hname
  exact (h.plain name hname).makeDirectory hmade (scratchFiles_ne_name hname revision) hfile.2
    hentry.2 (names_scratchRoute host scratch hfile) hnames

theorem write (h : Workplace host scratch directory tree) {name : String}
    (hname : name ∈ scratchFiles) {content : ByteArray}
    (hwrite : tree.write (scratchRoute host scratch name) content = .ok tree') :
    Workplace host scratch directory tree' ∧ ∀ other, tree'.get? other =
      if other = directory ++ [name] then some (.file content) else tree.get? other := by
  have hentry := isEntryName_scratchFiles hname
  obtain ⟨place, henters, hget, hways, _⟩ := (h.plain name hname).write hentry.2
    (names_scratchRoute host scratch hentry) hwrite
  obtain rfl := (h.enters.mono hways).unique henters
  exact ⟨⟨henters, fun other hother => (changesFiles_write hwrite).plain (h.plain other hother)⟩,
    hget⟩

theorem moveFile (h : Workplace host scratch directory tree) {name : String}
    (hname : name ∈ scratchFiles) {source : Place}
    (hmove : tree.moveFile source (scratchRoute host scratch name) = .ok tree') :
    Workplace host scratch directory tree' ∧ KeepsWays tree tree' ∧
      ∃ content, tree.get? source = some (.file content) ∧ ∀ other, tree'.get? other =
        if other = directory ++ [name] then some (.file content)
          else if other = source then none else tree.get? other := by
  have hentry := isEntryName_scratchFiles hname
  obtain ⟨place, content, henters, hfile, hget, hways⟩ := (h.plain name hname).moveFile hentry.2
    (names_scratchRoute host scratch hentry) hmove
  obtain rfl := h.enters.unique henters
  exact ⟨⟨h.enters.mono hways,
    fun other hother => (changesFiles_moveFile hmove).plain (h.plain other hother)⟩, hways, content,
    hfile, hget⟩

theorem removeTree (h : Workplace host scratch directory tree) {place : Place}
    (hplace : ¬directory <+: place) :
    (tree.removeTree (scratch.route host.cwd)).2.get? place = tree.get? place := by
  obtain hsame | ⟨other, hother, hget, hgone⟩ := tree.removeTree_cases (scratch.route host.cwd)
  · rw [hsame]
  · obtain rfl := ((locateEntry_eq_ok_iff.1 hother).2.followed (by simp [hget])).unique
      h.enters.arrives
    rw [hgone]
    exact tree.get?_prune_beside hplace

end Workplace

theorem not_prefix_child {directory place : Place} (h : ¬directory <+: place) (name : String) :
    place ≠ directory ++ [name] := by
  rintro rfl
  exact h (List.prefix_append _ _)

section Removal

variable {host : Host}

theorem files_removeTree (path : Path) (retries attempt : Nat) (w : World) :
    ((removeTree path retries attempt).exec host .main w).2.files = w.files ∨
      ((removeTree path retries attempt).exec host .main w).2.files =
        (w.files.removeTree (path.route host.cwd)).2 := by
  induction retries generalizing attempt w with
  | zero => exact .inl rfl
  | succ retries ih =>
    simp only [removeTree, exec, Request.perform]
    obtain hsame | ⟨place, _, _, hgone⟩ := w.files.removeTree_cases (path.route host.cwd)
    · cases hremoval : w.files.removeTree (path.route host.cwd) with
      | mk removal tree =>
        rw [hremoval] at hsame
        obtain rfl : tree = w.files := hsame
        cases removal with
        | gone => exact .inl rfl
        | failed fault => exact .inl rfl
        | refused reason =>
          obtain hfiles | hfiles := ih (attempt + 1) (w.record (.note .main .debug _))
          · exact .inl hfiles
          · exact .inr (hfiles.trans (by rw [World.record, hremoval]))
    · rw [hgone]
      exact .inr rfl

theorem holds_removeTree (holds : FileTree → Prop) {path : Path} {retries attempt : Nat}
    {v removed : World} {gone : Except Halt Bool}
    (hremove : (removeTree path retries attempt).exec host .main v = (gone, removed))
    (h : holds v.files) (hgone : holds (v.files.removeTree (path.route host.cwd)).2) :
    holds removed.files := by
  obtain rfl : ((removeTree path retries attempt).exec host .main v).2 = removed := by rw [hremove]
  obtain hfiles | hfiles := files_removeTree path retries attempt v
  · exact hfiles ▸ h
  · exact hfiles ▸ hgone

end Removal

/-! ## The work -/

def Request.Works (scratch : Path) {β : Type} : Request β → Prop
  | .run _ | .note .. | .status _ | .resolve .. | .read _ => True
  | .write path _ => ∃ name ∈ scratchFiles, path = scratch.child name
  | .makeDirectory path => ∃ revision : Revision, path = scratch.child revision.name
  | .move _ destination => ∃ revision : Revision, destination = scratch.child revision.archiveName
  | .removeTree _ => False

section Works

variable {scratch : Path} {β : Type}

theorem Request.Looks.works {commands : Command → Prop} {request : Request β}
    (h : request.Looks commands) : request.Works scratch := by
  cases request with
  | write path content => exact h.elim
  | makeDirectory path => exact h.elim
  | move source destination => exact h.elim
  | removeTree path => exact h.elim
  | _ => trivial

theorem Packaging.StrandRequest.works {commands : Command → Prop} {request : Request β}
    (h : StrandRequest commands scratch request) : request.Works scratch := by
  cases request with
  | write path content => exact h.elim
  | removeTree path => exact h.elim
  | makeDirectory path => exact h
  | move source destination => exact h
  | _ => trivial

theorem Witness.works_writeWorkspace (scratch : Path) (old new : Artifact) :
    (writeWorkspace scratch old new).Only (Request.Works scratch) := by
  have hwrite {name : String} (hname : name ∈ scratchFiles) (text : String) :
      (Script.writeString (scratch.child name) text).Only (Request.Works scratch) :=
    only_files ⟨name, hname, rfl⟩
  refine only_bind (hwrite (by simp [scratchFiles]) _) fun _ => ?_
  refine only_bind (hwrite (by simp [scratchFiles]) _) fun _ => ?_
  exact hwrite (by simp [scratchFiles]) _

end Works

/-! ## What the work preserves -/

namespace Run

variable {host : Host} {holds : World → Prop} {α β : Type}

def Preserves (run : Run α) (host : Host) (holds : World → Prop) : Prop :=
  ∀ w, holds w → holds (run host w).2

theorem preserves_pure (value : α) : (pure value : Run α).Preserves host holds := fun _ hw => hw

theorem preserves_bind {run : Run α} {f : α → Run β} (h : run.Preserves host holds)
    (hf : ∀ value, (f value).Preserves host holds) : (run >>= f).Preserves host holds := by
  intro w hw
  have hfront := h w hw
  match hrun : run host w with
  | (.error cause, v) =>
    rw [hrun] at hfront
    rwa [bind_of_error hrun]
  | (.ok value, v) =>
    rw [hrun] at hfront
    rw [bind_of_ok hrun]
    exact hf value v hfront

variable {kind : ∀ {β : Type}, Request β → Prop}
  (hkeeps : ∀ {β : Type} (request : Request β), kind request → request.Keeps host holds)

include hkeeps

theorem preserves_lift {script : Script α} (h : script.Only kind) :
    (script : Run α).Preserves host holds := fun _ hw => h.exec hkeeps .main hw

theorem preserves_both (leftLane rightLane : Lane) {p q : Script α} (hp : p.Only kind)
    (hq : q.Only kind) : (both leftLane rightLane p q).Preserves host holds :=
  fun _ hw => both_keeps hp hq hkeeps hkeeps leftLane rightLane hw

end Run

namespace Decision

variable {s : Subject} {host : Host} {w w' : World}

theorem preserves_examine {scratch : Path} {holds : World → Prop}
    (hkeeps : ∀ {β : Type} (request : Request β), request.Works scratch → request.Keeps host holds)
    (s : Subject) (previous current : Reference) :
    (examine s previous current scratch).Preserves host holds := by
  have hbuild (reference : Reference) (revision : Revision) :
      (s.packaging.build reference revision.name scratch).Only (Request.Works scratch) :=
    (Packaging.only_build s.packaging reference revision scratch).mono
      fun _ => Packaging.StrandRequest.works
  have hlooks {α : Type} {script : Script α} (h : script.Only (Request.Looks fun _ => True)) :
      script.Only (Request.Works scratch) := h.mono fun _ => Request.Looks.works
  have hcheck (program : String) :
      (typeCheck s.settings.checker scratch program).Only (Request.Works scratch) :=
    hlooks (looks_typeCheck trivial)
  have hchecks := Run.preserves_both hkeeps .forward .backward (hcheck Witness.forwardFile)
    (hcheck Witness.backwardFile)
  have hcompare (old new : Artifact) : (compare s scratch old new).Preserves host holds := by
    refine Run.preserves_bind
      (Run.preserves_lift hkeeps (Witness.works_writeWorkspace scratch old new)) fun _ => ?_
    refine Run.preserves_bind
      (Run.preserves_lift hkeeps (hlooks (Dialect.looks_detect _ scratch))) fun dialect => ?_
    refine Run.preserves_bind
      (Run.preserves_lift hkeeps (hlooks (Packaging.looks_install trivial))) fun _ => ?_
    exact Run.preserves_bind hchecks fun _ => Run.preserves_pure _
  refine Run.preserves_bind (Run.preserves_both hkeeps .previous .current
    (hbuild previous .previous) (hbuild current .current)) fun artifacts => ?_
  exact Run.preserves_bind (hcompare _ _) fun _ => Run.preserves_pure _

/-! ## The way of a decision -/

inductive Went (s : Subject) (host : Host) (w : World) : List Event → World → Prop
  | looked {record : List Event} {w' : World} : w.Looked host w' →
      (∀ scratch, .scratch scratch ∉ record) → Went s host w record w'
  | worked {front worked rest : List Event} {scratch : Path} {text : String}
      {previous current : Reference} {v made removed w' : World} {gone : Except Halt Bool} :
      w.Looked host v → v.events = w.events ++ front → (∀ scratch, .scratch scratch ∉ front) →
      Scratch.make Scratch.stem none host v = (.ok scratch, made) →
      made.events = v.events ++ [.scratch scratch, .note .main .debug text] →
      (examine s previous current scratch host made).2.events = made.events ++ worked →
      (∀ scratch, .scratch scratch ∉ worked) →
      (removeTree scratch Scratch.removeRetries 1).exec host .main
        (examine s previous current scratch host made).2 = (gone, removed) →
      w'.files = removed.files → (∀ scratch, .scratch scratch ∉ rest) →
        Went s host w (front ++ .scratch scratch :: .note .main .debug text :: (worked ++ rest)) w'

theorem scratch_not_mem {commands : Command → Prop} {record : List Event}
    (h : ∀ event ∈ record, event.Asks commands) (scratch : Path) : .scratch scratch ∉ record :=
  fun hmem => h _ hmem

theorem kept_worked {holds : FileTree → Prop} {front worked rest : List Event} {scratch : Path}
    {text : String} {v made : World} (hfront : v.events = w.events ++ front)
    (hmade : made.events = v.events ++ [.scratch scratch, .note .main .debug text])
    (h : host.Kept holds w.events
      (front ++ .scratch scratch :: .note .main .debug text :: (worked ++ rest))) :
    host.Kept holds made.events worked := by
  have hrecord : front ++ .scratch scratch :: .note .main .debug text :: (worked ++ rest) =
      (front ++ [.scratch scratch, .note .main .debug text]) ++ worked ++ rest := by simp
  rw [hrecord] at h
  rw [hmade, hfront, List.append_assoc]
  exact h.of_append_left.of_append_right

theorem Went.append {front rest : List Event} {w'' : World} (h : Went s host w front w')
    (hlooked : w'.Looked host w'') (hfiles : w''.files = w'.files)
    (hrest : ∀ scratch, .scratch scratch ∉ rest) : Went s host w (front ++ rest) w'' := by
  have hclear {record : List Event} (hrecord : ∀ scratch, .scratch scratch ∉ record)
      (scratch : Path) : .scratch scratch ∉ record ++ rest := fun hmem =>
    (List.mem_append.1 hmem).elim (hrecord scratch) (hrest scratch)
  cases h with
  | looked hfront hnone => exact .looked (hfront.trans hlooked) (hclear hnone)
  | worked hfront hevents hnone hmake hmade hworked hclean hremove hsame hlast =>
    have hwent := Went.worked hfront hevents hnone hmake hmade hworked hclean hremove
      (hfiles.trans hsame) (hclear hlast)
    simpa using hwent

theorem went_of_compute (s : Subject) (previous current : Reference) (w : World) :
    (compute s previous current).Ensures host w fun _ record w' => Went s host w record w' := by
  rw [compute_eq_settle]
  have hexamine : (Run.withScratch Scratch.stem none (examine s previous current)).Ensures host w
      fun _ record v => Went s host w record v := by
    refine Run.ensures_withScratch (fun paths fault _ => .looked (.record (by rfl) trivial) (by simp))
      fun scratch made text hmake hmade => ?_
    obtain ⟨worked, hworked, hasks⟩ := scriptlike_examine s previous current scratch made
    refine ⟨worked, hworked, fun removed gone w' hremove hremoved hcourse => ?_⟩
    have hremoves := scratch_not_mem (hcourse.asks (asks_removeTree scratch _ _))
    change Went s host w ([] ++ _) _
    exact .worked (.refl host w) (List.append_nil _).symm (by simp) hmake hmade hworked
      (scratch_not_mem hasks) hremove rfl hremoves
  refine Run.ensures_bind (hexamine.mono fun result front v hfront => ?_)
  cases result with
  | error cause => exact hfront
  | ok examined =>
    unfold Run.thenEnds
    refine (ensures_settle ..).mono fun _ rest w' hsettled => ?_
    obtain ⟨hlooked, hfiles, hclear⟩ := hsettled
    exact hfront.append hlooked hfiles hclear

theorem Went.prepend {front rest : List Event} {v : World} (hlooked : w.Looked host v)
    (hevents : v.events = w.events ++ front) (hfront : ∀ scratch, .scratch scratch ∉ front)
    (h : Went s host v rest w') : Went s host w (front ++ rest) w' := by
  have hclear {record : List Event} (hrecord : ∀ scratch, .scratch scratch ∉ record)
      (scratch : Path) : .scratch scratch ∉ front ++ record := fun hmem =>
    (List.mem_append.1 hmem).elim (hfront scratch) (hrecord scratch)
  cases h with
  | looked hrest hnone => exact .looked (hlooked.trans hrest) (hclear hnone)
  | worked hlater hrest hnone hmake hmade hworked hclean hremove hsame hlast =>
    rw [← List.append_assoc]
    refine .worked (hlooked.trans hlater) ?_ (hclear hnone) hmake hmade hworked hclean hremove hsame
      hlast
    rw [hrest, hevents, List.append_assoc]

theorem went_of_decide (s : Subject) (host : Host) (w : World) :
    (decide s).Ensures host w fun _ record w' => Went s host w record w' := by
  rw [decide_eq_survey]
  refine Run.ensures_bind (Run.ensures_lift fun record result v hexec hevents hcourse => ?_)
  have hlooked : w.Looked host v := .of_exec (looks_survey s) hexec
  have hnone := scratch_not_mem
    (hcourse.asks ((looks_survey s).mono fun _ => Request.Looks.asks))
  match result with
  | .error cause => exact .looked hlooked hnone
  | .ok (.inl d) =>
    unfold Run.thenEnds conclude
    refine Run.ensures_pure ?_
    rw [List.append_nil]
    exact .looked hlooked hnone
  | .ok (.inr (previous, current)) =>
    unfold Run.thenEnds conclude
    exact (went_of_compute s previous current v).mono fun _ _ _ hrest =>
      hrest.prepend hlooked hevents hnone

end Decision

end NextRelease
