import NextRelease.Proofs.Decision.Workspace
import NextRelease.Proofs.Package.Building
import NextRelease.Proofs.Repository.Queries

/-! Surroundings in which decisions come about: a repository that tells its history, references that
can be packed, room for a scratch directory and tools that run. The queries are answered as the
history has it. -/

namespace NextRelease

open FileTree Script

def Host.Gives (host : Host) (keeps : FileTree → Prop) (argv : List String) (cwd : Path)
    (expected : CommandResult → Prop) : Prop :=
  ∀ events tree, keeps tree → ∃ result tree',
    host.runner.respond events tree ⟨argv, cwd⟩ = (.ok result, tree') ∧ keeps tree' ∧
      expected result

def Prints (text : String) (result : CommandResult) : Prop :=
  result.ok ∧ Text.trim result.out = text ∧ text ≠ ""

structure Host.HasRoom (host : Host) (tree : FileTree) : Prop where
  rooted : tree.Rooted
  temporary : tree.Straight (host.place host.temporary)
  free : ∃ name ∈ host.randomNames,
    tree.get? (host.place host.temporary ++ [Scratch.stem ++ name]) = none

def Host.TakesNames (host : Host) (packaging : Packaging) : Prop :=
  ∀ name ∈ host.randomNames, IsEntryName (Scratch.stem ++ name) ∧
    host.Accepts (host.scratchNamed name) ∧ packaging.Fits host (host.scratchNamed name)

structure History where
  tags : List (String × String)
  branch : String
  commit : String

structure History.ToldBy (history : History) (host : Host) (s : Decision.Subject) : Prop where
  lines : ∀ tag ∈ history.tags, Text.IsLine tag.1
  clean : s.settings.errorOnDirty → host.Gives host.HasRoom ["git", "status", "--porcelain"]
    s.repo.rootPath fun result => result.ok ∧ Text.trim result.out = ""
  listing : host.Gives host.HasRoom
    (Repository.listCommand s.settings.tagPolicy s.settings.toRef) s.repo.rootPath fun result =>
      result.ok ∧ ∃ names, result.out = Text.wordLines names ∧
        ∀ name, name ∈ names ↔ ∃ commit, (name, commit) ∈ history.tags
  tag : ∀ tag ∈ history.tags, host.Gives host.HasRoom (Repository.verifyCommand tag.1)
    s.repo.rootPath (Prints tag.2)
  branch : host.Gives host.HasRoom ["git", "branch", "--show-current"] s.repo.rootPath
    (Prints history.branch)
  head : host.Gives host.HasRoom (Repository.verifyCommand history.branch) s.repo.rootPath
    (Prints history.commit)
  linear : s.settings.errorOnUnreachable → ∀ tag ∈ history.tags,
    host.Gives host.HasRoom ["git", "merge-base", "--is-ancestor", tag.2, history.commit]
      s.repo.rootPath fun result => result.ok

def Host.Packs (host : Host) (packaging : Packaging) (reference : String) (revision : Revision)
    (version : Option Version) : Prop :=
  ∃ dialect cloned, packaging.Clones host reference revision version dialect cloned

structure Host.Checks (host : Host) (checker : String) : Prop where
  install : ∀ scratch, host.Gives (fun _ => True) Dialect.npm.commands.installProduction scratch
    fun result => result.ok
  check : ∀ scratch, ∀ program ∈ [Witness.forwardFile, Witness.backwardFile],
    host.Gives (fun _ => True) (checkCommand checker program) scratch fun _ => True

def Host.Verdict (host : Host) (checker program : String) (verdict : Bool) : Prop :=
  ∃ events tree scratch result tree',
    host.runner.respond events tree ⟨checkCommand checker program, scratch⟩ = (.ok result, tree') ∧
      result.ok = verdict

variable {host : Host} {s : Decision.Subject} {history : History} {w : World}

/-! ## Queries -/

abbrev Script.Achieves (host : Host) {α : Type} (before : FileTree → Prop) (script : Script α)
    (after : α → FileTree → Prop) : Prop :=
  script.Brings host .main (fun _ => False) (fun _ => True) before after

theorem Host.HasRoom.of_same {tree tree' : FileTree} (h : host.HasRoom tree)
    (hsame : ∀ place, tree'.get? place = tree.get? place) : host.HasRoom tree' := by
  obtain ⟨name, hname, hfree⟩ := h.free
  refine ⟨fun place hplace => ?_, ⟨h.temporary.names, fun front hfront => ?_⟩,
    name, hname, by rw [hsame, hfree]⟩
  · rw [hsame, h.rooted place (by rwa [← hsame])]
  · rw [hsame, h.temporary.directories front hfront]

theorem apart_hasRoom : Apart (fun _ => False) host.HasRoom :=
  fun _ _ hagree h => h.of_same fun place => hagree place id

theorem Host.Gives.achieves {keeps : FileTree → Prop} {argv : List String} {cwd : Path}
    {expected : CommandResult → Prop} (h : host.Gives keeps argv cwd expected)
    (hkeeps : Apart (fun _ => False) keeps) :
    (run argv cwd).Achieves host keeps fun result tree => expected result ∧ keeps tree := by
  refine brings_run hkeeps (fun _ => (apart_const _ _).and hkeeps) fun events tree hw => ?_
  obtain ⟨result, tree', hrespond, htree, hresult⟩ := h events tree hw
  exact ⟨result, tree', hrespond, fun _ hplace => absurd trivial hplace, hresult, htree⟩

namespace Decision

theorem achieves_ensureClean (h : history.ToldBy host s) :
    (ensureClean s).Achieves host host.HasRoom fun _ => host.HasRoom := by
  unfold ensureClean
  split
  · next hdirty =>
    refine brings_bind (fun dirty tree => dirty = false ∧ host.HasRoom tree)
      (brings_bind _ ((h.clean hdirty).achieves apart_hasRoom) fun result => brings_of_and ?_)
      fun dirty => brings_of_and ?_
    · rintro ⟨hok, hout⟩
      exact brings_done apart_hasRoom fun _ hw => ⟨by simp [hok, hout], hw⟩
    · rintro rfl
      exact brings_done apart_hasRoom fun _ => id
  · exact brings_done apart_hasRoom fun _ => id

theorem achieves_resolveCommit {name commit : String}
    (h : host.Gives host.HasRoom (Repository.verifyCommand name) s.repo.rootPath (Prints commit)) :
    (s.repo.resolveCommit name).Achieves host host.HasRoom fun found tree =>
      found = some commit ∧ host.HasRoom tree := by
  refine brings_bind _ (h.achieves apart_hasRoom) fun result => brings_of_and ?_
  rintro ⟨hok, rfl, hne⟩
  exact brings_done apart_hasRoom fun _ hw => ⟨by simp [Repository.answer?, hok, hne], hw⟩

def Subject.Unnamed (s : Subject) : Prop :=
  Settings.named? s.settings.fromRef = none ∧ Settings.named? s.settings.toRef = none

theorem achieves_noPrevious (h : history.ToldBy host s) (hunnamed : s.Unnamed)
    (hnone : ∀ tag ∈ history.tags, Version.parse? tag.1 = none) :
    s.previousReference.Achieves host host.HasRoom fun found tree =>
      found = none ∧ host.HasRoom tree := by
  unfold Subject.previousReference
  rw [hunnamed.1]
  simp only [Repository.highestVersion_eq]
  refine brings_bind _ (h.listing.achieves apart_hasRoom) fun listing => brings_of_and ?_
  rintro ⟨hok, names, hout, hnames⟩
  have hlines (name : String) (hname : name ∈ names) : Text.IsLine name := by
    obtain ⟨commit, htag⟩ := (hnames name).1 hname
    exact h.lines (name, _) htag
  have hfirst : Version.firstMaximal? (Repository.versionedNames
      (Repository.listedNames listing)) = none := by
    refine Repository.firstMaximal?_versionedNames_eq_none.2 fun name hname => ?_
    obtain ⟨commit, htag⟩ :=
      (hnames name).1 ((Repository.mem_listedNames hok hlines hout).1 hname)
    exact hnone (name, commit) htag
  simp only [hfirst]
  exact brings_done apart_hasRoom fun _ hw => ⟨rfl, hw⟩

theorem achieves_previous (h : history.ToldBy host s) (hunnamed : s.Unnamed)
    {best commit : String} {tag : Version} (hbest : (best, commit) ∈ history.tags)
    (htag : Version.parse? best = some tag)
    (habove : ∀ other ∈ history.tags, ∀ v, Version.parse? other.1 = some v →
      other.1 = best ∨ v.isBelow tag) :
    s.previousReference.Achieves host host.HasRoom fun found tree =>
      found = some ⟨best, .tag, commit⟩ ∧ host.HasRoom tree := by
  unfold Subject.previousReference
  rw [hunnamed.1]
  simp only [Repository.highestVersion_eq]
  refine brings_bind _ (h.listing.achieves apart_hasRoom) fun listing => brings_of_and ?_
  rintro ⟨hok, names, hout, hnames⟩
  have hlisted (name : String) :
      name ∈ Repository.listedNames listing ↔ ∃ commit, (name, commit) ∈ history.tags := by
    refine (Repository.mem_listedNames hok (fun name hname => ?_) hout).trans (hnames name)
    obtain ⟨commit, htag⟩ := (hnames name).1 hname
    exact h.lines (name, _) htag
  cases hfirst : Version.firstMaximal? (Repository.versionedNames
    (Repository.listedNames listing)) with
  | none =>
    have hnone := Repository.firstMaximal?_versionedNames_eq_none.1 hfirst best
      ((hlisted best).2 ⟨commit, hbest⟩)
    exact nomatch hnone.symm.trans htag
  | some first =>
    obtain ⟨v, name⟩ := first
    obtain ⟨rfl, rfl⟩ := (Repository.highest_of_firstMaximal? hfirst).unique
      ((hlisted best).2 ⟨commit, hbest⟩) htag fun other hother u hu => by
        obtain ⟨commit', hmem⟩ := (hlisted other).1 hother
        exact habove (other, commit') hmem u hu
    refine brings_bind _ (achieves_resolveCommit (h.tag _ hbest)) fun found => brings_of_and ?_
    rintro rfl
    exact brings_done apart_hasRoom fun _ hw => ⟨rfl, hw⟩

theorem achieves_current (h : history.ToldBy host s) (hunnamed : s.Unnamed) :
    s.currentReference.Achieves host host.HasRoom fun reference tree =>
      reference = ⟨history.branch, .branch, history.commit⟩ ∧ host.HasRoom tree := by
  unfold Subject.currentReference
  rw [hunnamed.2]
  refine brings_bind (fun name tree => name = some history.branch ∧ host.HasRoom tree)
    (brings_bind _ (h.branch.achieves apart_hasRoom) fun result => brings_of_and ?_)
    fun name => brings_of_and ?_
  · rintro ⟨hok, hout, hne⟩
    exact brings_done apart_hasRoom fun _ hw =>
      ⟨by simp [Repository.answer?, hok, hout, hne], hw⟩
  · rintro rfl
    refine brings_bind _ (achieves_resolveCommit h.head) fun found => brings_of_and ?_
    rintro rfl
    exact brings_done apart_hasRoom fun _ hw => ⟨rfl, hw⟩

theorem achieves_ensureReachable (h : history.ToldBy host s) {previous current : Reference}
    {best : String} (hprevious : (best, previous.commit) ∈ history.tags)
    (hcurrent : current.commit = history.commit) :
    (ensureReachable s previous current).Achieves host host.HasRoom fun _ => host.HasRoom := by
  unfold ensureReachable
  split
  · next hreachable =>
    refine brings_bind (fun descendant tree => descendant = true ∧ host.HasRoom tree)
      (brings_bind _ ((hcurrent ▸ h.linear hreachable _ hprevious).achieves apart_hasRoom)
        fun result => brings_of_and fun hok => ?_) fun descendant => brings_of_and ?_
    · exact brings_done apart_hasRoom fun _ hw => ⟨hok, hw⟩
    · rintro rfl
      exact brings_done apart_hasRoom fun _ => id
  · exact brings_done apart_hasRoom fun _ => id

theorem decide_initial (h : history.ToldBy host s) (hunnamed : s.Unnamed)
    (hnone : ∀ tag ∈ history.tags, Version.parse? tag.1 = none) (hroom : host.HasRoom w.files) :
    ∃ w', decide s host w = (.ok ⟨initialVersion, .initial, none, none, none⟩, w') := by
  obtain ⟨_, clean, hclean, hcleaned⟩ := (achieves_ensureClean h).exec hroom
  obtain ⟨_, found, hfound, rfl, hlooked⟩ := (achieves_noPrevious h hunnamed hnone).exec hcleaned
  exact ⟨_, Run.lift_bind_ok.2 ⟨(), clean, hclean, Run.lift_bind_ok.2 ⟨none, found, hfound, rfl⟩⟩⟩

end Decision

end NextRelease
