import NextRelease.Proofs.Run.Requests
import NextRelease.Proofs.Text.Increasing
import NextRelease.Proofs.Text.Listing
import NextRelease.Proofs.Version.Order
import NextRelease.Repository.Reference

/-! What a repository is asked, and what is made of the names that it lists. The queries are few, each is
asked in the root directory, and looking for references asks nothing else. The tag that is released from
has the highest version of all names, and a name is found in a listing if it keeps its line there. -/

/-! ## Queries -/

namespace NextRelease.Repository

open Script

def verifyCommand (name : String) : List String :=
  ["git", "rev-parse", "--verify", "--quiet", name ++ "^\x7bcommit\x7d"]

def ancestorCommand (older newer : String) : List String :=
  ["git", "merge-base", "--is-ancestor", older, newer]

inductive IsQuery : List String → Prop
  | status : IsQuery ["git", "status", "--porcelain"]
  | tags : IsQuery ["git", "tag", "--list"]
  | mergedTags (reference : String) : IsQuery ["git", "tag", "--list", "--merged", reference]
  | branches : IsQuery ["git", "branch", "--list", "--format=%(refname:short)"]
  | currentBranch : IsQuery ["git", "branch", "--show-current"]
  | commit (reference : String) : IsQuery (verifyCommand reference)
  | ancestor (older newer : String) : IsQuery (ancestorCommand older newer)
  | file (reference path : String) : IsQuery ["git", "show", reference ++ ":" ++ path]

/-- A query that is asked in the root directory of a repository. -/
structure Query (repo : Repository) (command : Command) : Prop where
  words : IsQuery command.argv
  root : command.cwd = repo.rootPath

variable (repo : Repository)

theorem looks_git {args : List String} (h : IsQuery ("git" :: args)) :
    (repo.git args).Only (Request.Looks repo.Query) :=
  only_run ⟨h, rfl⟩

theorem looks_tags (mergedInto : Option String) :
    (repo.tags mergedInto).Only (Request.Looks repo.Query) := by
  refine only_bind (repo.looks_git ?_) fun _ => trivial
  cases mergedInto with
  | none => exact .tags
  | some reference => exact .mergedTags reference

theorem looks_branches : repo.branches.Only (Request.Looks repo.Query) :=
  only_bind (repo.looks_git .branches) fun _ => trivial

theorem looks_currentBranch : repo.currentBranch.Only (Request.Looks repo.Query) :=
  only_bind (repo.looks_git .currentBranch) fun _ => trivial

theorem looks_resolveCommit (reference : String) :
    (repo.resolveCommit reference).Only (Request.Looks repo.Query) :=
  only_bind (repo.looks_git (.commit reference)) fun _ => trivial

theorem looks_isAncestor (older newer : String) :
    (repo.isAncestor older newer).Only (Request.Looks repo.Query) :=
  only_bind (repo.looks_git (.ancestor older newer)) fun _ => trivial

theorem looks_isDirty : repo.isDirty.Only (Request.Looks repo.Query) :=
  only_bind (repo.looks_git .status) fun _ => trivial

theorem looks_showFile (reference path : String) :
    (repo.showFile reference path).Only (Request.Looks repo.Query) :=
  only_bind (repo.looks_git (.file reference path)) fun _ => trivial

theorem looks_highestVersion (policy : TagPolicy) (reachableFrom : Option String) :
    (repo.highestVersion policy reachableFrom).Only (Request.Looks repo.Query) := by
  refine only_bind (repo.looks_tags _) fun names => ?_
  split
  · trivial
  · refine only_bind (repo.looks_resolveCommit _) fun commit => ?_
    split <;> trivial

theorem looks_currentReference : repo.currentReference.Only (Request.Looks repo.Query) := by
  refine only_bind repo.looks_currentBranch fun name => ?_
  split
  · trivial
  · refine only_bind (repo.looks_resolveCommit _) fun commit => ?_
    split <;> trivial

theorem looks_resolveReference (name role : String) :
    (repo.resolveReference name role).Only (Request.Looks repo.Query) := by
  refine only_bind (repo.looks_tags _) fun names => ?_
  split
  · refine only_bind (repo.looks_resolveCommit _) fun commit => ?_
    split <;> trivial
  · refine only_bind repo.looks_branches fun branches => ?_
    split
    · refine only_bind (repo.looks_resolveCommit _) fun commit => ?_
      split <;> trivial
    · trivial

end NextRelease.Repository

/-! ## Names in a listing -/

namespace NextRelease.Repository

theorem mem_listedNames {names : List String} {result : CommandResult} (hok : result.ok)
    (hnames : ∀ name ∈ names, Text.IsLine name) (hout : result.out = Text.wordLines names)
    {name : String} : name ∈ listedNames result ↔ name ∈ names := by
  have htrim : names.map Text.trim = names.map id :=
    List.map_congr_left fun name hname => (hnames name hname).trimmed
  have hfilter : names.filter (· != "") = names :=
    List.filter_eq_self.2 fun name hname => by simpa using (hnames name hname).nonempty
  rw [listedNames, if_pos hok, hout,
    Text.lines_wordLines fun name hname => (hnames name hname).unbroken, htrim, List.map_id, hfilter,
    SortedSet.mem_ofList]

/-- The names that a listing prints: what stands on its lines without the blanks around it. -/
def printedNames (out : String) : List String :=
  ((Text.lines out).map Text.trim).filter (· != "")

theorem mem_printedNames {out name : String} :
    name ∈ printedNames out ↔ name ≠ "" ∧ ∃ line ∈ Text.lines out, Text.trim line = name := by
  rw [printedNames, List.mem_filter, List.mem_map]
  simp [and_comm]

theorem mem_listedNames_iff {result : CommandResult} (hok : result.ok) {name : String} :
    name ∈ listedNames result ↔ name ∈ printedNames result.out := by
  rw [listedNames, if_pos hok, SortedSet.mem_ofList]
  rfl

theorem increasing_listedNames (result : CommandResult) :
    SortedSet.Increasing (listedNames result) := by
  unfold listedNames
  split
  · exact SortedSet.increasing_ofList _
  · exact .nil

theorem listedNames_congr {listing listing' : CommandResult} (hok : listing.ok) (hok' : listing'.ok)
    (hlines : ∀ line, line ∈ Text.lines listing'.out ↔ line ∈ Text.lines listing.out) :
    listedNames listing' = listedNames listing := by
  refine (increasing_listedNames listing').eq (increasing_listedNames listing) fun name => ?_
  simp only [mem_listedNames_iff hok, mem_listedNames_iff hok', mem_printedNames, hlines]

def commitOf (repo : Repository) (host : Host) (lane : Lane) (w : World) (name : String) :
    Except Halt (Option String) := ((repo.resolveCommit name).exec host lane w).1

/-- A host that prints tags and branches one a line, and one commit for whatever else it is asked. -/
def showing (tags branches : List String) : Host where
  runner := ⟨fun _ tree command =>
    (.ok { code := 0, out := match command.argv with
      | _ :: "tag" :: _ => Text.wordLines tags
      | _ :: "branch" :: _ => Text.wordLines branches
      | _ => "c0ffee\n" }, tree)⟩
  cwd := []
  temporary := ⟨1, []⟩
  randomNames := []

theorem commitOf_showing (repo : Repository) (tags branches : List String) (lane : Lane) (w : World)
    (name : String) : repo.commitOf (showing tags branches) lane w name = .ok (some "c0ffee") := by
  have hanswer : answer? ⟨0, "c0ffee\n", ""⟩ = some "c0ffee" := by decide
  rw [commitOf, resolveCommit, git, Script.exec_bind, Script.exec_run]
  exact congrArg Except.ok hanswer

end NextRelease.Repository

/-! ## The tag that is released from -/

namespace NextRelease.Repository

/-- A name of a version that no other name in a list stands above. -/
structure Highest (names : List String) (best : String) (tag : Version) : Prop where
  mem : best ∈ names
  parse : Version.parse? best = some tag
  maximal : ∀ name ∈ names, ∀ v, Version.parse? name = some v → tag.isBelow v = false

theorem mem_versionedNames {names : List String} {v : Version} {name : String} :
    (v, name) ∈ versionedNames names ↔ name ∈ names ∧ Version.parse? name = some v := by
  simp only [versionedNames, List.mem_filterMap, Option.map_eq_some_iff, Prod.mk.injEq]
  constructor
  · rintro ⟨_, hmem, v', hparse, rfl, rfl⟩
    exact ⟨hmem, hparse⟩
  · rintro ⟨hmem, hparse⟩
    exact ⟨name, hmem, v, hparse, rfl, rfl⟩

theorem highest_of_firstMaximal? {names : List String} {tag : Version} {best : String}
    (h : Version.firstMaximal? (versionedNames names) = some (tag, best)) :
    Highest names best tag := by
  have hbest := Version.isFirstMaximal_of_firstMaximal? h
  obtain ⟨hmem, hparse⟩ := mem_versionedNames.1 hbest.mem
  exact ⟨hmem, hparse, fun name hname v hv =>
    hbest.not_isBelow (v, name) (mem_versionedNames.2 ⟨hname, hv⟩)⟩

theorem firstMaximal?_versionedNames_eq_none {names : List String} :
    Version.firstMaximal? (versionedNames names) = none ↔
      ∀ name ∈ names, Version.parse? name = none := by
  rw [Version.firstMaximal?_eq_none, List.eq_nil_iff_forall_not_mem]
  constructor
  · intro h name hname
    cases hparse : Version.parse? name with
    | none => rfl
    | some v => exact absurd (mem_versionedNames.2 ⟨hname, hparse⟩) (h (v, name))
  · rintro h ⟨v, name⟩ hmem
    obtain ⟨hname, hparse⟩ := mem_versionedNames.1 hmem
    cases hparse.symm.trans (h name hname)

theorem Highest.unique {names : List String} {best name : String} {tag v : Version}
    (h : Highest names best tag) (hmem : name ∈ names) (hv : Version.parse? name = some v)
    (habove : ∀ other ∈ names, ∀ u, Version.parse? other = some u → other = name ∨ u.isBelow v) :
    best = name ∧ tag = v := by
  obtain rfl | hbelow := habove best h.mem tag h.parse
  · exact ⟨rfl, Option.some.inj (h.parse.symm.trans hv)⟩
  · exact nomatch hbelow.symm.trans (h.maximal name hmem v hv)

/-- The name that is chosen among some: it has the highest version, and it comes first by its code
points among the names of versions that are level with this one. -/
structure Chosen (names : List String) (best : String) (tag : Version) : Prop
    extends Highest names best tag where
  first : ∀ name ∈ names, ∀ v, Version.parse? name = some v → v.isLevelWith tag → best ≤ name

theorem Chosen.unique {names : List String} {best best' : String} {tag tag' : Version}
    (h : Chosen names best tag) (h' : Chosen names best' tag') : best = best' := by
  have hlevel : tag.isLevelWith tag' := Version.isLevelWith_iff.2
    ⟨h.maximal _ h'.mem _ h'.parse, h'.maximal _ h.mem _ h.parse⟩
  have hle : best ≤ best' := h.first _ h'.mem _ h'.parse (Version.isLevelWith_comm ▸ hlevel)
  have hge : best' ≤ best := h'.first _ h.mem _ h.parse hlevel
  exact String.le_antisymm hle hge

theorem Chosen.congr {names names' : List String} {best : String} {tag : Version}
    (h : Chosen names best tag) (hsame : ∀ name, name ∈ names' ↔ name ∈ names) :
    Chosen names' best tag where
  mem := (hsame best).2 h.mem
  parse := h.parse
  maximal name hname := h.maximal name ((hsame name).1 hname)
  first name hname := h.first name ((hsame name).1 hname)

theorem pairwise_versionedNames {names : List String} (h : SortedSet.Increasing names) :
    (versionedNames names).Pairwise fun pair pair' => compare pair.2 pair'.2 = .lt := by
  refine List.Pairwise.filterMap _ (fun name name' hlt pair hpair pair' hpair' => ?_) h
  obtain ⟨_, _, rfl⟩ := Option.map_eq_some_iff.1 hpair
  obtain ⟨_, _, rfl⟩ := Option.map_eq_some_iff.1 hpair'
  exact hlt

theorem chosen_of_firstMaximal? {names : List String} {tag : Version} {best : String}
    (hsorted : SortedSet.Increasing names)
    (h : Version.firstMaximal? (versionedNames names) = some (tag, best)) :
    Chosen names best tag := by
  refine ⟨highest_of_firstMaximal? h, fun name hname v hv hlevel => ?_⟩
  obtain ⟨before, after, hpairs, hbefore, _⟩ := Version.isFirstMaximal_of_firstMaximal? h
  have hpairwise := pairwise_versionedNames hsorted
  have hmem : (v, name) ∈ versionedNames names := mem_versionedNames.2 ⟨hname, hv⟩
  rw [hpairs] at hpairwise hmem
  obtain ⟨_, hrest, _⟩ := List.pairwise_append.1 hpairwise
  rcases List.mem_append.1 hmem with hfront | hback
  · exact nomatch (hbefore _ hfront).symm.trans (Version.isLevelWith_iff.1 hlevel).1
  · rcases List.mem_cons.1 hback with heq | hback
    · cases heq
      exact String.le_refl best
    · have hlt : best < name := compareOfLessAndEq_eq_lt.1 ((List.pairwise_cons.1 hrest).1 _ hback)
      exact String.not_lt.1 (String.lt_asymm hlt)

/-- The words that list the tags among which the highest is looked for. -/
def listCommand (policy : TagPolicy) (reachableFrom : Option String) : List String :=
  ["git", "tag", "--list"] ++
    match policy with
    | .all => []
    | .reachable => ["--merged", match reachableFrom with
      | none | some "" => "HEAD"
      | some reference => reference]

theorem highestVersion_eq (repo : Repository) (policy : TagPolicy)
    (reachableFrom : Option String) :
    repo.highestVersion policy reachableFrom = (do
      let listing ← Script.run (listCommand policy reachableFrom) repo.rootPath
      match Version.firstMaximal? (versionedNames (listedNames listing)) with
      | none => return none
      | some (_, best) =>
        match ← repo.resolveCommit best with
        | none => Script.fail (.invalidReference best "from")
        | some commit => return some ⟨best, .tag, commit⟩) := by
  unfold highestVersion tags git
  cases policy <;> simp only [Script.bind_assoc, Script.pure_eq, Script.done_bind] <;> rfl

theorem course_highestVersion {repo : Repository} {policy : TagPolicy}
    {reachableFrom : Option String} {host : Host} {lane : Lane} {record : List Event}
    {reference : Reference}
    (h : (repo.highestVersion policy reachableFrom).Course host lane record
      (.ok (some reference))) :
    ∃ listing before rest tag,
      record = .command lane ⟨listCommand policy reachableFrom, repo.rootPath⟩ before (.ok listing) ::
        rest ∧
      Highest (listedNames listing) reference.name tag ∧ reference.kind = .tag := by
  rw [highestVersion_eq] at h
  obtain ⟨listing, before, rest, rfl, hrest⟩ := Script.course_run_bind h
  refine ⟨listing, before, rest, ?_⟩
  split at hrest
  · exact nomatch (Script.course_done.1 hrest).2
  · next tag best hbest =>
    obtain ⟨_, commit, _, rfl, _, hend⟩ := Script.course_bind_ok.1 hrest
    split at hend
    · exact nomatch (Script.course_fail.1 hend).2
    · obtain ⟨rfl, hreference⟩ := Script.course_done.1 hend
      cases hreference
      exact ⟨tag, rfl, highest_of_firstMaximal? hbest, rfl⟩

section

variable {repo : Repository} {policy : TagPolicy} {reachableFrom : Option String}

theorem exec_highestVersion {host : Host} {lane : Lane} {w listed : World} {listing : CommandResult}
    (hlisting : (Script.run (listCommand policy reachableFrom) repo.rootPath).exec host lane w =
      (.ok listing, listed)) :
    ((repo.highestVersion policy reachableFrom).exec host lane w).1 =
      match Version.firstMaximal? (versionedNames (listedNames listing)) with
      | none => .ok none
      | some (_, best) => (repo.commitOf host lane listed best).bind fun
        | none => .error (.failure (.invalidReference best "from"))
        | some commit => .ok (some ⟨best, .tag, commit⟩) := by
  rw [highestVersion_eq, Script.exec_bind, hlisting]
  dsimp only
  cases Version.firstMaximal? (versionedNames (listedNames listing)) with
  | none => rfl
  | some pair =>
    simp only [commitOf, Script.exec_bind]
    cases (repo.resolveCommit pair.2).exec host lane listed with
    | mk result v =>
      cases result with
      | error cause => rfl
      | ok commit => cases commit <;> rfl

theorem highestVersion_chooses {host : Host} {lane : Lane} {w listed : World}
    {listing : CommandResult}
    (hlisting : (Script.run (listCommand policy reachableFrom) repo.rootPath).exec host lane w =
      (.ok listing, listed)) (hok : listing.ok) :
    let names := printedNames listing.out
    let found := ((repo.highestVersion policy reachableFrom).exec host lane w).1
    (found = .ok none ↔ ∀ name ∈ names, Version.parse? name = none) ∧
    ((∃ name ∈ names, Version.parse? name ≠ none) → ∃ best tag, Chosen names best tag ∧
      ∀ commit, repo.commitOf host lane listed best = .ok (some commit) →
        found = .ok (some ⟨best, .tag, commit⟩)) ∧
    ∀ (host' : Host) (lane' : Lane) (w' listed' : World) (listing' : CommandResult),
      (Script.run (listCommand policy reachableFrom) repo.rootPath).exec host' lane' w' =
        (.ok listing', listed') → listing'.ok →
      (∀ line, line ∈ Text.lines listing'.out ↔ line ∈ Text.lines listing.out) →
      repo.commitOf host' lane' listed' = repo.commitOf host lane listed →
      ((repo.highestVersion policy reachableFrom).exec host' lane' w').1 = found := by
  intro names found
  have hmem (name : String) : name ∈ names ↔ name ∈ listedNames listing :=
    (mem_listedNames_iff hok).symm
  have hnone : Version.firstMaximal? (versionedNames (listedNames listing)) = none ↔
      ∀ name ∈ names, Version.parse? name = none := by
    simp only [hmem, firstMaximal?_versionedNames_eq_none]
  have hfound := exec_highestVersion hlisting
  refine ⟨?_, fun hsome => ?_, fun host' lane' w' listed' listing' hlisting' hok' hlines hcommit => ?_⟩
  · rw [← hnone]
    constructor
    · intro h
      cases hfirst : Version.firstMaximal? (versionedNames (listedNames listing)) with
      | none => rfl
      | some pair =>
        have hresult := hfound.symm.trans h
        simp only [hfirst] at hresult
        cases hresolve : repo.commitOf host lane listed pair.2 with
        | error cause => simp [hresolve, Except.bind] at hresult
        | ok commit => cases commit <;> simp [hresolve, Except.bind] at hresult
    · intro hfirst
      refine hfound.trans ?_
      rw [hfirst]
  · obtain ⟨name, hname, hparse⟩ := hsome
    cases hfirst : Version.firstMaximal? (versionedNames (listedNames listing)) with
    | none => exact absurd (hnone.1 hfirst name hname) hparse
    | some pair =>
      have hchosen := chosen_of_firstMaximal? (increasing_listedNames listing) hfirst
      refine ⟨pair.2, pair.1, hchosen.congr hmem, fun commit hcommit => hfound.trans ?_⟩
      simp only [hfirst, hcommit]
      rfl
  · rw [exec_highestVersion hlisting', listedNames_congr hok hok' hlines, hcommit]
    exact hfound.symm

def levelNames : List String := ["v1.0.0", "", " 1.0.0+b ", "next", "1.0.0+a", "0.9.0", "v1.0.0"]

theorem highestVersion_chooses_level :
    let found (names : List String) :=
      ((highestVersion ⟨["repo"]⟩ .all none).exec (showing names []) .main ⟨.empty, []⟩).1
    (∃ tag, Chosen (printedNames (Text.wordLines levelNames)) "1.0.0+a" tag) ∧
    found levelNames = .ok (some ⟨"1.0.0+a", .tag, "c0ffee"⟩) ∧
    found levelNames.reverse = found levelNames := by
  intro found
  have hlisting (names : List String) :
      (Script.run (listCommand .all none) (Repository.rootPath ⟨["repo"]⟩)).exec (showing names [])
        .main ⟨.empty, []⟩ = (.ok ⟨0, Text.wordLines names, ""⟩, ⟨.empty, [.command .main
          ⟨listCommand .all none, Repository.rootPath ⟨["repo"]⟩⟩ .empty
          (.ok ⟨0, Text.wordLines names, ""⟩)]⟩) := rfl
  have hlines (line : String) : line ∈ Text.lines (Text.wordLines levelNames.reverse) ↔
      line ∈ Text.lines (Text.wordLines levelNames) := by
    rw [Text.lines_wordLines_eq_flatMap, Text.lines_wordLines_eq_flatMap]
    exact (levelNames.reverse_perm.flatMap_right _).mem_iff
  have hcommit (names : List String) (w : World) :
      commitOf ⟨["repo"]⟩ (showing names []) .main w = fun _ => .ok (some "c0ffee") :=
    funext fun name => commitOf_showing ⟨["repo"]⟩ names [] .main w name
  have hfound : ((highestVersion ⟨["repo"]⟩ .all none).exec (showing levelNames []) .main
      ⟨.empty, []⟩).1 = .ok (some ⟨"1.0.0+a", .tag, "c0ffee"⟩) := by rfl
  obtain ⟨_, hsome, hsame⟩ := highestVersion_chooses (hlisting levelNames) rfl
  obtain ⟨best, tag, hchosen, hbest⟩ := hsome ⟨"1.0.0+a", by decide, by decide +kernel⟩
  cases hfound.symm.trans (hbest "c0ffee" (commitOf_showing ..))
  exact ⟨⟨tag, hchosen⟩, hfound, hsame _ _ _ _ _ (hlisting levelNames.reverse) rfl hlines
    ((hcommit _ _).trans (hcommit _ _).symm)⟩

end

end NextRelease.Repository

/-! ## Names that are read back -/

namespace NextRelease.Repository

/-- A name that a tag or a branch may have: not an empty one, without the control characters and the
blank of ASCII and without some of its signs. All other characters are allowed. -/
def IsRefName (name : String) : Prop :=
  name ≠ "" ∧ ∀ c ∈ name.toList, 0x20 < c.toNat ∧ c.toNat ≠ 0x7F ∧
    c ∉ ['~', '^', ':', '?', '*', '[', '\\']

instance (name : String) : Decidable (IsRefName name) :=
  @instDecidableAnd _ _ inferInstance (List.decidableBAll _ _)

/-- A name that keeps its line: none of the three further characters that end a line is in it, and
no blank at its two ends. -/
structure KeepsLine (name : String) : Prop where
  unbroken : ∀ c ∈ name.toList, c.toNat ∉ [0x85, 0x2028, 0x2029]
  trimmed : Text.trim name = name

/-- What is read of some names that are printed one a line: what stands on the lines of one of them,
without the blanks around it. -/
def Shown (names : List String) (shown : String) : Prop :=
  shown ≠ "" ∧ ∃ name ∈ names, ∃ line ∈ Text.lines (name ++ "\n"), Text.trim line = shown

theorem IsRefName.isBreak_iff {name : String} (h : IsRefName name) {c : Char}
    (hc : c ∈ name.toList) : Text.isBreak c ↔ c.toNat ∈ [0x85, 0x2028, 0x2029] := by
  obtain ⟨hlow, _, _⟩ := h.2 c hc
  simp only [Text.isBreak, Bool.or_eq_true, Bool.and_eq_true, decide_eq_true_eq, beq_iff_eq,
    List.mem_cons, List.not_mem_nil, or_false]
  omega

theorem Shown.keepsLine {names : List String} {shown : String} (h : Shown names shown) :
    KeepsLine shown := by
  obtain ⟨_, name, _, line, hline, rfl⟩ := h
  obtain ⟨cs, hcs, rfl⟩ := List.mem_map.1 hline
  refine ⟨fun c hc hmem => ?_, Text.trim_trim _⟩
  rw [Text.trim, Text.trimChars, String.toList_ofList, String.toList_ofList] at hc
  have hbreak := (Text.mem_of_mem_charLines hcs (Text.trimBy_subset _ _ hc)).2
  simp only [Text.isBreak, Bool.or_eq_false_iff, Bool.and_eq_false_iff, decide_eq_false_iff_not,
    beq_eq_false_iff_ne] at hbreak
  simp only [List.mem_cons, List.not_mem_nil, or_false] at hmem
  omega

theorem shown_of_keepsLine {names : List String} {name : String} (hmem : name ∈ names)
    (href : IsRefName name) (h : KeepsLine name) : Shown names name := by
  have hbreak (c : Char) (hc : c ∈ name.toList) : Text.isBreak c = false := by
    rw [← Bool.not_eq_true, href.isBreak_iff hc]
    exact h.unbroken c hc
  refine ⟨href.1, name, hmem, name, ?_, h.trimmed⟩
  rw [Text.lines_append_newline hbreak]
  exact List.mem_singleton_self name

/-- How a listing of some names is read: their lines in increasing order, each once; the names
themselves are found as far as they keep their lines. -/
structure ReadBack (names listed : List String) : Prop where
  increasing : SortedSet.Increasing listed
  mem_iff : ∀ name, name ∈ listed ↔ Shown names name
  own : ∀ name ∈ names, name ∈ listed ↔ KeepsLine name
  same_iff : (∀ name, name ∈ listed ↔ name ∈ names) ↔ ∀ name ∈ names, KeepsLine name

theorem shown_iff_mem {names : List String} (hrefs : ∀ name ∈ names, IsRefName name) :
    (∀ name, Shown names name ↔ name ∈ names) ↔ ∀ name ∈ names, KeepsLine name := by
  constructor
  · exact fun h name hmem => ((h name).2 hmem).keepsLine
  · intro h name
    constructor
    · rintro ⟨_, real, hreal, line, hline, rfl⟩
      have hbreak (c : Char) (hc : c ∈ real.toList) : Text.isBreak c = false := by
        rw [← Bool.not_eq_true, (hrefs real hreal).isBreak_iff hc]
        exact (h real hreal).unbroken c hc
      rw [Text.lines_append_newline hbreak] at hline
      rw [List.mem_singleton.1 hline, (h real hreal).trimmed]
      exact hreal
    · exact fun hmem => shown_of_keepsLine hmem (hrefs name hmem) (h name hmem)

theorem readBack_listedNames {result : CommandResult} {names printed : List String} (hok : result.ok)
    (hout : result.out = Text.wordLines printed) (hperm : printed.Perm names)
    (hrefs : ∀ name ∈ names, IsRefName name) : ReadBack names (listedNames result) := by
  have hmem (name : String) : name ∈ listedNames result ↔ Shown names name := by
    rw [mem_listedNames_iff hok, mem_printedNames, hout, Text.lines_wordLines_eq_flatMap, Shown]
    simp only [List.mem_flatMap, hperm.mem_iff]
    constructor
    · rintro ⟨hne, line, ⟨real, hreal, hline⟩, htrim⟩
      exact ⟨hne, real, hreal, line, hline, htrim⟩
    · rintro ⟨hne, real, hreal, line, hline, htrim⟩
      exact ⟨hne, line, ⟨real, hreal, hline⟩, htrim⟩
  refine ⟨increasing_listedNames result, hmem, fun name hname => ?_, ?_⟩
  · rw [hmem]
    exact ⟨Shown.keepsLine, shown_of_keepsLine hname (hrefs name hname)⟩
  · rw [← shown_iff_mem hrefs]
    simp only [hmem]

/-- Whenever the host is asked for names of a repository with some words, it prints each of them on a
line of its own, in whatever order. -/
def PrintsNames (repo : Repository) (host : Host) (words names : List String) : Prop :=
  ∀ events tree, ∃ result tree' printed,
    host.runner.respond events tree ⟨words, repo.rootPath⟩ = (.ok result, tree') ∧ result.ok ∧
      result.out = Text.wordLines printed ∧ printed.Perm names

variable {repo : Repository} {host : Host} {tags branches : List String}

theorem PrintsNames.exec {args names : List String}
    (h : repo.PrintsNames host ("git" :: args) names) (hrefs : ∀ name ∈ names, IsRefName name)
    (lane : Lane) (w : World) :
    ∃ listed w', (do return listedNames (← repo.git args) : Script (List String)).exec host lane w =
      (.ok listed, w') ∧ ReadBack names listed := by
  obtain ⟨result, tree, printed, hrespond, hok, hout, hperm⟩ := h w.events w.files
  refine ⟨listedNames result, { w with files := tree }.record
    (.command lane ⟨"git" :: args, repo.rootPath⟩ w.files (.ok result)), ?_,
    readBack_listedNames hok hout hperm hrefs⟩
  rw [git, Script.exec_bind, Script.exec_run, Request.perform, hrespond]
  rfl

theorem exec_resolved {lane : Lane} {w : World} {name commit : String}
    (hcommit : repo.commitOf host lane w name = .ok (some commit)) (role : String) (kind : RefKind) :
    ((do
      match ← repo.resolveCommit name with
      | none => Script.fail (.invalidReference name role)
      | some commit => return ⟨name, kind, commit⟩ : Script Reference).exec host lane w).1 =
        .ok ⟨name, kind, commit⟩ := by
  unfold commitOf at hcommit
  rw [Script.exec_bind]
  cases hexec : (repo.resolveCommit name).exec host lane w with
  | mk result w' =>
    rw [hexec] at hcommit
    cases hcommit
    rfl

theorem resolveReference_ok_iff (htags : repo.PrintsNames host ["git", "tag", "--list"] tags)
    (hbranches : repo.PrintsNames host
      ["git", "branch", "--list", "--format=%(refname:short)"] branches)
    (htagRefs : ∀ name ∈ tags, IsRefName name) (hbranchRefs : ∀ name ∈ branches, IsRefName name)
    {lane : Lane} {name : String}
    (hcommit : ∀ w, ∃ commit, repo.commitOf host lane w name = .ok (some commit)) (role : String)
    (w : World) :
    (∃ reference, ((repo.resolveReference name role).exec host lane w).1 = .ok reference) ↔
      Shown tags name ∨ Shown branches name := by
  obtain ⟨listed, w₁, hlisted, hread⟩ := htags.exec htagRefs lane w
  obtain ⟨listed', w₂, hlisted', hread'⟩ := hbranches.exec hbranchRefs lane w₁
  have htagged : (repo.tags none).exec host lane w = (.ok listed, w₁) := hlisted
  have hbranched : repo.branches.exec host lane w₁ = (.ok listed', w₂) := hlisted'
  rw [← hread.mem_iff, ← hread'.mem_iff, resolveReference, Script.exec_bind, htagged]
  simp only [List.contains_iff_mem]
  by_cases hmem : name ∈ listed
  · rw [if_pos hmem]
    obtain ⟨commit, hcommit⟩ := hcommit w₁
    exact ⟨fun _ => .inl hmem, fun _ => ⟨_, exec_resolved hcommit role .tag⟩⟩
  · rw [if_neg hmem, Script.exec_bind, hbranched]
    by_cases hmem' : name ∈ listed'
    · simp only [if_pos hmem']
      obtain ⟨commit, hcommit⟩ := hcommit w₂
      exact ⟨fun _ => .inr hmem', fun _ => ⟨_, exec_resolved hcommit role .branch⟩⟩
    · simp only [if_neg hmem']
      constructor
      · rintro ⟨_, h⟩
        cases h
      · rintro (h | h)
        · exact absurd h hmem
        · exact absurd h hmem'

/-- The tags and the branches of a repository, printed one a line, are read back exactly if they all
keep their lines: what is read is in increasing order what stands on the lines of the names, and a
name is taken for a reference if it is read and not if it is there. A name that keeps its line is
found, and no other one that is there. -/
theorem references_readBack (htags : repo.PrintsNames host ["git", "tag", "--list"] tags)
    (hbranches : repo.PrintsNames host
      ["git", "branch", "--list", "--format=%(refname:short)"] branches)
    (htagRefs : ∀ name ∈ tags, IsRefName name) (hbranchRefs : ∀ name ∈ branches, IsRefName name)
    (lane : Lane) (w : World) :
    (∃ listed w', (repo.tags none).exec host lane w = (.ok listed, w') ∧ ReadBack tags listed) ∧
    (∃ listed w', repo.branches.exec host lane w = (.ok listed, w') ∧ ReadBack branches listed) ∧
    ∀ name role, (∀ v, ∃ commit, repo.commitOf host lane v name = .ok (some commit)) →
      let accepted :=
        ∃ reference, ((repo.resolveReference name role).exec host lane w).1 = .ok reference
      (accepted ↔ Shown tags name ∨ Shown branches name) ∧
      (name ∈ tags ∨ name ∈ branches → (accepted ↔ KeepsLine name)) ∧
      ((∀ real, real ∈ tags ∨ real ∈ branches → KeepsLine real) →
        (accepted ↔ name ∈ tags ∨ name ∈ branches)) := by
  refine ⟨htags.exec htagRefs lane w, hbranches.exec hbranchRefs lane w, fun name role hcommit => ?_⟩
  intro accepted
  have haccepted : accepted ↔ Shown tags name ∨ Shown branches name :=
    resolveReference_ok_iff htags hbranches htagRefs hbranchRefs hcommit role w
  refine ⟨haccepted, fun hmem => ?_, fun hkeep => ?_⟩
  · rw [haccepted]
    constructor
    · rintro (hshown | hshown) <;> exact hshown.keepsLine
    · intro hkeeps
      rcases hmem with hmem | hmem
      · exact .inl (shown_of_keepsLine hmem (htagRefs name hmem) hkeeps)
      · exact .inr (shown_of_keepsLine hmem (hbranchRefs name hmem) hkeeps)
  · rw [haccepted, (shown_iff_mem htagRefs).2 (fun real hreal => hkeep real (.inl hreal)),
      (shown_iff_mem hbranchRefs).2 fun real hreal => hkeep real (.inr hreal)]

theorem printsNames_showing (repo : Repository) (tags branches : List String) :
    repo.PrintsNames (showing tags branches) ["git", "tag", "--list"] tags ∧
    repo.PrintsNames (showing tags branches)
      ["git", "branch", "--list", "--format=%(refname:short)"] branches :=
  ⟨fun _ tree => ⟨_, tree, tags, rfl, rfl, rfl, .refl _⟩,
    fun _ tree => ⟨_, tree, branches, rfl, rfl, rfl, .refl _⟩⟩

/-- Beside the tag `x\u2028y` the branch `main` is found. -/
theorem references_readBack_main :
    let repo : Repository := ⟨["repo"]⟩
    let host := showing ["x\u2028y", "v1"] ["main"]
    (∀ name ∈ ["x\u2028y", "v1"], IsRefName name) ∧ (∀ name ∈ ["main"], IsRefName name) ∧
    (∃ listed w', (repo.tags none).exec host .main ⟨.empty, []⟩ = (.ok listed, w') ∧
      ReadBack ["x\u2028y", "v1"] listed) ∧
    ∃ reference, ((repo.resolveReference "main" "to").exec host .main ⟨.empty, []⟩).1 =
      .ok reference := by
  intro repo host
  obtain ⟨htags, hbranches⟩ := printsNames_showing repo ["x\u2028y", "v1"] ["main"]
  have htagRefs : ∀ name ∈ ["x\u2028y", "v1"], IsRefName name := by decide
  have hbranchRefs : ∀ name ∈ ["main"], IsRefName name := by decide
  have hmain : KeepsLine "main" := ⟨by simp, by decide⟩
  obtain ⟨hlisted, _, hresolved⟩ :=
    references_readBack htags hbranches htagRefs hbranchRefs .main ⟨.empty, []⟩
  obtain ⟨_, haccepted, _⟩ := hresolved "main" "to" fun v => ⟨_, commitOf_showing ..⟩
  exact ⟨htagRefs, hbranchRefs, hlisted, (haccepted (.inr (List.mem_singleton_self _))).2 hmain⟩

/-- A line separator in the name of a tag makes two names of it: the tag itself is not found, and
what stands behind the separator is taken for a tag. -/
theorem not_readBack_separator :
    let repo : Repository := ⟨["repo"]⟩
    let host := showing ["x\u2028y"] []
    let resolve (name : String) := ((repo.resolveReference name "to").exec host .main ⟨.empty, []⟩).1
    IsRefName "x\u2028y" ∧
    repo.PrintsNames host ["git", "tag", "--list"] ["x\u2028y"] ∧
    repo.PrintsNames host ["git", "branch", "--list", "--format=%(refname:short)"] [] ∧
    ((repo.tags none).exec host .main ⟨.empty, []⟩).1 = .ok ["x", "y"] ∧
    resolve "x\u2028y" = .error (.failure (.invalidReference "x\u2028y" "to")) ∧
    resolve "y" = .ok ⟨"y", .tag, "c0ffee"⟩ := by
  have href : IsRefName "x\u2028y" := by decide
  have hprints := printsNames_showing ⟨["repo"]⟩ ["x\u2028y"] []
  exact ⟨href, hprints.1, hprints.2, rfl, rfl, rfl⟩

end NextRelease.Repository
