import NextRelease.Proofs.Files.Reaching
import NextRelease.Proofs.Files.Straight

/-! Files with several names. Whatever is a file by one of its names is one by all, so writing to a
file changes no way through the tree, and what was written is read by each route that leads to it. -/

namespace NextRelease.FileTree

variable {tree tree' : FileTree} {route : Route} {place other : Place} {content before : ByteArray}

def IsFileAt (tree : FileTree) (place : Place) : Prop :=
  ∃ content, tree.get? place = some (.file content)

theorem IsFileAt.get?_ne_none (h : tree.IsFileAt place) : tree.get? place ≠ none := fun hnone => by
  obtain ⟨_, hfile⟩ := h
  cases hnone.symm.trans hfile

/-- What has several names is there by each, and it is a file by all of them or by none. -/
structure SharesAlike (tree : FileTree) : Prop where
  found : ∀ place, tree.IsShared place → tree.get? place ≠ none
  alike : ∀ group ∈ tree.twins, ∀ place ∈ group, ∀ other ∈ group, tree.IsFileAt place →
    tree.IsFileAt other

theorem sharesAlike_of_twins (h : tree.twins = []) : tree.SharesAlike := by
  refine ⟨fun place ⟨group, hgroup, _⟩ => ?_, fun group hgroup => ?_⟩ <;> simp [h] at hgroup

theorem mem_namesAt_self (tree : FileTree) (place : Place) : place ∈ tree.namesAt place := by
  unfold namesAt
  cases hfind : tree.twins.find? (·.contains place) with
  | none => simp
  | some group => simpa using List.find?_some hfind

theorem get?_foldl_insert (tree : FileTree) {names : List Place} (hroot : [] ∉ names) :
    (names.foldl (fun tree name => (tree.insert name (.file content)).stamp name) tree).get? other =
      if other ∈ names then some (.file content) else tree.get? other := by
  induction names generalizing tree with
  | nil => rfl
  | cons name names ih =>
    have hname : name ≠ [] := fun heq => hroot (heq ▸ List.mem_cons_self)
    have hnames : [] ∉ names := fun hmem => hroot (List.mem_cons_of_mem _ hmem)
    rw [List.foldl_cons, ih _ hnames, get?_stamp, get?_insert _ _ _ _ hname]
    by_cases hother : other = name
    · simp [hother]
    · simp [hother]

theorem twins_store (tree : FileTree) (place : Place) (content : ByteArray) :
    (tree.store place content).twins = tree.twins := by
  unfold store
  split
  · simp
  · next hplace =>
    clear hplace
    generalize tree.namesAt place = names
    induction names generalizing tree with
    | nil => rfl
    | cons name names ih => rw [List.foldl_cons, ih, twins_stamp, twins_insert]

namespace SharesAlike

theorem isFileAt_of_mem_namesAt (h : tree.SharesAlike) (hfile : tree.IsFileAt place)
    (hmem : other ∈ tree.namesAt place) : tree.IsFileAt other := by
  unfold namesAt at hmem
  cases hfind : tree.twins.find? (·.contains place) with
  | none =>
    rw [hfind] at hmem
    rwa [List.mem_singleton.1 hmem]
  | some group =>
    rw [hfind] at hmem
    have hplace : place ∈ group := by simpa using List.find?_some hfind
    exact h.alike group (List.mem_of_find?_eq_some hfind) place hplace other hmem hfile

theorem get?_store (h : tree.SharesAlike) (hfile : tree.get? place = some (.file before)) :
    (tree.store place content).get? other =
      if other ∈ tree.namesAt place then some (.file content) else tree.get? other := by
  have hroot : [] ∉ tree.namesAt place := fun hmem => by
    obtain ⟨_, hget⟩ := h.isFileAt_of_mem_namesAt ⟨before, hfile⟩ hmem
    cases hget
  rw [store, if_neg (by simp [hfile])]
  exact get?_foldl_insert tree hroot

/-! ## What is shared stays alike -/

theorem of_get? (h : tree.SharesAlike)
    (htwins : ∀ group ∈ tree'.twins, ∃ whole ∈ tree.twins, group ⊆ whole)
    (hget : ∀ place, tree'.IsShared place → tree'.get? place = tree.get? place ∨
      tree.IsFileAt place ∧ tree'.IsFileAt place) : tree'.SharesAlike where
  found place hshared := by
    obtain hsame | ⟨_, hfile⟩ := hget place hshared
    · obtain ⟨group, hgroup, hplace⟩ := hshared
      obtain ⟨whole, hwhole, hsub⟩ := htwins group hgroup
      rw [hsame]
      exact h.found place ⟨whole, hwhole, hsub hplace⟩
    · exact hfile.get?_ne_none
  alike group hgroup place hplace other hother hfile := by
    obtain ⟨whole, hwhole, hsub⟩ := htwins group hgroup
    have hbefore : tree.IsFileAt place := by
      obtain hsame | ⟨hbefore, _⟩ := hget place ⟨group, hgroup, hplace⟩
      · rwa [IsFileAt, hsame] at hfile
      · exact hbefore
    obtain hsame | ⟨_, hafter⟩ := hget other ⟨group, hgroup, hother⟩
    · rw [IsFileAt, hsame]
      exact h.alike whole hwhole place (hsub hplace) other (hsub hother) hbefore
    · exact hafter

theorem insert (h : tree.SharesAlike) (content : ByteArray)
    (hplace : tree.IsShared place → place ≠ [] → tree.IsFileAt place) :
    (tree.insert place (.file content)).SharesAlike := by
  refine h.of_get? (fun group hgroup => ⟨group, hgroup, fun _ => id⟩) fun other hshared => ?_
  by_cases hroot : place = []
  · rw [hroot]
    exact .inl (get?_insert_nil tree _ other)
  · have hget := tree.get?_insert place other (.file content) hroot
    by_cases hother : other = place
    · subst hother
      exact .inr ⟨hplace hshared hroot, content, hget.trans (if_pos rfl)⟩
    · exact .inl (hget.trans (if_neg hother))

theorem insert_new (h : tree.SharesAlike) (content : ByteArray) (hnone : tree.get? place = none) :
    (tree.insert place (.file content)).SharesAlike :=
  h.insert content fun hshared _ => absurd hnone (h.found place hshared)

theorem addFile (h : tree.SharesAlike) (directory : Place) (name : String) (content : ByteArray) :
    (tree.addFile directory name content).SharesAlike := by
  obtain hsame | ⟨_, hnone, hadded⟩ := tree.addFile_cases directory name content
  · rwa [hsame]
  · rw [hadded]
    exact h.insert_new content hnone

theorem restrict (h : tree.SharesAlike) (counts : Place → Bool) : (tree.restrict counts).SharesAlike := by
  refine h.of_get? (fun group hgroup => ?_) fun other hshared => .inl ?_
  · simp only [FileTree.restrict, List.mem_filter, List.mem_map] at hgroup
    obtain ⟨⟨whole, hwhole, rfl⟩, _⟩ := hgroup
    exact ⟨whole, hwhole, List.filter_sublist.subset⟩
  · by_cases hother : other = []
    · rw [hother]
      rfl
    · rw [get?_restrict _ _ hother, if_pos (isShared_of_restrict hshared).2]

theorem stamp (h : tree.SharesAlike) (place : Place) : (tree.stamp place).SharesAlike :=
  ⟨h.found, h.alike⟩

theorem stampNew (h : tree.SharesAlike) (place : Place) : (tree.stampNew place).SharesAlike :=
  ⟨h.found, h.alike⟩

theorem store (h : tree.SharesAlike) (content : ByteArray)
    (hplace : tree.get? place = none ∨ tree.IsFileAt place) :
    (tree.store place content).SharesAlike := by
  obtain hnone | ⟨before, hfile⟩ := hplace
  · rw [FileTree.store, if_pos (by simp [hnone])]
    exact (h.insert_new content hnone).stampNew place
  · refine h.of_get? (fun group hgroup => ⟨group, twins_store tree place content ▸ hgroup, fun _ => id⟩)
      fun other _ => ?_
    have hget : (tree.store place content).get? other =
        if other ∈ tree.namesAt place then some (.file content) else tree.get? other :=
      h.get?_store hfile
    by_cases hother : other ∈ tree.namesAt place
    · exact .inr ⟨h.isFileAt_of_mem_namesAt ⟨before, hfile⟩ hother, content, hget.trans (if_pos hother)⟩
    · exact .inl (hget.trans (if_neg hother))

theorem write (h : tree.SharesAlike) (hwrite : tree.write route content = .ok tree') :
    tree'.SharesAlike := by
  obtain ⟨place, hlocate, hwrite⟩ := bind_eq_ok.1 hwrite
  split at hwrite
  · cases hwrite
  · cases hwrite
    exact h
  · next hdirectory hdevice =>
    cases hwrite
    refine h.store content ?_
    cases hget : tree.get? place with
    | none => exact .inl rfl
    | some node =>
      cases node with
      | file before => exact .inr ⟨before, hget⟩
      | directory => exact (hdirectory hget).elim
      | link target => exact (ne_link_of_locate hlocate target hget).elim
      | device device => exact (hdevice device hget).elim

theorem makeDirectory (h : tree.SharesAlike) (hmade : tree.makeDirectory route = .ok tree') :
    tree'.SharesAlike := by
  obtain ⟨place, _, hnone, rfl⟩ := makeDirectory_eq_ok hmade
  refine h.of_get? (fun group hgroup => ⟨group, hgroup, fun _ => id⟩) fun other hshared => .inl ?_
  rw [get?_makeDirectory hnone, if_neg]
  rintro rfl
  exact h.found other hshared hnone

theorem moveFile (h : tree.SharesAlike) {source : Place}
    (hmove : tree.moveFile source route = .ok tree') : tree'.SharesAlike := by
  obtain ⟨place, content, _, rfl⟩ := moveFile_eq_ok hmove
  refine SharesAlike.stampNew ?_ place
  refine (((h.restrict (· != source)).stamp _).restrict (· != place)).insert content fun hshared _ => ?_
  exact absurd (isShared_of_restrict hshared).2 (by simp)

theorem removeTree (h : tree.SharesAlike) (route : Route) : (tree.removeTree route).2.SharesAlike := by
  obtain hsame | ⟨place, _, _, hgone⟩ := tree.removeTree_cases route
  · rw [hsame]
    exact h
  · rw [hgone]
    exact (h.restrict _).stamp _

/-! ## Reading after writing -/

theorem get?_write (h : tree.SharesAlike) (hlocate : tree.locate route = .ok place)
    (hfile : tree.get? place = some (.file before))
    (hwrite : tree.write route content = .ok tree') :
    tree'.get? place = some (.file content) ∧ KeepsWays tree tree' := by
  obtain ⟨place', hlocate', hwrite⟩ := bind_eq_ok.1 hwrite
  obtain rfl : place = place' := Except.ok.inj (hlocate.symm.trans hlocate')
  obtain rfl : tree.store place content = tree' := by
    rw [hfile] at hwrite
    exact Except.ok.inj hwrite
  refine ⟨?_, fun other node hway hget => ?_⟩
  · rw [h.get?_store hfile, if_pos (tree.mem_namesAt_self place)]
  · rw [h.get?_store hfile, if_neg, hget]
    intro hmem
    obtain ⟨_, hnode⟩ := h.isFileAt_of_mem_namesAt ⟨before, hfile⟩ hmem
    cases hget.symm.trans hnode
    cases hway

end SharesAlike

theorem locate_of_keepsWays (h : tree.locate route = .ok place) (hways : KeepsWays tree tree')
    (hstops : Stops true (tree.get? place) → Stops true (tree'.get? place)) :
    tree'.locate route = .ok place := by
  obtain ⟨haccepted, hwalks⟩ := locate_eq_ok_iff.1 h
  exact locate_eq_ok_iff.2 ⟨haccepted, hwalks.along hways hstops⟩

theorem SharesAlike.read_write (h : tree.SharesAlike) (hfile : tree.find? route = some (.file before))
    (hwrite : tree.write route content = .ok tree') : tree'.read route = .ok content := by
  unfold find? at hfile
  split at hfile
  · next goal hlocate =>
    obtain ⟨hwritten, hways⟩ := h.get?_write hlocate hfile hwrite
    refine read_of_locate (locate_of_keepsWays hlocate hways fun _ => ?_) hwritten
    rw [hwritten]
    trivial
  · cases hfile

end NextRelease.FileTree
