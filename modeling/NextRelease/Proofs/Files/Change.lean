import NextRelease.Proofs.Files.Walk

/-! What the file operations change: making a directory adds one way, and writing and moving files
change nothing but files. -/

namespace NextRelease.FileTree

variable {tree tree' : FileTree}

/-! ## Looking up -/

@[simp] theorem get?_nil (tree : FileTree) : tree.get? [] = some .directory := rfl

@[simp] theorem get?_setTimes (tree : FileTree) (place other : Place) (times : FileTimes) :
    (tree.setTimes place times).get? other = tree.get? other := rfl

@[simp] theorem get?_stamp (tree : FileTree) (place other : Place) :
    (tree.stamp place).get? other = tree.get? other := rfl

@[simp] theorem get?_stampNew (tree : FileTree) (place other : Place) :
    (tree.stampNew place).get? other = tree.get? other := rfl

@[simp] theorem twins_stamp (tree : FileTree) (place : Place) :
    (tree.stamp place).twins = tree.twins := rfl

@[simp] theorem twins_stampNew (tree : FileTree) (place : Place) :
    (tree.stampNew place).twins = tree.twins := rfl

@[simp] theorem twins_insert (tree : FileTree) (place : Place) (node : FileNode) :
    (tree.insert place node).twins = tree.twins := rfl

theorem lookup_filter (entries : List (Place × FileNode)) (counts : Place → Bool) (place : Place) :
    (entries.filter fun entry => counts entry.1).lookup place =
      if counts place then entries.lookup place else none := by
  induction entries with
  | nil => simp
  | cons entry entries ih =>
    obtain ⟨p, node⟩ := entry
    by_cases hp : place = p
    · subst hp
      cases hcounts : counts place <;> simp [hcounts, ih]
    · cases hcounts : counts p <;> simp [hcounts, ih, List.lookup_cons, beq_false_of_ne hp]

theorem get?_restrict (tree : FileTree) (counts : Place → Bool) {place : Place}
    (h : place ≠ []) :
    (tree.restrict counts).get? place = if counts place then tree.get? place else none := by
  simp [get?, h, restrict, lookup_filter]

theorem get?_erase (tree : FileTree) (place : Place) {other : Place} (h : other ≠ []) :
    (tree.erase place).get? other = if other = place then none else tree.get? other := by
  simp only [erase, get?_stamp, get?_restrict _ _ h]
  by_cases hp : other = place <;> simp [hp]

theorem get?_insert_nil (tree : FileTree) (node : FileNode) (place : Place) :
    (tree.insert [] node).get? place = tree.get? place := by
  cases place with
  | nil => rfl
  | cons name names =>
    change List.lookup (name :: names) (insertEntry [] node tree.entries) = _
    change _ = List.lookup (name :: names) tree.entries
    induction tree.entries with
    | nil => simp [insertEntry, List.lookup_cons]
    | cons entry entries ih =>
      obtain ⟨p, n⟩ := entry
      by_cases hp : p = []
      · subst hp
        simp [insertEntry, List.lookup_cons]
      · simp only [insertEntry, if_neg hp, List.lookup_cons, ih]

/-! ## Places with more than one name -/

/-- Whether the file at a place has other names. -/
def IsShared (tree : FileTree) (place : Place) : Prop := ∃ group ∈ tree.twins, place ∈ group

theorem namesAt_of_not_isShared {place : Place} (h : ¬tree.IsShared place) :
    tree.namesAt place = [place] := by
  have hfind : tree.twins.find? (·.contains place) = none :=
    List.find?_eq_none.2 fun group hgroup hcontains =>
      h ⟨group, hgroup, by simpa using hcontains⟩
  rw [namesAt, hfind, Option.getD_none]

theorem isShared_of_restrict {counts : Place → Bool} {place : Place}
    (h : (tree.restrict counts).IsShared place) : tree.IsShared place ∧ counts place := by
  obtain ⟨group, hgroup, hmem⟩ := h
  simp only [restrict, List.mem_filter, List.mem_map] at hgroup
  obtain ⟨⟨whole, hwhole, rfl⟩, _⟩ := hgroup
  obtain ⟨hplace, hcounts⟩ := List.mem_filter.1 hmem
  exact ⟨⟨whole, hwhole, hplace⟩, hcounts⟩

/-! ## Changes of files only -/

structure ChangesFiles (tree tree' : FileTree) : Prop where
  get? : ∀ place, tree'.get? place = tree.get? place ∨ tree'.get? place = none ∨
    ∃ content, tree'.get? place = some (.file content)
  isShared : ∀ place, tree'.IsShared place → tree.IsShared place

theorem ChangesFiles.refl (tree : FileTree) : ChangesFiles tree tree :=
  ⟨fun _ => .inl rfl, fun _ => id⟩

theorem ChangesFiles.trans {tree'' : FileTree} (h : ChangesFiles tree tree')
    (h' : ChangesFiles tree' tree'') : ChangesFiles tree tree'' where
  get? place := by
    obtain hsame | hfile := h'.get? place
    · rw [hsame]
      exact h.get? place
    · exact .inr hfile
  isShared place hshared := h.isShared place (h'.isShared place hshared)

theorem ChangesFiles.keepsWays (h : ChangesFiles tree tree') : KeepsWays tree' tree := by
  intro place node hway hget
  obtain hsame | hnone | ⟨content, hfile⟩ := h.get? place
  · rw [← hsame, hget]
  · cases hget.symm.trans hnone
  · cases hget.symm.trans hfile
    cases hway

theorem changesFiles_insert (tree : FileTree) (place : Place) (content : ByteArray) :
    ChangesFiles tree (tree.insert place (.file content)) where
  get? other := by
    by_cases hplace : place = []
    · subst hplace
      exact .inl (get?_insert_nil tree _ other)
    · rw [get?_insert _ _ _ _ hplace]
      split
      · exact .inr (.inr ⟨content, rfl⟩)
      · exact .inl rfl
  isShared _ := id

theorem changesFiles_stamp (tree : FileTree) (place : Place) :
    ChangesFiles tree (tree.stamp place) := ⟨fun _ => .inl rfl, fun _ => id⟩

theorem changesFiles_stampNew (tree : FileTree) (place : Place) :
    ChangesFiles tree (tree.stampNew place) := ⟨fun _ => .inl rfl, fun _ => id⟩

theorem changesFiles_restrict (tree : FileTree) (counts : Place → Bool) :
    ChangesFiles tree (tree.restrict counts) where
  get? place := by
    by_cases hplace : place = []
    · subst hplace
      exact .inl rfl
    · rw [get?_restrict _ _ hplace]
      split
      · exact .inl rfl
      · exact .inr (.inl rfl)
  isShared _ hshared := (isShared_of_restrict hshared).1

theorem changesFiles_erase (tree : FileTree) (place : Place) :
    ChangesFiles tree (tree.erase place) :=
  (changesFiles_restrict tree _).trans (changesFiles_stamp _ _)

theorem changesFiles_store (tree : FileTree) (place : Place) (content : ByteArray) :
    ChangesFiles tree (tree.store place content) := by
  unfold store
  split
  · exact (changesFiles_insert _ _ _).trans (changesFiles_stampNew _ _)
  · next hget =>
    clear hget
    generalize tree.namesAt place = names
    induction names generalizing tree with
    | nil => exact .refl tree
    | cons name names ih =>
      exact ((changesFiles_insert tree name content).trans (changesFiles_stamp _ name)).trans (ih _)

theorem bind_eq_ok {ε α β : Type} {x : Except ε α} {f : α → Except ε β} {b : β} :
    (x >>= f) = .ok b ↔ ∃ a, x = .ok a ∧ f a = .ok b := by
  cases x with
  | error e => exact ⟨fun h => (nomatch h), fun ⟨_, h, _⟩ => (nomatch h)⟩
  | ok a => exact ⟨fun h => ⟨a, rfl, h⟩, fun ⟨_, h, hf⟩ => Except.ok.inj h ▸ hf⟩

theorem map_eq_ok {ε α β : Type} {x : Except ε α} {f : α → β} {b : β} :
    x.map f = .ok b ↔ ∃ a, x = .ok a ∧ f a = b := by
  cases x with
  | error e => exact ⟨fun h => (nomatch h), fun ⟨_, h, _⟩ => (nomatch h)⟩
  | ok a => exact ⟨fun h => ⟨a, rfl, Except.ok.inj h⟩, fun ⟨_, h, hf⟩ => by cases h; exact congrArg _ hf⟩

theorem changesFiles_write {route : Route} {content : ByteArray}
    (h : tree.write route content = .ok tree') : ChangesFiles tree tree' := by
  obtain ⟨place, _, h⟩ := bind_eq_ok.1 h
  split at h
  · cases h
  · cases h
    exact .refl tree
  · cases h
    exact changesFiles_store tree place content

theorem moveFile_eq_ok {source : Place} {destination : Route}
    (h : tree.moveFile source destination = .ok tree') :
    ∃ place content, tree.get? source = some (.file content) ∧
      tree' = (((tree.erase source).restrict (· != place)).insert place
        (.file content)).stampNew place := by
  unfold moveFile at h
  extract_lets target at h
  split at h
  · cases h
  · obtain ⟨place, _, h⟩ := bind_eq_ok.1 h
    split at h
    · next content hget =>
      cases h
      exact ⟨place, content, hget, rfl⟩
    · cases h

theorem get?_moved {source place : Place} {content : ByteArray}
    (hsource : tree.get? source = some (.file content)) (hplace : place ≠ []) (other : Place) :
    ((((tree.erase source).restrict (· != place)).insert place (.file content)).stampNew
      place).get? other = if other = place then some (.file content)
        else if other = source then none else tree.get? other := by
  rw [get?_stampNew, get?_insert _ _ _ _ hplace]
  by_cases hother : other = place
  · rw [if_pos hother, if_pos hother]
  · rw [if_neg hother, if_neg hother]
    by_cases hnil : other = []
    · subst hnil
      rw [if_neg (by rintro rfl; simp at hsource)]
      rfl
    · rw [get?_restrict _ _ hnil, if_pos (by simpa using hother), get?_erase _ _ hnil]

theorem changesFiles_moveFile {source : Place} {destination : Route}
    (h : tree.moveFile source destination = .ok tree') : ChangesFiles tree tree' := by
  obtain ⟨place, content, _, rfl⟩ := moveFile_eq_ok h
  exact (((changesFiles_erase _ _).trans (changesFiles_restrict _ _)).trans
    (changesFiles_insert _ _ _)).trans (changesFiles_stampNew _ _)

/-! ## New directories -/

theorem makeDirectory_eq_ok {route : Route} (h : tree.makeDirectory route = .ok tree') :
    ∃ place, tree.locateEntry route = .ok place ∧ tree.get? place = none ∧
      tree' = (tree.insert place .directory).stampNew place := by
  obtain ⟨place, hplace, h⟩ := bind_eq_ok.1 h
  split at h
  · next hget =>
    cases h
    exact ⟨place, hplace, hget, rfl⟩
  · cases h

end NextRelease.FileTree
