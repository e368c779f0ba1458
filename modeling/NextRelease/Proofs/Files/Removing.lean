import NextRelease.Proofs.Files.Change

/-! Removing directories. Where a tree has lost something, a walk leads to what is lost or goes on as
before; so a path whose directory was removed leads to nothing. -/

namespace NextRelease.FileTree

variable {tree tree' : FileTree} {followLast : Bool} {links : Nat} {here place : Place}
  {names : List String} {route : Route}

theorem get?_prune (tree : FileTree) (place : Place) {other : Place} (h : other ≠ []) :
    (tree.prune place).get? other = if place <+: other then none else tree.get? other := by
  rw [prune, get?_stamp, get?_restrict _ _ h]
  by_cases hbelow : place <+: other
  · simp [hbelow, List.isPrefixOf_iff_prefix.2 hbelow]
  · simp [hbelow, Bool.eq_false_iff.2 (mt List.isPrefixOf_iff_prefix.1 hbelow)]

theorem get?_prune_beside (tree : FileTree) {place other : Place} (h : ¬place <+: other) :
    (tree.prune place).get? other = tree.get? other := by
  by_cases hother : other = []
  · rw [hother]
    rfl
  · rw [get?_prune _ _ hother, if_neg h]

theorem Walks.followed (h : Walks tree false links here names place)
    (hlink : ∀ target, tree.get? place ≠ some (.link target)) :
    Walks tree true links here names place := by
  induction h with
  | here => exact .here
  | up _ ih => exact .up (ih hlink)
  | into hname hget _ ih => exact .into hname hget (ih hlink)
  | @stop links here name hname hstops =>
    refine .stop hname ?_
    cases hget : tree.get? (here ++ [name]) with
    | none => trivial
    | some node =>
      rw [hget] at hstops
      cases node with
      | link target => exact absurd hget (hlink target)
      | _ => exact hstops
  | follow hname hget _ _ ih => exact .follow hname hget (fun _ => rfl) (ih hlink)

theorem Walks.entry (h : Walks tree true links here names place) :
    ∃ entry, Walks tree false links here names entry := by
  induction h with
  | here => exact ⟨_, .here⟩
  | up _ ih =>
    obtain ⟨entry, h⟩ := ih
    exact ⟨entry, .up h⟩
  | into hname hget _ ih =>
    obtain ⟨entry, h⟩ := ih
    exact ⟨entry, .into hname hget h⟩
  | @stop links here name hname hstops =>
    refine ⟨_, .stop hname ?_⟩
    cases hget : tree.get? (here ++ [name]) with
    | none => trivial
    | some node =>
      rw [hget] at hstops
      cases node with
      | link target => rfl
      | _ => exact hstops
  | @follow links here place name target rest hname hget _ _ ih =>
    obtain ⟨entry, h⟩ := ih
    by_cases hrest : rest = []
    · subst hrest
      exact ⟨_, .stop hname (by rw [hget]; rfl)⟩
    · exact ⟨entry, .follow hname hget (fun hnil => absurd hnil hrest) h⟩

theorem removeTree_cases (tree : FileTree) (route : Route) :
    (tree.removeTree route).2 = tree ∨ ∃ place, tree.locateEntry route = .ok place ∧
      tree.get? place = some .directory ∧ tree.removeTree route = (.gone, tree.prune place) := by
  unfold removeTree
  extract_lets path stop
  split
  · exact .inl rfl
  · next place hplace =>
    split
    · exact .inl rfl
    · next hget => exact .inr ⟨place, hplace, hget, rfl⟩
    · split <;> exact .inl rfl
    · exact .inl rfl
    · exact .inl rfl

end NextRelease.FileTree
