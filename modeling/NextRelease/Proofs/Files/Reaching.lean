import NextRelease.Proofs.Files.Plain
import NextRelease.Proofs.Files.Removing

/-! Files that are reached without going through some directory. What happens in that directory, and
to other files, makes no difference to what is read there. -/

namespace NextRelease.FileTree

variable {tree tree' : FileTree} {followLast : Bool} {links : Nat}
  {directory here goal place : Place} {names : List String} {route : Route} {node : FileNode}

def without (tree : FileTree) (directory : Place) : FileTree :=
  tree.restrict fun place => !directory.isPrefixOf place

structure Reaches (tree : FileTree) (directory : Place) (route : Route) (goal : Place)
    (node : FileNode) : Prop where
  accepted : refusal? route = none
  walks : Walks (tree.without directory) true mostLinks [] route.names goal
  found : (tree.without directory).get? goal = some node

theorem get?_without (tree : FileTree) (directory : Place) (hplace : place ≠ []) :
    (tree.without directory).get? place =
      if directory <+: place then none else tree.get? place := tree.get?_prune directory hplace

theorem get?_of_without (h : (tree.without directory).get? place = some node) :
    tree.get? place = some node ∧ (place = [] ∨ ¬directory <+: place) := by
  by_cases hplace : place = []
  · subst hplace
    exact ⟨h, .inl rfl⟩
  · rw [get?_without tree directory hplace] at h
    split at h
    · cases h
    · next houtside => exact ⟨h, .inr houtside⟩

theorem Walks.along (hways : KeepsWays tree tree')
    (hstops : Stops followLast (tree.get? goal) → Stops followLast (tree'.get? goal))
    (h : Walks tree followLast links here names goal) :
    Walks tree' followLast links here names goal := by
  induction h with
  | here => exact .here
  | up _ ih => exact .up (ih hstops)
  | into hname hget _ ih => exact .into hname (hways _ _ rfl hget) (ih hstops)
  | stop hname hgoal => exact .stop hname (hstops hgoal)
  | follow hname hget hlast _ ih => exact .follow hname (hways _ _ rfl hget) hlast (ih hstops)

theorem Walks.mono (hways : KeepsWays tree tree') (hgoal : tree'.get? goal = tree.get? goal)
    (h : Walks tree followLast links here names goal) :
    Walks tree' followLast links here names goal := h.along hways fun hstops => by rwa [hgoal]

namespace Reaches

theorem get? (h : tree.Reaches directory route goal node) : tree.get? goal = some node :=
  (get?_of_without h.found).1

theorem locate (h : tree.Reaches directory route goal node) : tree.locate route = .ok goal := by
  refine locate_eq_ok_iff.2 ⟨h.accepted, h.walks.mono (fun place node _ hget => ?_) ?_⟩
  · exact (get?_of_without hget).1
  · rw [h.get?, h.found]

theorem read_eq (h : tree.Reaches directory route goal node)
    (hlocate : tree'.locate route = .ok goal) (hget : tree'.get? goal = some node) :
    tree.read route = tree'.read route := by
  unfold FileTree.read
  rw [h.locate, hlocate]
  simp only [bind, Except.bind, h.get?, hget]

theorem mono (h : tree.Reaches directory route goal node)
    (hways : ∀ place node, ¬directory <+: place → node.isWay → tree.get? place = some node →
      tree'.get? place = some node)
    (hgoal : ¬directory <+: goal → tree'.get? goal = tree.get? goal) :
    tree'.Reaches directory route goal node := by
  -- The walk is one through the tree without the directory, and only its ways matter.
  have hkeeps : KeepsWays (tree.without directory) (tree'.without directory) := by
    intro place node hway hget
    by_cases hplace : place = []
    · subst hplace
      exact hget
    · rw [get?_without _ _ hplace] at hget ⊢
      split at hget
      · cases hget
      · next houtside =>
        rw [if_neg houtside]
        exact hways place node houtside hway hget
  have hfound : (tree'.without directory).get? goal = some node := by
    by_cases hnil : goal = []
    · subst hnil
      exact h.found
    · have hfound := h.found
      rw [get?_without _ _ hnil] at hfound ⊢
      split at hfound
      · cases hfound
      · next houtside => rw [if_neg houtside, hgoal houtside, hfound]
  exact ⟨h.accepted, h.walks.mono hkeeps (by rw [hfound, h.found]), hfound⟩

theorem of_outside (h : tree.Reaches directory route goal node)
    (hsame : ∀ place, ¬directory <+: place → tree'.get? place = tree.get? place) :
    tree'.Reaches directory route goal node :=
  h.mono (fun place _ houtside _ hget => (hsame place houtside).trans hget) (hsame goal)

end Reaches

theorem Walks.without (hnone : tree.get? directory = none) (hsame : ∀ place, place ≠ directory →
      tree'.get? place = tree.get? place) (h : Walks tree followLast links here names goal)
    (hfound : tree.get? goal ≠ none) (hhere : ¬directory <+: here) :
    Walks (tree'.without directory) followLast links here names goal ∧ ¬directory <+: goal := by
  have hstep {here : Place} {name : String} (hhere : ¬directory <+: here)
      (hget : tree.get? (here ++ [name]) ≠ none) : ¬directory <+: here ++ [name] ∧
        (tree'.without directory).get? (here ++ [name]) = tree.get? (here ++ [name]) := by
    have hne : here ++ [name] ≠ directory := fun heq => hget (heq ▸ hnone)
    have houtside : ¬directory <+: here ++ [name] := fun hbelow =>
      (List.prefix_concat_iff.1 hbelow).elim (fun heq => hne heq.symm) hhere
    exact ⟨houtside, by rw [get?_without _ _ (by simp), if_neg houtside, hsame _ hne]⟩
  induction h with
  | here => exact ⟨.here, hhere⟩
  | up _ ih =>
    obtain ⟨hwalks, hgoal⟩ := ih hfound fun hbelow => hhere (hbelow.trans (List.dropLast_prefix _))
    exact ⟨.up hwalks, hgoal⟩
  | into hname hget _ ih =>
    obtain ⟨houtside, hsame⟩ := hstep hhere fun hnone => nomatch hget.symm.trans hnone
    obtain ⟨hwalks, hgoal⟩ := ih hfound houtside
    exact ⟨.into hname (hsame.trans hget) hwalks, hgoal⟩
  | stop hname hstops =>
    obtain ⟨houtside, hsame⟩ := hstep hhere hfound
    exact ⟨.stop hname (by rwa [hsame]), houtside⟩
  | follow hname hget hlast _ ih =>
    obtain ⟨_, hsame⟩ := hstep hhere fun hnone => nomatch hget.symm.trans hnone
    have hroot : ¬directory <+: [] := by
      rintro hbelow
      rw [List.prefix_nil.1 hbelow] at hnone
      cases hnone
    obtain ⟨hwalks, hgoal⟩ := ih hfound hroot
    exact ⟨.follow hname (hsame.trans hget) hlast hwalks, hgoal⟩

theorem reaches_of_read {content : ByteArray} (hread : tree.read route = .ok content)
    (hnone : tree.get? directory = none)
    (hsame : ∀ place, place ≠ directory → tree'.get? place = tree.get? place) :
    ∃ goal node, tree.locate route = .ok goal ∧ tree.get? goal = some node ∧
      tree'.Reaches directory route goal node := by
  obtain ⟨goal, hlocate, hread⟩ := bind_eq_ok.1 hread
  obtain ⟨haccepted, hwalks⟩ := locate_eq_ok_iff.1 hlocate
  cases hget : tree.get? goal with
  | none => simp [hget, throw, throwThe, MonadExceptOf.throw] at hread
  | some node =>
    have hroot : ¬directory <+: [] := by
      rintro hbelow
      rw [List.prefix_nil.1 hbelow] at hnone
      cases hnone
    obtain ⟨hwalks, hgoal⟩ := hwalks.without hnone hsame (by simp [hget]) hroot
    refine ⟨goal, node, hlocate, hget, haccepted, hwalks, ?_⟩
    by_cases hnil : goal = []
    · subst hnil
      exact hget
    · rw [get?_without _ _ hnil, if_neg hgoal, hsame _ (fun heq => by simp [heq, hnone] at hget), hget]

end NextRelease.FileTree
