import NextRelease.Proofs.Files.Change

/-! Plain files: routes at whose end there is nothing, or a file that has no other name. In a new
directory all routes are plain, and they stay so while files come and go and directories are made
beside them. What is written to the end of a plain route is found there, and nowhere else. -/

namespace NextRelease.FileTree

variable {tree tree' : FileTree} {route other : Route} {links : Nat} {here place : Place}
  {names front : List String} {name : String}

def Plain (tree : FileTree) (route : Route) : Prop :=
  ∀ place, tree.locateEntry route = .ok place →
    (tree.get? place = none ∨ ∃ content, tree.get? place = some (.file content)) ∧
      ¬tree.IsShared place

def Rooted (tree : FileTree) : Prop :=
  ∀ place, tree.get? place ≠ none → tree.get? place.dropLast = some .directory

/-- All lies in directories, and what has further names is there. -/
structure Grounded (tree : FileTree) : Prop where
  parent : tree.Rooted
  shared : ∀ place, tree.IsShared place → tree.get? place ≠ none

theorem grounded_of_forall (htwins : tree.twins = [])
    (h : ∀ entry ∈ tree.entries, tree.get? entry.1.dropLast = some .directory) :
    tree.Grounded := by
  refine ⟨fun place hplace => ?_, fun place hshared => ?_⟩
  · by_cases hroot : place = []
    · subst hroot
      rfl
    · rw [FileTree.get?, if_neg hroot] at hplace
      obtain ⟨node, hnode⟩ := Option.ne_none_iff_exists'.1 hplace
      obtain ⟨front, rest, hentries, _⟩ := List.lookup_eq_some_iff.1 hnode
      exact h (place, node) (by simp [hentries])
  · obtain ⟨group, hgroup, _⟩ := hshared
    simp [htwins] at hgroup

theorem Grounded.get?_below (hgrounded : tree.Grounded) (hnone : tree.get? place = none)
    {other : Place} (hbelow : place <+: other) : tree.get? other = none := by
  rcases hbelow with ⟨rest, rfl⟩
  induction rest generalizing place with
  | nil => rwa [List.append_nil]
  | cons name rest ih =>
    have hchild : tree.get? (place ++ [name]) = none := by
      refine Classical.byContradiction fun hsome => ?_
      have hparent := hgrounded.parent _ hsome
      rw [List.dropLast_concat, hnone] at hparent
      cases hparent
    rw [← List.singleton_append, ← List.append_assoc, ih hchild]

theorem locateEntry_eq_ok_iff :
    tree.locateEntry route = .ok place ↔
      refusal? route = none ∧ Walks tree false mostLinks [] route.names place := walk_eq_ok_iff

theorem locate_eq_ok_iff :
    tree.locate route = .ok place ↔
      refusal? route = none ∧ Walks tree true mostLinks [] route.names place := walk_eq_ok_iff

theorem Walks.of_keepsWays (hways : KeepsWays tree' tree)
    (h : Walks tree' false links here names place) : Walks tree false links here names place := by
  induction h with
  | here => exact .here
  | up _ ih => exact .up ih
  | into hname hget _ ih => exact .into hname (hways _ _ rfl hget) ih
  | stop hname _ => exact Enters.here.walks hname fun _ _ => rfl
  | follow hname hget hlast _ ih => exact .follow hname (hways _ _ rfl hget) hlast ih

theorem ChangesFiles.plain (h : ChangesFiles tree tree') (hplain : tree.Plain route) :
    tree'.Plain route := by
  intro place hplace
  rw [locateEntry_eq_ok_iff] at hplace
  obtain ⟨hget, hshared⟩ := hplain place
    (locateEntry_eq_ok_iff.2 ⟨hplace.1, hplace.2.of_keepsWays h.keepsWays⟩)
  refine ⟨?_, fun hshared' => hshared (h.isShared place hshared')⟩
  obtain hsame | hfile := h.get? place
  · rw [hsame]
    exact hget
  · exact hfile

/-! ## New directories -/

theorem get?_makeDirectory {other : Place} (h : tree.get? place = none) :
    ((tree.insert place .directory).stampNew place).get? other =
      if other = place then some .directory else tree.get? other := by
  rw [get?_stampNew, get?_insert _ _ _ _ fun hnil => by simp [hnil] at h]

theorem keepsWays_makeDirectory (h : tree.get? place = none) :
    KeepsWays tree ((tree.insert place .directory).stampNew place) := by
  intro other node _ hget
  rw [get?_makeDirectory h, if_neg fun hplace => by simp [hplace, h] at hget]
  exact hget

theorem Walks.enters (hways : KeepsWays tree tree')
    (h : Walks tree false links here names place) (hnew : tree'.get? place = some .directory) :
    Enters tree' links here names place := by
  induction h with
  | here => exact .here
  | up _ ih => exact .up (ih hnew)
  | into hname hget _ ih => exact .into hname (hways _ _ rfl hget) (ih hnew)
  | stop hname _ => exact .into hname hnew .here
  | follow hname hget _ _ ih => exact .follow hname (hways _ _ rfl hget) (ih hnew)

theorem enters_makeDirectory (h : tree.makeDirectory route = .ok tree') :
    ∃ place, tree.get? place = none ∧
      tree' = (tree.insert place .directory).stampNew place ∧
        Enters tree' mostLinks [] route.names place := by
  obtain ⟨place, hplace, hnone, rfl⟩ := makeDirectory_eq_ok h
  refine ⟨place, hnone, rfl, ?_⟩
  refine (locateEntry_eq_ok_iff.1 hplace).2.enters (keepsWays_makeDirectory hnone) ?_
  rw [get?_makeDirectory hnone, if_pos rfl]

theorem Grounded.plain_of_makeDirectory (hgrounded : tree.Grounded)
    (h : tree.makeDirectory route = .ok tree') (hname : IsName name)
    (hother : other.names = route.names ++ [name]) : tree'.Plain other := by
  obtain ⟨directory, hnone, rfl, henters⟩ := enters_makeDirectory h
  intro place hplace
  rw [locateEntry_eq_ok_iff, hother] at hplace
  obtain rfl := hplace.2.unique (henters.walks hname fun _ _ => rfl)
  have hempty : tree.get? (directory ++ [name]) = none := by
    refine Classical.byContradiction fun hget => ?_
    have hparent := hgrounded.parent _ hget
    rw [List.dropLast_concat, hnone] at hparent
    cases hparent
  refine ⟨.inl ?_, fun hshared => hgrounded.shared _ hshared hempty⟩
  rw [get?_makeDirectory hnone, if_neg (by simp)]
  exact hempty

theorem Plain.makeDirectory (hplain : tree.Plain route) (h : tree.makeDirectory other = .ok tree')
    {name name' : String} (hne : name ≠ name') (hname : IsName name) (hname' : IsName name')
    (hroute : route.names = front ++ [name]) (hother : other.names = front ++ [name']) :
    tree'.Plain route := by
  obtain ⟨made, hmade, hnone, rfl⟩ := makeDirectory_eq_ok h
  intro place hplace
  rw [locateEntry_eq_ok_iff] at hmade hplace
  rw [hother] at hmade
  obtain ⟨directory, henters⟩ := hmade.2.front
  obtain rfl := hmade.2.unique (henters.walks hname' fun _ _ => rfl)
  have henters' := henters.mono (keepsWays_makeDirectory hnone)
  rw [hroute] at hplace
  obtain rfl := hplace.2.unique (henters'.walks hname fun _ _ => rfl)
  obtain ⟨hget, hshared⟩ := hplain (directory ++ [name]) (locateEntry_eq_ok_iff.2
    ⟨hplace.1, hroute ▸ henters.walks hname fun _ _ => rfl⟩)
  refine ⟨?_, hshared⟩
  rwa [get?_makeDirectory hnone, if_neg (by simpa using hne)]

/-! ## Writing and reading -/

theorem get?_store {other : Place} {content : ByteArray} (hplace : place ≠ [])
    (hshared : ¬tree.IsShared place) :
    (tree.store place content).get? other =
      if other = place then some (.file content) else tree.get? other := by
  unfold store
  split
  · rw [get?_stampNew, get?_insert _ _ _ _ hplace]
  · simp only [namesAt_of_not_isShared hshared, List.foldl_cons, List.foldl_nil, get?_stamp]
    rw [get?_insert _ _ _ _ hplace]

theorem Plain.locate (hplain : tree.Plain route) (hname : IsName name)
    (hroute : route.names = front ++ [name]) (h : tree.locate route = .ok place) :
    ∃ directory, Enters tree mostLinks [] front directory ∧ place = directory ++ [name] ∧
      tree.locateEntry route = .ok place := by
  rw [locate_eq_ok_iff, hroute] at h
  obtain ⟨directory, henters⟩ := h.2.front
  have hentry : tree.locateEntry route = .ok (directory ++ [name]) :=
    locateEntry_eq_ok_iff.2 ⟨h.1, hroute ▸ henters.walks hname fun _ _ => rfl⟩
  have hlink (target : String) : tree.get? (directory ++ [name]) ≠ some (.link target) := by
    intro hget
    obtain hnone | ⟨content, hfile⟩ := (hplain _ hentry).1
    · cases hget.symm.trans hnone
    · cases hget.symm.trans hfile
  obtain rfl := h.2.unique (henters.walks hname fun target hget => absurd hget (hlink target))
  exact ⟨directory, henters, rfl, hentry⟩

theorem Plain.write (hplain : tree.Plain route) (hname : IsName name)
    (hroute : route.names = front ++ [name]) {content : ByteArray}
    (h : tree.write route content = .ok tree') :
    ∃ directory, Enters tree' mostLinks [] front directory ∧
      (∀ other, tree'.get? other =
        if other = directory ++ [name] then some (.file content) else tree.get? other) ∧
      KeepsWays tree tree' ∧ refusal? route = none := by
  obtain ⟨place, hplace, h⟩ := bind_eq_ok.1 h
  obtain ⟨directory, henters, rfl, hentry⟩ := hplain.locate hname hroute hplace
  obtain ⟨hget, hshared⟩ := hplain _ hentry
  obtain rfl : tree.store (directory ++ [name]) content = tree' := by
    obtain hnone | ⟨before, hfile⟩ := hget
    · simpa [hnone, pure, Except.pure] using h
    · simpa [hfile, pure, Except.pure] using h
  have hstore (other : Place) : (tree.store (directory ++ [name]) content).get? other =
      if other = directory ++ [name] then some (.file content) else tree.get? other :=
    get?_store (by simp) hshared
  -- What is written over is a file or nothing, and no walk goes through either.
  have hways : KeepsWays tree (tree.store (directory ++ [name]) content) := by
    intro other node hway hother
    rw [hstore, if_neg, hother]
    rintro rfl
    obtain hnone | ⟨before, hfile⟩ := hget
    · cases hother.symm.trans hnone
    · cases hother.symm.trans hfile
      cases hway
  exact ⟨directory, henters.mono hways, hstore, hways, (locate_eq_ok_iff.1 hplace).1⟩

theorem Plain.isDirectory (hplain : tree.Plain route) (hname : IsName name)
    (hroute : route.names = front ++ [name]) : tree.isDirectory route = false := by
  cases hlocate : tree.locate route with
  | error fault => simp [FileTree.isDirectory, hasKind, status, hlocate, bind, Except.bind]
  | ok place =>
    obtain ⟨_, _, _, hentry⟩ := hplain.locate hname hroute hlocate
    obtain hnone | ⟨content, hfile⟩ := (hplain place hentry).1
    · simp [FileTree.isDirectory, hasKind, status, hlocate, hnone, bind, Except.bind, throw,
        throwThe, MonadExceptOf.throw]
    · simp [FileTree.isDirectory, hasKind, status, hlocate, hfile, bind, Except.bind, pure,
        Except.pure]

theorem Plain.moveFile (hplain : tree.Plain route) (hname : IsName name)
    (hroute : route.names = front ++ [name]) {source : Place}
    (h : tree.moveFile source route = .ok tree') :
    ∃ directory content, Enters tree mostLinks [] front directory ∧
      tree.get? source = some (.file content) ∧
      (∀ other, tree'.get? other = if other = directory ++ [name] then some (.file content)
        else if other = source then none else tree.get? other) ∧
      KeepsWays tree tree' := by
  simp only [FileTree.moveFile, hplain.isDirectory hname hroute, Bool.false_eq_true, false_and,
    if_false] at h
  obtain ⟨place, hplace, h⟩ := bind_eq_ok.1 h
  obtain ⟨hget, _⟩ := hplain place hplace
  rw [locateEntry_eq_ok_iff, hroute] at hplace
  obtain ⟨directory, henters⟩ := hplace.2.front
  obtain rfl := hplace.2.unique (henters.walks hname fun _ _ => rfl)
  split at h
  · next content hsource =>
    cases h
    have hmoved := get?_moved hsource (show directory ++ [name] ≠ [] by simp)
    refine ⟨directory, content, henters, hsource, hmoved, fun other node hway hother => ?_⟩
    rw [hmoved, if_neg, if_neg, hother]
    · rintro rfl
      cases hother.symm.trans hsource
      cases hway
    · rintro rfl
      obtain hnone | ⟨before, hfile⟩ := hget
      · cases hother.symm.trans hnone
      · cases hother.symm.trans hfile
        cases hway
  · cases h

theorem read_of_locate {content : ByteArray} (hlocate : tree.locate route = .ok place)
    (hfile : tree.get? place = some (.file content)) : tree.read route = .ok content := by
  refine bind_eq_ok.2 ⟨place, hlocate, ?_⟩
  rw [hfile]
  rfl

theorem read_of_enters {directory : Place} {content : ByteArray}
    (hroute : route.names = front ++ [name]) (hname : IsName name) (hrefusal : refusal? route = none)
    (henters : Enters tree mostLinks [] front directory)
    (hget : tree.get? (directory ++ [name]) = some (.file content)) :
    tree.read route = .ok content := by
  have hlocate : tree.locate route = .ok (directory ++ [name]) :=
    locate_eq_ok_iff.2 ⟨hrefusal, hroute ▸ henters.walks hname fun target h => by simp [hget] at h⟩
  exact read_of_locate hlocate hget

theorem Plain.read_write (hplain : tree.Plain route) (hname : IsName name)
    (hroute : route.names = front ++ [name]) {content : ByteArray}
    (h : tree.write route content = .ok tree') : tree'.read route = .ok content := by
  obtain ⟨directory, henters, hget, _, hrefusal⟩ := hplain.write hname hroute h
  exact read_of_enters hroute hname hrefusal henters (by rw [hget, if_pos rfl])

theorem Plain.read_write_beside (hplain : tree.Plain route) (hother : tree.Plain other)
    {name name' : String} (hne : name ≠ name') (hname : IsName name) (hname' : IsName name')
    (hnames : route.names = front ++ [name]) (hnames' : other.names = front ++ [name'])
    {content content' : ByteArray} (hread : tree.read other = .ok content')
    (h : tree.write route content = .ok tree') : tree'.read other = .ok content' := by
  obtain ⟨directory, henters, hget, hways, _⟩ := hplain.write hname hnames h
  obtain ⟨place, hplace, hread⟩ := bind_eq_ok.1 hread
  obtain ⟨directory', henters', rfl, hentry⟩ := hother.locate hname' hnames' hplace
  have hfile : tree.get? (directory' ++ [name']) = some (.file content') := by
    obtain hnone | ⟨before, hfile⟩ := (hother _ hentry).1
    · simp [hnone, throw, throwThe, MonadExceptOf.throw] at hread
    · simp only [hfile, pure, Except.pure, Except.ok.injEq] at hread
      rw [hfile, hread]
  refine read_of_enters hnames' hname' (locate_eq_ok_iff.1 hplace).1 (henters'.mono hways) ?_
  rw [hget, if_neg (fun h => hne (by simpa using (List.append_inj_right' h rfl).symm)), hfile]

/-! ## More files

A tree that only has more than another one is walked in the same ways, and all that could be read
before is read as before. -/

section

variable {directory : Place} {content : ByteArray}

def Extends (tree tree' : FileTree) : Prop :=
  ∀ place node, tree.get? place = some node → tree'.get? place = some node

theorem Walks.of_extends {links : Nat} {here : Place} {names : List String}
    (hextends : Extends tree tree') (h : Walks tree true links here names place) {node : FileNode}
    (hget : tree.get? place = some node) : Walks tree' true links here names place := by
  induction h with
  | here => exact .here
  | up _ ih => exact .up (ih hget)
  | into hname hdirectory _ ih => exact .into hname (hextends _ _ hdirectory) (ih hget)
  | stop hname hstops =>
    rw [hget] at hstops
    exact .stop hname (by rwa [hextends _ _ hget])
  | follow hname hlink hlast _ ih => exact .follow hname (hextends _ _ hlink) hlast (ih hget)

theorem Extends.read {route : Route} (hextends : Extends tree tree')
    (h : tree.read route = .ok content) : tree'.read route = .ok content := by
  obtain ⟨place, hplace, hread⟩ := bind_eq_ok.1 h
  rw [locate_eq_ok_iff] at hplace
  cases hget : tree.get? place with
  | none => simp [hget, throw, throwThe, MonadExceptOf.throw] at hread
  | some node =>
    rw [hget] at hread
    refine bind_eq_ok.2 ⟨place, locate_eq_ok_iff.2 ⟨hplace.1, hplace.2.of_extends hextends hget⟩, ?_⟩
    rw [hextends _ _ hget]
    exact hread

def addFile (tree : FileTree) (directory : Place) (name : String) (content : ByteArray) :
    FileTree :=
  match tree.get? directory, tree.get? (directory ++ [name]) with
  | some .directory, none => tree.insert (directory ++ [name]) (.file content)
  | _, _ => tree

theorem get?_addFile (content : ByteArray) (hdirectory : tree.get? directory = some .directory)
    (hnone : tree.get? (directory ++ [name]) = none) (other : Place) :
    (tree.addFile directory name content).get? other =
      if other = directory ++ [name] then some (.file content) else tree.get? other := by
  rw [addFile, hdirectory, hnone]
  exact get?_insert _ _ _ _ (by simp)

theorem addFile_cases (tree : FileTree) (directory : Place) (name : String)
    (content : ByteArray) :
    tree.addFile directory name content = tree ∨
      tree.get? directory = some .directory ∧ tree.get? (directory ++ [name]) = none ∧
        tree.addFile directory name content =
          tree.insert (directory ++ [name]) (.file content) := by
  unfold addFile
  split
  · next hdirectory hnone => exact .inr ⟨hdirectory, hnone, rfl⟩
  · exact .inl rfl

theorem extends_addFile (tree : FileTree) (directory : Place) (name : String)
    (content : ByteArray) : Extends tree (tree.addFile directory name content) := by
  intro place node hget
  obtain hsame | ⟨_, hnone, hadded⟩ := tree.addFile_cases directory name content
  · rw [hsame, hget]
  · rw [hadded, get?_insert _ _ _ _ (by simp), if_neg, hget]
    rintro rfl
    cases hget.symm.trans hnone

theorem extends_erase (tree : FileTree) (place : Place) : Extends (tree.erase place) tree := by
  intro other node hget
  by_cases hnil : other = []
  · rwa [hnil] at hget ⊢
  · rw [get?_erase _ _ hnil] at hget
    split at hget
    · cases hget
    · exact hget

def addLink (tree : FileTree) (place : Place) (target : String) : FileTree :=
  match tree.get? place with
  | some _ => tree
  | none => tree.insert place (.link target)

theorem extends_addLink (tree : FileTree) (place : Place) (target : String) :
    Extends tree (tree.addLink place target) := by
  unfold addLink
  split
  · exact fun _ _ h => h
  · next hnone =>
    intro other node hget
    have hother : other ≠ place := by
      rintro rfl
      cases hget.symm.trans hnone
    have hne : place ≠ [] := by
      rintro rfl
      cases hnone
    rw [get?_insert _ _ _ _ hne, if_neg hother, hget]

theorem changesFiles_addFile (tree : FileTree) (directory : Place) (name : String)
    (content : ByteArray) : ChangesFiles tree (tree.addFile directory name content) := by
  obtain hsame | ⟨_, _, hadded⟩ := tree.addFile_cases directory name content
  · rw [hsame]
    exact .refl tree
  · rw [hadded]
    exact changesFiles_insert tree _ content

theorem Grounded.addFile (h : tree.Grounded) (directory : Place) (name : String)
    (content : ByteArray) : (tree.addFile directory name content).Grounded := by
  have hextends := extends_addFile tree directory name content
  refine ⟨fun place hplace => ?_, fun place hshared => ?_⟩
  · obtain hsame | ⟨hdirectory, hnone, hadded⟩ := tree.addFile_cases directory name content
    · rw [hsame] at hplace ⊢
      exact h.parent place hplace
    · by_cases heq : place = directory ++ [name]
      · rw [heq, List.dropLast_concat]
        exact hextends _ _ hdirectory
      · rw [hadded, get?_insert _ _ _ _ (by simp), if_neg heq] at hplace
        exact hextends _ _ (h.parent place hplace)
  · obtain ⟨node, hnode⟩ := Option.ne_none_iff_exists'.1 (h.shared place
      ((changesFiles_addFile tree directory name content).isShared place hshared))
    rw [hextends _ _ hnode]
    exact Option.some_ne_none node

end

end NextRelease.FileTree
