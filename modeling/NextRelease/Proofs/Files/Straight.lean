import NextRelease.Files.Resolve
import NextRelease.Proofs.Files.Plain

/-! Straight ways: places that are reached through directories alone. At the end of such a way every
file operation does what is expected of it. -/

namespace NextRelease.FileTree

variable {tree tree' : FileTree} {route : Route} {directory place : Place} {name : String}

structure Straight (tree : FileTree) (place : Place) : Prop where
  names : ∀ name ∈ place, IsName name
  directories : ∀ front, front <+: place → tree.get? front = some .directory

theorem Straight.get? (h : tree.Straight place) : tree.get? place = some .directory :=
  h.directories place (List.prefix_refl place)

theorem Straight.child (h : tree.Straight place) (hname : IsName name)
    (hget : tree.get? (place ++ [name]) = some .directory) : tree.Straight (place ++ [name]) where
  names other hother := by
    obtain hother | hother := List.mem_append.1 hother
    · exact h.names other hother
    · exact List.mem_singleton.1 hother ▸ hname
  directories front hfront := by
    obtain rfl | hfront := List.prefix_concat_iff.1 hfront
    · exact hget
    · exact h.directories front hfront

theorem Straight.above (h : tree.Straight place) {front : Place} (hfront : front <+: place) :
    tree.Straight front :=
  ⟨fun name hname => h.names name (hfront.subset hname),
    fun other hother => h.directories other (hother.trans hfront)⟩

theorem straight_nil (tree : FileTree) : tree.Straight [] :=
  ⟨fun _ hname => (nomatch hname), fun _ hfront => List.prefix_nil.1 hfront ▸ tree.get?_nil⟩

theorem Walks.ne_link {links : Nat} {here goal : Place} {names : List String}
    (h : Walks tree true links here names goal) (hhere : tree.Straight here) (target : String) :
    tree.get? goal ≠ some (.link target) := by
  induction h with
  | here => simp [hhere.get?]
  | up _ ih => exact ih (hhere.above (List.dropLast_prefix _))
  | into hname hget _ ih => exact ih (hhere.child hname hget)
  | stop _ hstops =>
    intro hlink
    rw [hlink] at hstops
    cases hstops
  | follow _ _ _ _ ih => exact ih (straight_nil tree)

theorem ne_link_of_locate (h : tree.locate route = .ok place) (target : String) :
    tree.get? place ≠ some (.link target) :=
  (locate_eq_ok_iff.1 h).2.ne_link (straight_nil tree) target

theorem Rooted.above (hrooted : tree.Rooted) {front rest : List String} (hrest : rest ≠ [])
    (hget : tree.get? (front ++ rest) ≠ none) : tree.get? front = some .directory := by
  have htake (rest : List String) (hrest : rest ≠ [])
      (hget : tree.get? (front ++ rest.reverse) ≠ none) : tree.get? front = some .directory := by
    induction rest with
    | nil => exact absurd rfl hrest
    | cons last rest ih =>
      rw [List.reverse_cons, ← List.append_assoc] at hget
      have hparent := hrooted (front ++ rest.reverse ++ [last]) hget
      rw [List.dropLast_concat] at hparent
      cases rest with
      | nil => simpa using hparent
      | cons next rest =>
        exact ih (List.cons_ne_nil _ _) (by rw [hparent]; exact Option.some_ne_none _)
  exact htake rest.reverse (by simpa using hrest) (by rwa [List.reverse_reverse])

theorem Straight.mono (hways : KeepsWays tree tree') (h : tree.Straight place) :
    tree'.Straight place :=
  ⟨h.names, fun front hfront => hways _ _ rfl (h.directories front hfront)⟩

theorem Straight.enters {front names : List String} (h : tree.Straight (front ++ names)) :
    Enters tree mostLinks front names (front ++ names) := by
  induction names generalizing front with
  | nil =>
    rw [List.append_nil]
    exact .here
  | cons name names ih =>
    rw [List.append_cons] at h
    have hnext := ih h
    rw [← List.append_cons] at hnext
    exact .into (h.names name (by simp)) (h.directories _ (List.prefix_append _ _)) hnext

/-! ## Entries of directories -/

def holdsFile (tree : FileTree) (place : Place) : Bool :=
  match tree.get? place with
  | some (.file _) => true
  | _ => false

structure Entry (tree : FileTree) (route : Route) (directory : Place) (name : String) : Prop where
  straight : tree.Straight directory
  names : route.names = directory ++ [name]
  name : IsName name
  accepted : refusal? route = none

namespace Entry

variable {content : ByteArray}

theorem locateEntry (h : tree.Entry route directory name) :
    tree.locateEntry route = .ok (directory ++ [name]) := by
  have henters : Enters tree mostLinks [] directory directory := h.straight.enters
  exact locateEntry_eq_ok_iff.2
    ⟨h.accepted, h.names ▸ henters.walks h.name fun _ _ => rfl⟩

theorem locate (h : tree.Entry route directory name)
    (hlink : ∀ target, tree.get? (directory ++ [name]) ≠ some (.link target)) :
    tree.locate route = .ok (directory ++ [name]) := by
  have henters : Enters tree mostLinks [] directory directory := h.straight.enters
  rw [locate_eq_ok_iff, h.names]
  exact ⟨h.accepted, henters.walks h.name fun target hget => absurd hget (hlink target)⟩

theorem status_file (h : tree.Entry route directory name)
    (hget : tree.get? (directory ++ [name]) = some (.file content)) :
    tree.status route = .ok .file :=
  bind_eq_ok.2 ⟨_, h.locate (by simp [hget]), by simp [hget, pure, Except.pure]⟩

theorem status_none (h : tree.Entry route directory name)
    (hget : tree.get? (directory ++ [name]) = none) : tree.status route = .error .notFound := by
  simp [status, h.locate (by simp [hget]), hget, bind, Except.bind, throw, throwThe,
    MonadExceptOf.throw]

theorem status (h : tree.Entry route directory name)
    (hlink : ∀ target, tree.get? (directory ++ [name]) ≠ some (.link target)) :
    (∃ kind, tree.status route = .ok kind ∧
      (kind == .file) = tree.holdsFile (directory ++ [name])) ∨
    tree.status route = .error .notFound ∧ false = tree.holdsFile (directory ++ [name]) := by
  cases hget : tree.get? (directory ++ [name]) with
  | none => exact .inr ⟨h.status_none hget, by simp [holdsFile, hget]⟩
  | some node =>
    cases node with
    | file content => exact .inl ⟨.file, h.status_file hget, by simp [holdsFile, hget]⟩
    | directory =>
      exact .inl ⟨.directory, bind_eq_ok.2 ⟨_, h.locate hlink, by simp [hget, pure, Except.pure]⟩,
        by simp [holdsFile, hget]⟩
    | link target => exact absurd hget (hlink target)
    | device device =>
      exact .inl ⟨.device, bind_eq_ok.2 ⟨_, h.locate hlink, by simp [hget, pure, Except.pure]⟩,
        by simp [holdsFile, hget]⟩

theorem read (h : tree.Entry route directory name)
    (hget : tree.get? (directory ++ [name]) = some (.file content)) :
    tree.read route = .ok content :=
  bind_eq_ok.2 ⟨_, h.locate (by simp [hget]), by simp [hget, pure, Except.pure]⟩

theorem makeDirectory (h : tree.Entry route directory name)
    (hget : tree.get? (directory ++ [name]) = none) :
    ∃ tree', tree.makeDirectory route = .ok tree' ∧ ∀ other, tree'.get? other =
      if other = directory ++ [name] then some .directory else tree.get? other :=
  ⟨_, bind_eq_ok.2 ⟨_, h.locateEntry, by simp only [hget]; rfl⟩, fun _ => get?_makeDirectory hget⟩

theorem makeDirectory_of_some (h : tree.Entry route directory name) {node : FileNode}
    (hget : tree.get? (directory ++ [name]) = some node) :
    tree.makeDirectory route = .error .alreadyExists := by
  simp [FileTree.makeDirectory, h.locateEntry, hget, bind, Except.bind, throw, throwThe,
    MonadExceptOf.throw]

theorem write (h : tree.Entry route directory name)
    (hget : tree.get? (directory ++ [name]) = none) (content : ByteArray) :
    ∃ tree', tree.write route content = .ok tree' ∧ ∀ other, tree'.get? other =
      if other = directory ++ [name] then some (.file content) else tree.get? other := by
  refine ⟨tree.store (directory ++ [name]) content,
    bind_eq_ok.2 ⟨_, h.locate (by simp [hget]), by simp only [hget]; rfl⟩, fun other => ?_⟩
  simp only [store, hget, Option.isNone_none, if_true, get?_stampNew]
  exact get?_insert _ _ _ _ (by simp)

theorem moveFile (h : tree.Entry route directory name)
    (hget : tree.get? (directory ++ [name]) = none) {source : Place}
    (hsource : tree.get? source = some (.file content)) :
    ∃ tree', tree.moveFile source route = .ok tree' ∧ ∀ other, tree'.get? other =
      if other = directory ++ [name] then some (.file content)
      else if other = source then none else tree.get? other := by
  have hdirectory : tree.isDirectory route = false := by
    simp [isDirectory, hasKind, h.status_none hget]
  refine ⟨((tree.erase source).restrict (· != directory ++ [name])).insert (directory ++ [name])
    (.file content) |>.stampNew (directory ++ [name]), ?_, get?_moved hsource (by simp)⟩
  simp [FileTree.moveFile, hdirectory, h.locateEntry, hsource, bind, Except.bind, pure, Except.pure]

end Entry

/-! ## Resolving -/

theorem collapse_eq_self {names : List String} (h : ∀ name ∈ names, name ≠ "..") :
    collapse names = names := by
  have hfold (here : Place) (names : List String) (h : ∀ name ∈ names, name ≠ "..") :
      names.foldl (fun here name => if name = ".." then here.dropLast else here ++ [name]) here =
        here ++ names := by
    induction names generalizing here with
    | nil => simp
    | cons name names ih =>
      rw [List.foldl_cons, if_neg (h name List.mem_cons_self),
        ih _ fun other hother => h other (List.mem_cons_of_mem _ hother), ← List.append_cons]
  exact hfold [] names h

theorem not_mem_collapse (names : List String) : ".." ∉ collapse names := by
  have hfold (here : Place) (h : ".." ∉ here) : ".." ∉ names.foldl
      (fun here name => if name = ".." then here.dropLast else here ++ [name]) here := by
    induction names generalizing here with
    | nil => exact h
    | cons name names ih =>
      refine ih _ ?_
      dsimp only
      split
      · exact fun hmem => h (List.dropLast_subset here hmem)
      · next hname => simp [h, Ne.symm hname]
  exact hfold [] List.not_mem_nil

theorem not_mem_of_resolve {cwd : Place} {path : Path} {depth : Nat}
    (h : tree.resolve cwd path depth = .ok place) : ".." ∉ place := by
  obtain ⟨followed, _, h⟩ := bind_eq_ok.1 h
  dsimp only at h
  split at h
  · cases h
  · cases h
  · cases h
    exact not_mem_collapse _

theorem followSteps_eq {cwd : Place} {depth : Nat}
    {onLink : Visits → Path → List Step → Except FileFault Path} {visits : Visits} {here : Path}
    {names : List String} (hnames : ∀ name ∈ names, name ≠ ".." ∧ Char.ofNat 0 ∉ name.toList)
    (hlink : ∀ front, front <+: names → linkTarget? tree cwd (here.below front) = none) :
    followSteps tree cwd depth onLink visits here (names.map .name) = .ok (here.below names) := by
  induction names generalizing here with
  | nil => simp [followSteps, Path.below]
  | cons name names ih =>
    obtain ⟨hup, hnull⟩ := hnames name List.mem_cons_self
    have hbelow (front : List String) : (here.below [name]).below front = here.below (name :: front) := by
      simp [Path.below]
    have hnext : followSteps tree cwd depth onLink visits (here.below [name]) (names.map .name) =
        .ok ((here.below [name]).below names) :=
      ih (fun other hother => hnames other (List.mem_cons_of_mem _ hother)) fun front hfront =>
        hbelow front ▸ hlink (name :: front) ((List.prefix_cons_inj name).2 hfront)
    simp only [List.map_cons, followSteps, if_neg hup, List.contains_iff_mem, if_neg hnull,
      hlink [name] (by simp), hnext, hbelow]

theorem not_mem_of_refusal? {route : Route} (h : refusal? route = none) {name : String}
    (hname : name ∈ route.names) : Char.ofNat 0 ∉ name.toList := by
  intro hmem
  unfold refusal? at h
  rw [if_pos (List.any_eq_true.2 ⟨name, hname, by simpa using hmem⟩)] at h
  cases h

theorem eq_nameTooLong_of_refusal? {route : Route} {fault : FileFault}
    (hnames : ∀ name ∈ route.names, Char.ofNat 0 ∉ name.toList) (h : refusal? route = some fault) :
    fault = .nameTooLong := by
  unfold refusal? at h
  split at h
  · next hany =>
    obtain ⟨name, hname, hmem⟩ := List.any_eq_true.1 hany
    exact absurd (by simpa using hmem) (hnames name hname)
  · split at h
    · exact (Option.some.inj h).symm
    · cases h

theorem fromRoot_below (path : Path) (cwd : Place) (names : List String) :
    ((⟨min path.slashes 1, []⟩ : Path).below names).fromRoot cwd =
      (⟨path.slashes, names⟩ : Path).fromRoot cwd := by
  simp only [Path.below, Path.fromRoot, Path.isAbsolute, List.nil_append]
  by_cases hslashes : path.slashes = 0
  · simp [hslashes]
  · have hmin : min path.slashes 1 ≠ 0 := by omega
    simp [hslashes, hmin]

namespace Entry

variable {path : Path} {cwd : Place}

theorem ne_up (h : tree.Entry (path.route cwd) directory name) {other : String}
    (hother : other ∈ directory ++ [name]) : other ≠ ".." := by
  obtain hother | hother := List.mem_append.1 hother
  · exact (h.straight.names other hother).1
  · exact List.mem_singleton.1 hother ▸ h.name.1

theorem null_not_mem (h : tree.Entry (path.route cwd) directory name) {other : String}
    (hother : other ∈ directory ++ [name]) : Char.ofNat 0 ∉ other.toList :=
  not_mem_of_refusal? h.accepted (h.names ▸ hother)

theorem follow (h : tree.Entry (path.route cwd) directory name)
    (hlink : ∀ target, tree.get? (directory ++ [name]) ≠ some (.link target)) (depth : Nat) :
    tree.follow cwd path depth = .ok ((⟨min path.slashes 1, []⟩ : Path).below path.names) := by
  have hnames : path.fromRoot cwd = directory ++ [name] := h.names
  have hsub (other : String) (hother : other ∈ path.names) : other ∈ directory ++ [name] := by
    rw [← hnames, Path.fromRoot]
    split
    · exact hother
    · exact List.mem_append_right _ hother
  refine followSteps_eq (fun other hother =>
    ⟨h.ne_up (hsub _ hother), h.null_not_mem (hsub _ hother)⟩) fun front hfront => ?_
  have hinside : (⟨path.slashes, front⟩ : Path).fromRoot cwd <+: directory ++ [name] := by
    rw [← hnames]
    by_cases hslashes : path.slashes = 0
    · simpa [Path.fromRoot, Path.isAbsolute, hslashes] using hfront
    · simpa [Path.fromRoot, Path.isAbsolute, hslashes] using hfront
  rw [linkTarget?, fromRoot_below,
    collapse_eq_self fun other hother => h.ne_up (hinside.subset hother)]
  obtain heq | hinside := List.prefix_concat_iff.1 hinside
  · rw [heq]
    split
    · next target hget => exact absurd hget (hlink target)
    · rfl
  · rw [h.straight.directories _ hinside]

theorem locate_ofNames (h : tree.Entry (path.route cwd) directory name)
    (hlink : ∀ target, tree.get? (directory ++ [name]) ≠ some (.link target)) :
    tree.locate (Route.ofNames (directory ++ [name])) = .ok (directory ++ [name]) ∨
      tree.locate (Route.ofNames (directory ++ [name])) = .error .nameTooLong := by
  cases hrefusal : refusal? (Route.ofNames (directory ++ [name])) with
  | none => exact .inl (Entry.locate ⟨h.straight, rfl, h.name, hrefusal⟩ hlink)
  | some fault =>
    obtain rfl := eq_nameTooLong_of_refusal? (fun _ hother => h.null_not_mem hother) hrefusal
    exact .inr (by simp [FileTree.locate, walk, hrefusal])

theorem resolve (h : tree.Entry (path.route cwd) directory name)
    (hlink : ∀ target, tree.get? (directory ++ [name]) ≠ some (.link target)) (depth : Nat) :
    tree.resolve cwd path depth = .ok (directory ++ [name]) := by
  have hnames : (⟨path.slashes, path.names⟩ : Path).fromRoot cwd = directory ++ [name] := h.names
  simp only [FileTree.resolve, h.follow hlink, bind, Except.bind, fromRoot_below]
  rw [hnames, collapse_eq_self fun other hother => h.ne_up hother]
  -- Only a loop of links or a null character would stop the second walk.
  obtain hlocate | hlocate := h.locate_ofNames hlink
  · rw [hlocate]
    rfl
  · rw [hlocate]
    rfl

end Entry

end NextRelease.FileTree
