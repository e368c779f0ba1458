import NextRelease.Files.Tree

/-! Ways through a file tree, step by step: where a walk leads, and what of it stays when the tree
changes. -/

namespace NextRelease

def FileNode.isWay : FileNode → Bool
  | directory | link _ => true
  | file _ | device _ => false

namespace FileTree

section

-- The equations of these definitions are derived here, once for all proofs that use them.
attribute [local simp] walkNames walkLinks walk

end

def IsName (name : String) : Prop := name ≠ ".." ∧ name.utf8ByteSize ≤ longestName

instance (name : String) : Decidable (IsName name) := inferInstanceAs (Decidable (_ ∧ _))

def Stops (followLast : Bool) : Option FileNode → Prop
  | none | some (.file _) | some (.device _) => True
  | some .directory => False
  | some (.link _) => followLast = false

inductive Walks (tree : FileTree) (followLast : Bool) : Nat → Place → List String → Place → Prop
  | here {links : Nat} {here : Place} : Walks tree followLast links here [] here
  | up {links : Nat} {here place : Place} {rest : List String} :
      Walks tree followLast links here.dropLast rest place →
        Walks tree followLast links here (".." :: rest) place
  | into {links : Nat} {here place : Place} {name : String} {rest : List String} :
      IsName name → tree.get? (here ++ [name]) = some .directory →
        Walks tree followLast links (here ++ [name]) rest place →
          Walks tree followLast links here (name :: rest) place
  | stop {links : Nat} {here : Place} {name : String} :
      IsName name → Stops followLast (tree.get? (here ++ [name])) →
        Walks tree followLast links here [name] (here ++ [name])
  | follow {links : Nat} {here place : Place} {name target : String} {rest : List String} :
      IsName name → tree.get? (here ++ [name]) = some (.link target) →
        (rest = [] → followLast = true) →
          Walks tree followLast links [] ((Path.ofString target).fromRoot here ++ rest) place →
            Walks tree followLast (links + 1) here (name :: rest) place

inductive Enters (tree : FileTree) : Nat → Place → List String → Place → Prop
  | here {links : Nat} {here : Place} : Enters tree links here [] here
  | up {links : Nat} {here place : Place} {rest : List String} :
      Enters tree links here.dropLast rest place → Enters tree links here (".." :: rest) place
  | into {links : Nat} {here place : Place} {name : String} {rest : List String} :
      IsName name → tree.get? (here ++ [name]) = some .directory →
        Enters tree links (here ++ [name]) rest place → Enters tree links here (name :: rest) place
  | follow {links : Nat} {here place : Place} {name target : String} {rest : List String} :
      IsName name → tree.get? (here ++ [name]) = some (.link target) →
        Enters tree links [] ((Path.ofString target).fromRoot here ++ rest) place →
          Enters tree (links + 1) here (name :: rest) place

variable {tree tree' : FileTree} {followLast : Bool} {links : Nat} {here place : Place}
  {names : List String}

/-! ## Walks and the function that walks -/

theorem walkNames_cons {onLink : List String → Except FileFault Place} {name : String}
    {rest : List String} (hname : IsName name) :
    walkNames tree followLast onLink here (name :: rest) =
      match tree.get? (here ++ [name]) with
      | none => if rest = [] then .ok (here ++ [name]) else .error .notFound
      | some .directory => walkNames tree followLast onLink (here ++ [name]) rest
      | some (.file _) | some (.device _) =>
        if rest = [] then .ok (here ++ [name]) else .error .notADirectory
      | some (.link target) =>
        if rest = [] ∧ followLast = false then .ok (here ++ [name])
        else onLink ((Path.ofString target).fromRoot here ++ rest) := by
  cases hget : tree.get? (here ++ [name]) with
  | none => simp only [walkNames, hname.1, Nat.not_lt.2 hname.2, if_false, hget]
  | some node =>
    cases node <;> simp only [walkNames, hname.1, Nat.not_lt.2 hname.2, if_false, hget]

theorem walkNames_of_walks (h : Walks tree followLast links here names place) :
    walkNames tree followLast (walkLinks tree followLast links) here names = .ok place := by
  induction h with
  | here => rfl
  | up _ ih => simpa [walkNames] using ih
  | into hname hdirectory _ ih => simpa [walkNames_cons hname, hdirectory] using ih
  | @stop links here name hname hstops =>
    rw [walkNames_cons hname]
    cases hget : tree.get? (here ++ [name]) with
    | none => rfl
    | some node => cases node <;> simp_all [Stops]
  | follow hname hlink hlast _ ih =>
    have hfollow : ¬(_ = [] ∧ followLast = false) := fun ⟨h, h'⟩ => nomatch h'.symm.trans (hlast h)
    simp only [walkNames_cons hname, hlink, if_neg hfollow]
    exact ih

theorem walks_of_onLink {onLink : List String → Except FileFault Place}
    (honLink : ∀ {names place}, onLink names = .ok place →
      ∃ fewer, links = fewer + 1 ∧ Walks tree followLast fewer [] names place)
    (h : walkNames tree followLast onLink here names = .ok place) :
    Walks tree followLast links here names place := by
  induction names generalizing here with
  | nil =>
    cases h
    exact .here
  | cons name rest ih =>
    by_cases hup : name = ".."
    · subst hup
      exact .up (ih (by simpa [walkNames] using h))
    · by_cases hlong : longestName < name.utf8ByteSize
      · simp [walkNames, hup, hlong] at h
      · have hname : IsName name := ⟨hup, Nat.not_lt.1 hlong⟩
        have hstop {fault : FileFault} (hstops : Stops followLast (tree.get? (here ++ [name])))
            (h : (if rest = [] then Except.ok (here ++ [name]) else .error fault) = .ok place) :
            Walks tree followLast links here (name :: rest) place := by
          split at h
          · next hrest =>
            cases h
            subst hrest
            exact .stop hname hstops
          · cases h
        rw [walkNames_cons hname] at h
        split at h
        · next hget => exact hstop (by simp [hget, Stops]) h
        · next hget => exact .into hname hget (ih h)
        · next content hget => exact hstop (by simp [hget, Stops]) h
        · next device hget => exact hstop (by simp [hget, Stops]) h
        · next target hget =>
          split at h
          · next hrest =>
            obtain ⟨rfl, hlast⟩ := hrest
            cases h
            exact .stop hname (by simp [hget, Stops, hlast])
          · next hrest =>
            obtain ⟨fewer, rfl, hwalks⟩ := honLink h
            exact .follow hname hget (fun hnil => by simpa [hnil] using hrest) hwalks

theorem walks_of_walkNames
    (h : walkNames tree followLast (walkLinks tree followLast links) here names = .ok place) :
    Walks tree followLast links here names place := by
  induction links generalizing here names place with
  | zero => exact walks_of_onLink (fun h => by simp [walkLinks] at h) h
  | succ links ih => exact walks_of_onLink (fun h => ⟨links, rfl, ih h⟩) h

theorem walkNames_eq_ok_iff :
    walkNames tree followLast (walkLinks tree followLast links) here names = .ok place ↔
      Walks tree followLast links here names place :=
  ⟨walks_of_walkNames, walkNames_of_walks⟩

def mostLinks : Nat := 40

theorem walk_eq_ok_iff {route : Route} :
    tree.walk followLast route = .ok place ↔
      refusal? route = none ∧ Walks tree followLast mostLinks [] route.names place := by
  unfold walk
  cases refusal? route with
  | some fault => simp
  | none =>
    have hwalks : walkLinks tree followLast 41 route.names = .ok place ↔
        Walks tree followLast mostLinks [] route.names place := walkNames_eq_ok_iff
    simpa using hwalks

theorem Walks.unique {other : Place} (h : Walks tree followLast links here names place)
    (h' : Walks tree followLast links here names other) : place = other :=
  Except.ok.inj ((walkNames_of_walks h).symm.trans (walkNames_of_walks h'))

/-! ## Walks through directories -/

def KeepsWays (tree tree' : FileTree) : Prop :=
  ∀ place node, node.isWay → tree.get? place = some node → tree'.get? place = some node

theorem Enters.mono (hways : KeepsWays tree tree') (h : Enters tree links here names place) :
    Enters tree' links here names place := by
  induction h with
  | here => exact .here
  | up _ ih => exact .up ih
  | into hname hget _ ih => exact .into hname (hways _ _ rfl hget) ih
  | follow hname hget _ ih => exact .follow hname (hways _ _ rfl hget) ih

theorem Enters.walks {name : String} (h : Enters tree links here names place) (hname : IsName name)
    (hlink : ∀ target, tree.get? (place ++ [name]) = some (.link target) → followLast = false) :
    Walks tree followLast links here (names ++ [name]) (place ++ [name]) := by
  induction h with
  | @here links here =>
    cases hget : tree.get? (here ++ [name]) with
    | none => exact .stop hname (by simp [hget, Stops])
    | some node =>
      cases node with
      | directory => exact .into hname hget .here
      | file content => exact .stop hname (by simp [hget, Stops])
      | device device => exact .stop hname (by simp [hget, Stops])
      | link target => exact .stop hname (by simp [hget, Stops, hlink target hget])
  | up _ ih => exact .up (ih hlink)
  | into hinto hget _ ih => exact .into hinto hget (ih hlink)
  | follow hinto hget _ ih =>
    exact .follow hinto hget (fun h => by simp at h) (List.append_assoc .. ▸ ih hlink)

theorem Enters.arrives (h : Enters tree links here names place) :
    Walks tree true links here names place := by
  induction h with
  | here => exact .here
  | up _ ih => exact .up ih
  | into hname hget _ ih => exact .into hname hget ih
  | follow hname hget _ ih => exact .follow hname hget (fun _ => rfl) ih

theorem Enters.unique {other : Place} (h : Enters tree links here names place)
    (h' : Enters tree links here names other) : place = other := h.arrives.unique h'.arrives

theorem Walks.front {name : String} (h : Walks tree followLast links here (names ++ [name]) place) :
    ∃ directory, Enters tree links here names directory := by
  generalize hall : names ++ [name] = all at h
  induction h generalizing names with
  | here => simp at hall
  | up _ ih =>
    cases names with
    | nil => exact ⟨_, .here⟩
    | cons first names =>
      cases hall
      obtain ⟨directory, h⟩ := ih rfl
      exact ⟨directory, .up h⟩
  | into hname hget _ ih =>
    cases names with
    | nil => exact ⟨_, .here⟩
    | cons first names =>
      cases hall
      obtain ⟨directory, h⟩ := ih rfl
      exact ⟨directory, .into hname hget h⟩
  | stop hname hstops =>
    cases names with
    | nil => exact ⟨_, .here⟩
    | cons first names => simp at hall
  | follow hname hget _ _ ih =>
    cases names with
    | nil => exact ⟨_, .here⟩
    | cons first names =>
      cases hall
      obtain ⟨directory, h⟩ := ih (List.append_assoc ..)
      exact ⟨directory, .follow hname hget h⟩

end FileTree

/-! ## Routes below a directory -/

def IsEntryName (name : String) : Prop :=
  Path.ofString name = ⟨0, [name]⟩ ∧ FileTree.IsName name

theorem Path.child_eq (path : Path) {name : String} (h : IsEntryName name) :
    path.child name = ⟨path.slashes, path.names ++ [name]⟩ := by
  simp [child, join, h.1, isAbsolute]

theorem Path.names_route_child (path : Path) (cwd : Place) {name : String} (h : IsEntryName name) :
    ((path.child name).route cwd).names = (path.route cwd).names ++ [name] := by
  rw [path.child_eq h]
  by_cases hslashes : path.slashes = 0 <;> simp [route, fromRoot, isAbsolute, hslashes]

end NextRelease
