import NextRelease.Proofs.Files.Straight

/-! The places that a look-up depends on. Two trees that have the same at all of them are looked up
with the same result, whatever else they hold. -/

namespace NextRelease.FileTree

variable {tree tree' : FileTree} {links : Nat} {here place : Place} {names : List String}

inductive Looks (tree : FileTree) : Nat → Place → List String → Place → Prop
  | here {links : Nat} {here : Place} : Looks tree links here [] here
  | up {links : Nat} {here place : Place} {rest : List String} :
      Looks tree links here.dropLast rest place → Looks tree links here (".." :: rest) place
  | entry {links : Nat} {here : Place} {name : String} {rest : List String} :
      IsName name → Looks tree links here (name :: rest) (here ++ [name])
  | into {links : Nat} {here place : Place} {name : String} {rest : List String} :
      IsName name → tree.get? (here ++ [name]) = some .directory →
        Looks tree links (here ++ [name]) rest place → Looks tree links here (name :: rest) place
  | follow {links : Nat} {here place : Place} {name target : String} {rest : List String} :
      IsName name → tree.get? (here ++ [name]) = some (.link target) →
        Looks tree links [] ((Path.ofString target).fromRoot here ++ rest) place →
          Looks tree (links + 1) here (name :: rest) place

def SameOnLooks (tree tree' : FileTree) (links : Nat) (here : Place) (names : List String) : Prop :=
  ∀ place, Looks tree links here names place → tree'.get? place = tree.get? place

/-! ## What a look-up comes to -/

theorem Walks.looks (h : Walks tree true links here names place) :
    Looks tree links here names place := by
  induction h with
  | here => exact .here
  | up _ ih => exact .up ih
  | into hname hget _ ih => exact .into hname hget ih
  | stop hname _ => exact .entry hname
  | follow hname hget _ _ ih => exact .follow hname hget ih

theorem walkNames_congr_of_onLink {onLink onLink' : List String → Except FileFault Place}
    (honLink : ∀ names,
      (∀ fewer, links = fewer + 1 → SameOnLooks tree tree' fewer [] names) →
        onLink' names = onLink names)
    (h : SameOnLooks tree tree' links here names) :
    walkNames tree' true onLink' here names = walkNames tree true onLink here names := by
  induction names generalizing here with
  | nil => rfl
  | cons name rest ih =>
    by_cases hup : name = ".."
    · subst hup
      simpa [walkNames] using ih fun place hplace => h place (.up hplace)
    · by_cases hlong : longestName < name.utf8ByteSize
      · simp [walkNames, hup, hlong]
      · have hname : IsName name := ⟨hup, Nat.not_lt.1 hlong⟩
        rw [walkNames_cons hname, walkNames_cons hname, h _ (.entry hname)]
        cases hget : tree.get? (here ++ [name]) with
        | none => rfl
        | some node =>
          cases node with
          | directory => exact ih fun place hplace => h place (.into hname hget hplace)
          | file content => rfl
          | device device => rfl
          | link target =>
            simp only [Bool.true_eq_false, and_false, if_false]
            refine honLink _ ?_
            rintro fewer rfl place hplace
            exact h place (.follow hname hget hplace)

theorem walkNames_congr (h : SameOnLooks tree tree' links here names) :
    walkNames tree' true (walkLinks tree' true links) here names =
      walkNames tree true (walkLinks tree true links) here names := by
  induction links generalizing here names with
  | zero => exact walkNames_congr_of_onLink (fun _ _ => rfl) h
  | succ links ih => exact walkNames_congr_of_onLink (fun names hnames => ih (hnames links rfl)) h

section Routes

variable {route : Route} (h : SameOnLooks tree tree' mostLinks [] route.names)

include h

theorem locate_congr : tree'.locate route = tree.locate route := by
  unfold locate walk
  split
  · rfl
  · exact walkNames_congr h

theorem get?_congr_of_locate (hlocate : tree.locate route = .ok place) :
    tree'.get? place = tree.get? place :=
  h place (locate_eq_ok_iff.1 hlocate).2.looks

theorem status_congr : tree'.status route = tree.status route := by
  unfold status
  rw [locate_congr h]
  cases hlocate : tree.locate route with
  | error fault => rfl
  | ok place =>
    have hget := get?_congr_of_locate h hlocate
    simp only [bind, Except.bind, hget]

theorem read_congr : tree'.read route = tree.read route := by
  unfold read
  rw [locate_congr h]
  cases hlocate : tree.locate route with
  | error fault => rfl
  | ok place =>
    have hget := get?_congr_of_locate h hlocate
    simp only [bind, Except.bind, hget]

end Routes

/-! ## Where is looked -/

theorem Looks.mono {more : Nat} (h : Looks tree links here names place) (hle : links ≤ more) :
    Looks tree more here names place := by
  induction h generalizing more with
  | here => exact .here
  | up _ ih => exact .up (ih hle)
  | entry hname => exact .entry hname
  | into hname hget _ ih => exact .into hname hget (ih hle)
  | follow hname hget _ ih =>
    obtain ⟨more, rfl⟩ : ∃ fewer, more = fewer + 1 := ⟨more - 1, by omega⟩
    exact .follow hname hget (ih (by omega))

theorem Looks.of_keepsWays (hways : KeepsWays tree' tree) (h : Looks tree' links here names place) :
    Looks tree links here names place := by
  induction h with
  | here => exact .here
  | up _ ih => exact .up ih
  | entry hname => exact .entry hname
  | into hname hget _ ih => exact .into hname (hways _ _ rfl hget) ih
  | follow hname hget _ ih => exact .follow hname (hways _ _ rfl hget) ih

theorem Looks.of_enters {directory : Place} {rest : List String}
    (henters : Enters tree links here names directory) (hways : KeepsWays tree tree')
    (h : Looks tree' links here (names ++ rest) place) :
    tree.get? place ≠ none ∨ Looks tree' links directory rest place := by
  induction henters with
  | here => exact .inr h
  | up _ ih =>
    cases h with
    | up h => exact ih h
    | entry hname => exact absurd rfl hname.1
    | into hname => exact absurd rfl hname.1
    | follow hname => exact absurd rfl hname.1
  | into hname hget henters ih =>
    have hget' := hways _ _ rfl hget
    cases h with
    | up h => exact absurd rfl hname.1
    | entry => exact .inl (by rw [hget]; exact Option.some_ne_none _)
    | into _ _ h => exact ih h
    | follow _ hlink => cases hget'.symm.trans hlink
  | follow hname hget henters ih =>
    have hget' := hways _ _ rfl hget
    cases h with
    | up h => exact absurd rfl hname.1
    | entry => exact .inl (by rw [hget]; exact Option.some_ne_none _)
    | into _ hdirectory => cases hget'.symm.trans hdirectory
    | follow _ hlink h =>
      cases hget'.symm.trans hlink
      exact (ih (List.append_assoc .. ▸ h)).imp_right fun h => h.mono (Nat.le_succ _)

theorem Enters.straight (h : Enters tree links here names place) (hhere : tree.Straight here) :
    tree.Straight place := by
  induction h with
  | here => exact hhere
  | up _ ih => exact ih (hhere.above (List.dropLast_prefix _))
  | into hname hget _ ih => exact ih (hhere.child hname hget)
  | follow _ _ _ ih => exact ih (straight_nil tree)

/-! ## Operations on a name that is free -/

section Free

variable {directory : Place} {front : List String} {name : String} {route : Route}
  (henters : Enters tree mostLinks [] front directory) (hnames : route.names = front ++ [name])
  (hname : IsName name) (hnone : tree.get? (directory ++ [name]) = none)

include henters hnames hname hnone

theorem walk_of_free (followLast : Bool) :
    tree.walk followLast route =
      match refusal? route with
      | some fault => .error fault
      | none => .ok (directory ++ [name]) := by
  cases hrefusal : refusal? route with
  | some fault => simp only [walk, hrefusal]
  | none =>
    exact walk_eq_ok_iff.2 ⟨hrefusal, hnames ▸ henters.walks hname fun target hlink => by
      cases hnone.symm.trans hlink⟩

theorem makeDirectory_of_free :
    tree.makeDirectory route =
      match refusal? route with
      | some fault => .error fault
      | none => .ok ((tree.insert (directory ++ [name]) .directory).stampNew (directory ++ [name])) := by
  rw [makeDirectory, locateEntry, walk_of_free henters hnames hname hnone]
  cases refusal? route with
  | some fault => rfl
  | none => simp only [bind, Except.bind, hnone, pure, Except.pure]

theorem moveFile_of_free (source : Place) :
    tree.moveFile source route =
      match refusal? route, tree.get? source with
      | some fault, _ => .error fault
      | none, some (.file content) =>
        .ok ((((tree.erase source).restrict (· != directory ++ [name])).insert (directory ++ [name])
          (.file content)).stampNew (directory ++ [name]))
      | none, _ => .error .notFound := by
  have hwalk := walk_of_free henters hnames hname hnone
  have hdirectory : tree.isDirectory route = false := by
    unfold isDirectory hasKind status locate
    rw [hwalk]
    cases refusal? route with
    | some fault => rfl
    | none => simp [bind, Except.bind, hnone, throw, throwThe, MonadExceptOf.throw]
  unfold moveFile locateEntry
  simp only [hdirectory, Bool.false_eq_true, if_false, false_and, hwalk]
  cases refusal? route with
  | some fault => rfl
  | none =>
    cases tree.get? source with
    | none => rfl
    | some node => cases node <;> rfl

end Free

end NextRelease.FileTree
