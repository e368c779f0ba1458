import Mathlib
import NextRelease.Proofs.Decision.Workspace
import NextRelease.Proofs.Package.Declaring

/-! Writing a version loses nothing. A manifest that can be read is written whenever its texts have a
form in a file; it is read again with no other difference than the version, and what is written does
not depend on the version that was there. -/

namespace NextRelease

namespace Fields

variable {key : Text} {value other : Json} {fields : Fields}

/-- Setting a key: its value is another one in its old place or, where the key is new, comes last. -/
inductive Sets (key : Text) (value : Json) : Fields → Fields → Prop
  | replaced {front rest : Fields} {old : Json} : key ∉ front.keys →
      Sets key value (front ++ (key, old) :: rest) (front ++ (key, value) :: rest)
  | added {fields : Fields} : key ∉ fields.keys → Sets key value fields (fields ++ [(key, value)])

theorem Sets.cons {after : Fields} {field : Text × Json} (hne : field.1 ≠ key)
    (h : Sets key value fields after) : Sets key value (field :: fields) (field :: after) := by
  cases h with
  | @replaced front rest old hnew =>
    rw [← List.cons_append, ← List.cons_append]
    exact .replaced (List.not_mem_cons_of_ne_of_not_mem hne.symm hnew)
  | added hnew =>
    rw [← List.cons_append]
    exact .added (List.not_mem_cons_of_ne_of_not_mem hne.symm hnew)

theorem sets_set (key : Text) (value : Json) (fields : Fields) :
    Sets key value fields (fields.set key value) := by
  induction fields with
  | nil => exact .added List.not_mem_nil
  | cons field fields ih =>
    obtain ⟨k, old⟩ := field
    by_cases hk : k = key
    · subst hk
      rw [set, if_pos rfl, ← List.nil_append ((k, old) :: fields)]
      exact .replaced List.not_mem_nil
    · rw [set, if_neg hk]
      exact ih.cons hk

theorem Sets.eq_set {after : Fields} (h : Sets key value fields after) :
    after = fields.set key value := by
  cases h with
  | @replaced front rest old hnew =>
    induction front with
    | nil => exact (if_pos rfl).symm
    | cons field front ih =>
      obtain ⟨hne, hnew⟩ := List.ne_and_not_mem_of_not_mem_cons hnew
      rw [List.cons_append, List.cons_append, set, if_neg hne.symm, ← ih hnew]
  | added hnew => exact (set_of_not_mem hnew value).symm

theorem set_set (key : Text) (value other : Json) (fields : Fields) :
    (fields.set key other).set key value = fields.set key value := by
  induction fields with
  | nil => simp [set]
  | cons field fields ih =>
    obtain ⟨k, old⟩ := field
    by_cases hk : k = key
    · simp [set, hk]
    · simp only [set, if_neg hk, ih]

end Fields

namespace Json

/-- In no text of a value does half of a surrogate pair stand alone. -/
inductive IsPaired : Json → Prop
  | null : IsPaired null
  | bool (b : Bool) : IsPaired (bool b)
  | int (n : Int) : IsPaired (int n)
  | float (x : Binary64) : IsPaired (float x)
  | str {t : Text} : t.IsPaired → IsPaired (str t)
  | arr {items : List Json} : (∀ item ∈ items, IsPaired item) → IsPaired (arr items)
  | obj {fields : List (Text × Json)} : (∀ field ∈ fields, field.1.IsPaired) →
      (∀ field ∈ fields, IsPaired field.2) → IsPaired (obj fields)

theorem IsPaired.set {fields : Fields} {key t : Text} (h : IsPaired (.obj fields))
    (hkey : key.IsPaired) (ht : t.IsPaired) : IsPaired (.obj (fields.set key (.str t))) := by
  cases h with
  | obj hkeys hfields =>
    refine .obj (fun field hfield => ?_) fun field hfield => ?_
    · obtain rfl | hfield := Fields.mem_set hfield
      · exact hkey
      · exact hkeys field hfield
    · obtain rfl | hfield := Fields.mem_set hfield
      · exact .str ht
      · exact hfields field hfield

/-! ## What is written -/

theorem isPaired_writePlainText {t : Text} (h : t.IsPaired) : (writePlainText t).IsPaired := by
  obtain ⟨cs, rfl⟩ := h
  refine .cons _ (.append ?_ ⟨['\x22'], rfl⟩)
  induction cs with
  | nil => exact ⟨[], rfl⟩
  | cons c cs ih => exact .append ⟨plainChars c, plainPoint_scalar c⟩ ih

theorem isPaired_newLine {rest : Text} (level : Nat) (h : rest.IsPaired) :
    (newLine level rest).IsPaired := by
  rw [newLine, ← List.replicate_eq_replicateTR]
  exact .append ⟨'\n' :: List.replicate (2 * level) ' ', by simp [Text.ofChars]⟩ h

def WritesPaired (value : Json) : Prop :=
  ∀ level rest, Text.IsPaired rest → (indentedOnto writePlainText level value rest).IsPaired

theorem isPaired_indentedItems {items : List Json} (hitems : ∀ item ∈ items, WritesPaired item)
    (level : Nat) {rest : Text} (hrest : rest.IsPaired) :
    (indentedItems writePlainText level items rest).IsPaired := by
  induction items with
  | nil => exact hrest
  | cons item items ih =>
    have hitem := hitems item List.mem_cons_self
    have hmore := ih fun other hother => hitems other (List.mem_cons_of_mem _ hother)
    cases items with
    | nil => exact isPaired_newLine level (hitem level rest hrest)
    | cons next items => exact isPaired_newLine level (hitem level _ (hmore.cons ','))

theorem isPaired_indentedFields {fields : List (Text × Json)}
    (hkeys : ∀ field ∈ fields, field.1.IsPaired) (hfields : ∀ field ∈ fields, WritesPaired field.2)
    (level : Nat) {rest : Text} (hrest : rest.IsPaired) :
    (indentedFields writePlainText level fields rest).IsPaired := by
  induction fields with
  | nil => exact hrest
  | cons field fields ih =>
    have hkey := (isPaired_writePlainText (hkeys field List.mem_cons_self)).append (.of_string ": ")
    have hfield := hfields field List.mem_cons_self
    have hmore := ih (fun other hother => hkeys other (List.mem_cons_of_mem _ hother))
      fun other hother => hfields other (List.mem_cons_of_mem _ hother)
    cases fields with
    | nil => exact isPaired_newLine level (hkey.append (hfield level rest hrest))
    | cons next fields =>
      exact isPaired_newLine level (hkey.append (hfield level _ (hmore.cons ',')))

theorem IsPaired.writes {value : Json} (h : IsPaired value) : WritesPaired value := by
  induction h with
  | null => exact fun _ _ hrest => (Text.IsPaired.of_string "null").append hrest
  | bool b => exact fun _ _ hrest => (Text.IsPaired.of_string _).append hrest
  | int n => exact fun _ _ hrest => Text.IsPaired.append ⟨writeInt n, rfl⟩ hrest
  | float x => exact fun _ _ hrest => Text.IsPaired.append ⟨x.write numberLayout, rfl⟩ hrest
  | str ht => exact fun _ _ hrest => (isPaired_writePlainText ht).append hrest
  | @arr items _ ih =>
    intro level rest hrest
    cases items with
    | nil => exact (Text.IsPaired.of_string "[]").append hrest
    | cons item items =>
      exact (isPaired_indentedItems ih _ (isPaired_newLine level (hrest.cons ']'))).cons '['
  | @obj fields hkeys _ ih =>
    intro level rest hrest
    cases fields with
    | nil => exact (Text.IsPaired.of_string "\x7b\x7d").append hrest
    | cons field fields =>
      exact (isPaired_indentedFields hkeys ih _ (isPaired_newLine level (hrest.cons '\x7d'))).cons
        '\x7b'

end Json

namespace FileTree

variable {tree tree' : FileTree} {route : Route} {content : ByteArray}

theorem namesAt_store (tree : FileTree) (place other : Place) (content : ByteArray) :
    (tree.store place content).namesAt other = tree.namesAt other := by
  unfold namesAt
  rw [twins_store]

theorem SharesAlike.write_file (h : tree.SharesAlike) {before : ByteArray}
    (hfile : tree.find? route = some (.file before)) (content : ByteArray) :
    ∃ tree', tree.write route content = .ok tree' ∧
      ∀ later, ∃ first second, tree.write route later = .ok first ∧
        first.write route content = .ok second ∧
        ∀ place, second.get? place = tree'.get? place := by
  unfold find? at hfile
  split at hfile
  · next goal hlocate =>
    have hwrite {tree : FileTree} {before : ByteArray} (hlocate : tree.locate route = .ok goal)
        (hfile : tree.get? goal = some (.file before)) (content : ByteArray) :
        tree.write route content = .ok (tree.store goal content) := by
      refine bind_eq_ok.2 ⟨goal, hlocate, ?_⟩
      rw [hfile]
      rfl
    refine ⟨_, hwrite hlocate hfile content, fun later => ?_⟩
    have hfirst := hwrite hlocate hfile later
    obtain ⟨hlater, hways⟩ := h.get?_write hlocate hfile hfirst
    have hlocate' := locate_of_keepsWays hlocate hways fun _ => by
      rw [hlater]
      trivial
    refine ⟨_, _, hfirst, hwrite hlocate' hlater content, fun place => ?_⟩
    have hstore (content : ByteArray) : (tree.store goal content).get? place =
        if place ∈ tree.namesAt goal then some (.file content) else tree.get? place :=
      h.get?_store hfile
    have hshares := h.store later (.inr ⟨_, hfile⟩)
    rw [hshares.get?_store hlater, namesAt_store, hstore, hstore]
    split <;> rfl
  · cases hfile

end FileTree

namespace Manifest

open Json Script

variable {host : Host} {lane : Lane} {path : Path} {depth : Nat} {manifest : Fields} {w : World}
  {version : String}

theorem HeldBy.exec_load (h : HeldBy manifest w.files (path.route host.cwd) depth) :
    (load path depth).exec host lane w = (.ok manifest, w.record (.read lane path w.files)) := by
  obtain ⟨content, hfile⟩ := h.find?
  obtain ⟨bytes, text, source, hread, hdecode, hparse⟩ := h
  have hstatus : w.files.status (path.route host.cwd) = .ok .file := by
    unfold FileTree.find? at hfile
    split at hfile
    · next goal hlocate =>
      refine FileTree.bind_eq_ok.2 ⟨goal, hlocate, ?_⟩
      rw [hfile]
      rfl
    · cases hfile
  have hreads := read_of_parse hparse
  simp only [load, isFile, readText, files, Script.ask_bind, Script.done_bind, Script.pure_eq,
    Script.exec, Request.perform, hstatus, hread, World.look_ok, hdecode, beq_self_eq_true, if_true, exec_ofExcept,
    parse, hreads]

theorem toString?_withVersion (h : IsPaired (.obj manifest)) (version : String) :
    ∃ text, (withVersion manifest version).toString? = some text :=
  ((h.set (.of_string _) (.of_string _)).writes 0 [] ⟨[], rfl⟩).append ⟨['\n'], rfl⟩ |>.toString?

theorem HeldBy.exec_writeVersion {text : String} {tree : FileTree}
    (h : HeldBy manifest w.files (path.route host.cwd) (depth - 1))
    (htext : (withVersion manifest version).toString? = some text)
    (hwrite : w.files.write (path.route host.cwd) text.toUTF8 = .ok tree) :
    (writeVersion path version depth).exec host lane w =
      (.ok (), { w.record (.read lane path w.files) with files := tree }) := by
  have hrecorded : (w.record (.read lane path w.files)).files = w.files := rfl
  rw [writeVersion, Script.exec_bind, h.exec_load]
  simp only [htext, writeString, writeBytes, files, Script.exec, Request.perform, hrecorded, hwrite,
    World.update_ok]

/-- Of a manifest with whole numbers and no lone halves, writing a version loses nothing: the file is
read as what it was, but for the version, which has its old position or else is the last field, and
it is the same file whatever version was written into it before. A manifest that is not read is not
written. -/
theorem keeps_of_writeVersion (hsharing : w.files.SharesAlike) (version : String) :
    (∀ manifest v, (load path (depth - 1)).exec host lane w = (.ok manifest, v) →
      IsWhole (.obj manifest) → IsPaired (.obj manifest) →
      ∃ w' after, (writeVersion path version depth).exec host lane w = (.ok (), w') ∧
        Fields.Sets (Text.ofString "version") (.str (Text.ofString version)) manifest after ∧
        (∀ depth v, (load path depth).exec host lane w = (.ok manifest, v) →
          ∃ v', (load path depth).exec host lane w' = (.ok after, v')) ∧
        ∀ earlier, ∃ w₁ w₂, (writeVersion path earlier depth).exec host lane w = (.ok (), w₁) ∧
          (writeVersion path version depth).exec host lane w₁ = (.ok (), w₂) ∧
          ∀ place, w₂.files.get? place = w'.files.get? place) ∧
    ∀ cause v, (load path (depth - 1)).exec host lane w = (.error cause, v) →
      (writeVersion path version depth).exec host lane w = (.error cause, v) ∧
        v.files = w.files := by
  refine ⟨fun manifest v hload hwhole hpaired => ?_, fun cause v hload => ?_⟩
  · obtain ⟨hheld, _⟩ := Manifest.exec_load hload
    obtain ⟨content, hfile⟩ := hheld.find?
    obtain ⟨text, htext⟩ := toString?_withVersion hpaired version
    obtain ⟨tree, hwrite, htwice⟩ := hsharing.write_file hfile text.toUTF8
    refine ⟨_, _, hheld.exec_writeVersion htext hwrite, Fields.sets_set _ _ _,
      fun depth v hload => ?_, fun earlier => ?_⟩
    · have hafter := (Manifest.exec_load hload).1.of_write hsharing htext hwrite
      rw [updated_of_isWhole hwhole] at hafter
      exact ⟨_, HeldBy.exec_load hafter⟩
    · obtain ⟨before, hbefore⟩ := toString?_withVersion hpaired earlier
      obtain ⟨first, second, hfirst, hsecond, hsame⟩ := htwice before.toUTF8
      have hheld' := hheld.of_write hsharing hbefore hfirst
      rw [updated_of_isWhole hwhole] at hheld'
      refine ⟨_, _, hheld.exec_writeVersion hbefore hfirst,
        HeldBy.exec_writeVersion (w := { w.record (.read lane path w.files) with files := first })
          hheld' ?_ hsecond, hsame⟩
      rw [withVersion, Fields.set_set]
      exact htext
  · refine ⟨exec_bind_error.2 (.inl hload), ?_⟩
    have hfiles := (looks_load (fun _ => False) path (depth - 1)).files_exec host lane w
    rwa [hload] at hfiles

def lone (text : String) : World where
  files := { entries := [([fileName], .file text.toUTF8)] }

theorem sharesAlike_lone (text : String) : (lone text).files.SharesAlike :=
  FileTree.sharesAlike_of_twins rfl

def bare : Host where
  runner := ⟨fun _ tree _ => (.error .interrupted, tree)⟩
  cwd := []
  temporary := ⟨1, []⟩
  randomNames := []

def nested (version : Fields) : Fields :=
  (Text.ofString "name", .str (Text.ofString "kit")) :: version ++
    [(Text.ofString "bin", .obj [(Text.ofString "kit", .arr [.int 1, .null])])]

def versionField (version : String) : Text × Json :=
  (Text.ofString "version", .str (Text.ofString version))

theorem isWhole_nested {version : Fields} (h : ∀ field ∈ version, IsWhole field.2) :
    IsWhole (.obj (nested version)) := by
  have hitems : IsWhole (.arr [.int 1, .null]) :=
    .arr (List.forall_mem_cons.2 ⟨.int 1, List.forall_mem_singleton.2 .null⟩)
  refine .obj (List.forall_mem_cons.2 ⟨.str _, List.forall_mem_append.2 ⟨h, ?_⟩⟩)
  exact List.forall_mem_singleton.2 (.obj (List.forall_mem_singleton.2 hitems))

theorem isPaired_nested {version : Fields} (hkeys : ∀ field ∈ version, field.1.IsPaired)
    (hfields : ∀ field ∈ version, IsPaired field.2) : IsPaired (.obj (nested version)) := by
  have hitems : IsPaired (.arr [.int 1, .null]) :=
    .arr (List.forall_mem_cons.2 ⟨.int 1, List.forall_mem_singleton.2 .null⟩)
  refine .obj (List.forall_mem_cons.2 ⟨.of_string _, List.forall_mem_append.2 ⟨hkeys, ?_⟩⟩)
    (List.forall_mem_cons.2 ⟨.str (.of_string _), List.forall_mem_append.2 ⟨hfields, ?_⟩⟩)
  · exact List.forall_mem_singleton.2 (.of_string _)
  · exact List.forall_mem_singleton.2
      (.obj (List.forall_mem_singleton.2 (.of_string _)) (List.forall_mem_singleton.2 hitems))

def Rewritten (text : String) (before after : Fields) : Prop :=
  ∃ v w' v', (load ⟨1, [fileName]⟩ (depthLimit - 1)).exec bare .main (lone text) = (.ok before, v) ∧
    (writeVersion ⟨1, [fileName]⟩ "0.2.0").exec bare .main (lone text) = (.ok (), w') ∧
    (load ⟨1, [fileName]⟩ (depthLimit - 1)).exec bare .main w' = (.ok after, v')

/-- A version keeps its place among the fields, and a new one comes last. -/
theorem keeps_of_writeVersion_nested :
    Rewritten "\x7b\"name\":\"kit\",\"version\":\"0.1.0\",\"bin\":\x7b\"kit\":[1,null]\x7d\x7d"
      (nested [versionField "0.1.0"]) (nested [versionField "0.2.0"]) ∧
    Rewritten "\x7b\"name\":\"kit\",\"bin\":\x7b\"kit\":[1,null]\x7d\x7d"
      (nested []) (nested [] ++ [versionField "0.2.0"]) := by
  have rewritten {text : String} {before after : Fields} (hreturn : '\r' ∉ text.toList)
      (hread : Json.read text.toList (depthLimit - 1) = .ok (.obj before))
      (hwhole : IsWhole (.obj before)) (hpaired : IsPaired (.obj before))
      (hafter : before.set (Text.ofString "version") (.str (Text.ofString "0.2.0")) = after) :
      Rewritten text before after := by
    have hheld : HeldBy before (lone text).files ((⟨1, [fileName]⟩ : Path).route bare.cwd)
        (depthLimit - 1) := ⟨_, text, "", rfl, Text.decode?_toUTF8 hreturn, by rw [parse, hread]⟩
    have hload : (load ⟨1, [fileName]⟩ (depthLimit - 1)).exec bare .main (lone text) = _ :=
      hheld.exec_load
    obtain ⟨w', after', hwrite, hsets, hloads, _⟩ :=
      (keeps_of_writeVersion (sharesAlike_lone text) "0.2.0").1 _ _ hload hwhole hpaired
    obtain ⟨v', hlater⟩ := hloads _ _ hload
    obtain rfl : after' = after := hsets.eq_set.trans hafter
    exact ⟨_, w', v', hload, hwrite, hlater⟩
  constructor
  · exact rewritten (by decide) (by cbv) (isWhole_nested (List.forall_mem_singleton.2 (.str _)))
      (isPaired_nested (List.forall_mem_singleton.2 (.of_string _))
        (List.forall_mem_singleton.2 (.str (.of_string _)))) rfl
  · have hnone {holds : Text × Json → Prop} : ∀ field ∈ ([] : Fields), holds field :=
      fun _ hmem => absurd hmem List.not_mem_nil
    exact rewritten (by decide) (by cbv) (isWhole_nested hnone) (isPaired_nested hnone hnone) rfl

end Manifest

end NextRelease
