import NextRelease.Package.Manifest
import NextRelease.Proofs.Run.Course
import NextRelease.Proofs.Text.Increasing
import NextRelease.Proofs.Version.RoundTrip

/-! Manifests as the files of a tree hold them, and the versions and the entry points that they
declare. -/

namespace NextRelease.Manifest

/-- The version that a manifest declares; an absent one and `null` are none. -/
inductive Declares (manifest : Fields) : Option Version → Prop where
  | absent : manifest.get? (Text.ofString "version") = none → Declares manifest none
  | null : manifest.get? (Text.ofString "version") = some .null → Declares manifest none
  | text {t : Text} {s : String} {v : Version} :
      manifest.get? (Text.ofString "version") = some (.str t) → t.toString? = some s →
        Version.parse? s = some v → Declares manifest (some v)

theorem declares_of_declaredVersion {manifest : Fields} {source : String}
    {declared : Option String} (h : declaredVersion manifest source = .ok declared) :
    ∃ version, Declares manifest version ∧
      declared = version.map fun v => String.ofList v.render := by
  unfold declaredVersion at h
  split at h
  · next hget =>
    cases h
    exact ⟨none, .absent hget, rfl⟩
  · next hget =>
    cases h
    exact ⟨none, .null hget, rfl⟩
  · next value hnull hget =>
    cases value with
    | str t =>
      cases hs : t.toString? with
      | none => simp [hs] at h
      | some s =>
        cases hv : Version.parse? s with
        | none => simp [hs, hv] at h
        | some v =>
          simp only [hs, Option.bind_some, hv, Except.ok.injEq] at h
          exact ⟨some v, .text hget hs hv, h.symm⟩
    | _ => simp at h

theorem declaredVersion_of_declares {manifest : Fields} {version : Option Version}
    (source : String) (h : Declares manifest version) :
    declaredVersion manifest source = .ok (version.map fun v => String.ofList v.render) := by
  cases h with
  | absent hget => simp [declaredVersion, hget]
  | null hget => simp [declaredVersion, hget]
  | text hget hs hv => simp [declaredVersion, hget, hs, hv]

theorem Declares.unique {manifest : Fields} {version other : Option Version}
    (h : Declares manifest version) (h' : Declares manifest other) : version = other := by
  cases h <;> cases h' <;> simp_all

theorem Declares.isPrintable {manifest : Fields} {version : Option Version}
    (h : Declares manifest version) : ∀ v ∈ version, v.isPrintable := by
  rintro v hmem
  cases h with
  | absent hget => cases hmem
  | null hget => cases hmem
  | text hget hs hv =>
    cases hmem
    exact Version.isPrintable_of_parse? hv

/-- The manifest that a file holds, nested at most so many levels deep. -/
def HeldBy (manifest : Fields) (tree : FileTree) (route : Route) (depth : Nat) : Prop :=
  ∃ bytes text source, tree.read route = .ok bytes ∧ Text.decode? bytes = some text ∧
    parse text source depth = .ok manifest

theorem read_of_parse {text source : String} {depth : Nat} {manifest : Fields}
    (h : parse text source depth = .ok manifest) :
    Json.read text.toList depth = .ok (.obj manifest) := by
  unfold parse at h
  split at h
  · next fields hread =>
    cases h
    exact hread
  · cases h
  · cases h
  · cases h
  · cases h

theorem HeldBy.unique {manifest other : Fields} {tree : FileTree} {route : Route} {depth : Nat}
    (h : HeldBy manifest tree route depth) (h' : HeldBy other tree route depth) :
    manifest = other := by
  obtain ⟨bytes, text, source, hread, hdecode, hparse⟩ := h
  obtain ⟨bytes', text', source', hread', hdecode', hparse'⟩ := h'
  obtain rfl : bytes = bytes' := Except.ok.inj (hread.symm.trans hread')
  obtain rfl : text = text' := Option.some.inj (hdecode.symm.trans hdecode')
  exact Json.obj.inj (Except.ok.inj ((read_of_parse hparse).symm.trans (read_of_parse hparse')))

theorem course_load {host : Host} {lane : Lane} {path : Path} {depth : Nat} {manifest : Fields}
    {record : List Event} (h : (load path depth).Course host lane record (.ok manifest)) :
    ∃ tree, record = [.read lane path tree] ∧
      HeldBy manifest tree (path.route host.cwd) depth := by
  obtain ⟨front, found, rest, rfl, hfront, hrest⟩ := Script.course_bind_ok.1 h
  rw [Script.course_isFile hfront, List.nil_append]
  cases found with
  | false => exact nomatch (Script.course_fail.1 hrest).2
  | true =>
    obtain ⟨middle, text, last, rfl, hmiddle, hlast⟩ := Script.course_bind_ok.1 hrest
    obtain ⟨tree, bytes, rfl, hbytes, htext⟩ := Script.course_readText hmiddle
    obtain ⟨rfl, hparse⟩ := Script.course_ofExcept.1 hlast
    exact ⟨tree, rfl, bytes, text, _, hbytes, htext, hparse.symm⟩

theorem exec_load {host : Host} {lane : Lane} {path : Path} {depth : Nat} {manifest : Fields}
    {w w' : World} (h : (load path depth).exec host lane w = (.ok manifest, w')) :
    HeldBy manifest w.files (path.route host.cwd) depth ∧ w'.files = w.files := by
  obtain ⟨found, v, hfound, h⟩ := Script.exec_bind_ok.1 h
  obtain rfl := Script.exec_isFile hfound
  cases found with
  | false => cases h
  | true =>
    obtain ⟨text, u, htext, hparse⟩ := Script.exec_bind_ok.1 h
    obtain ⟨bytes, hread, hdecode, hfiles⟩ := Script.exec_readText htext
    simp only [Script.exec_ofExcept, Prod.mk.injEq] at hparse
    obtain ⟨hparse, rfl⟩ := hparse
    exact ⟨⟨bytes, text, _, hread, hdecode, hparse⟩, hfiles⟩

/-! ## Scripts -/

def IsScripted (manifest : Fields) (name : Text) : Prop :=
  ∃ scripts value, manifest.get? (Text.ofString "scripts") = some (.obj scripts) ∧
    Fields.get? name scripts = some value ∧ value.isTruthy

theorem hasScript_iff {manifest : Fields} {name : Text} :
    hasScript manifest name ↔ IsScripted manifest name := by
  unfold hasScript IsScripted
  dsimp only
  cases hscripts : manifest.get? (Text.ofString "scripts") with
  | none => simp [fieldsOf, Fields.get?, Json.isTruthy]
  | some value =>
    cases value with
    | obj scripts =>
      cases hvalue : Fields.get? name scripts <;> simp [fieldsOf, hvalue, Json.isTruthy]
    | _ => simp [fieldsOf, Fields.get?, Json.isTruthy]

/-! ## Entry points -/

/-- A name has no slash at its two ends, and it is no pattern. -/
structure IsPlain (entry : Text) : Prop where
  star : .scalar '*' ∉ entry
  head : entry.head? ≠ some (.scalar '/')
  last : entry.getLast? ≠ some (.scalar '/')

theorem isPlain_nil : IsPlain [] := ⟨by simp, by simp, by simp⟩

theorem isPlain_trimSlashes {t : Text} (h : .scalar '*' ∉ t) : IsPlain (trimSlashes t) := by
  have hfront : trimSlashes t <+: t.dropWhile (· == .scalar '/') :=
    List.reverse_suffix.1 (by simpa [trimSlashes] using List.dropWhile_suffix _)
  have hstart := List.head?_dropWhile_not (· == CodePoint.scalar '/') t
  have hend := List.head?_dropWhile_not (· == CodePoint.scalar '/')
    (t.dropWhile (· == CodePoint.scalar '/')).reverse
  refine ⟨fun hstar => h (List.dropWhile_subset _ (hfront.subset hstar)), fun hhead => ?_,
    fun hlast => ?_⟩
  · obtain ⟨entry, hentry⟩ := List.head?_eq_some_iff.1 hhead
    obtain ⟨rest, hrest⟩ := hfront
    rw [← hrest, hentry] at hstart
    simp at hstart
  · rw [trimSlashes, List.getLast?_reverse] at hlast
    rw [hlast] at hend
    simp at hend

theorem isPlain_entryOfKey? {key entry : Text} (h : entryOfKey? key = some entry) :
    IsPlain entry := by
  unfold entryOfKey? at h
  split at h
  · cases h
  · next hstar =>
    have hstar : .scalar '*' ∉ key := by simpa using hstar
    split at h
    · cases h
      exact isPlain_nil
    · cases h
      apply isPlain_trimSlashes
      split
      · next rest _ => exact fun hmem => hstar (by simp [hmem])
      · exact hstar

theorem isTyped_iff {value : Json} :
    isTyped value ↔ ∃ fields : Fields, value = .obj fields ∧ Text.ofString "types" ∈ fields.keys := by
  rw [isTyped, Fields.contains_iff]
  cases value with
  | obj fields => simp [fieldsOf]
  | _ => simp [fieldsOf, Fields.keys]

def HasSubpath (exported : Fields) : Prop := ∃ key ∈ exported.keys, isSubpath key

/-- An export map of entry points has one of a name: under a key that stands for the name it has an
object with types. -/
def ExportsEntry (manifest : Fields) (entry : Text) : Prop :=
  ∃ exported, manifest.get? (Text.ofString "exports") = some (.obj exported) ∧ HasSubpath exported ∧
    ∃ key fields, (key, Json.obj fields) ∈ exported ∧ Text.ofString "types" ∈ Fields.keys fields ∧
      entryOfKey? key = some entry

/-- The entry points that a manifest declares. -/
inductive DeclaresEntry (manifest : Fields) : Text → Prop where
  | types : Text.ofString "types" ∈ manifest.keys → DeclaresEntry manifest []
  | typings : Text.ofString "typings" ∈ manifest.keys → DeclaresEntry manifest []
  | exports {entry : Text} : ExportsEntry manifest entry → DeclaresEntry manifest entry
  | conditions {exported : Fields} :
      manifest.get? (Text.ofString "exports") = some (.obj exported) → ¬HasSubpath exported →
        Text.ofString "types" ∈ exported.keys → DeclaresEntry manifest []

theorem mem_exportedEntries {exported : Fields} {entry : Text} :
    entry ∈ exportedEntries exported ↔
      (HasSubpath exported ∧ ∃ key fields, (key, Json.obj fields) ∈ exported ∧
        Text.ofString "types" ∈ Fields.keys fields ∧ entryOfKey? key = some entry) ∨
      (¬HasSubpath exported ∧ Text.ofString "types" ∈ exported.keys ∧ entry = []) := by
  have hsubpath : (exported.any fun field => isSubpath field.1) ↔ HasSubpath exported := by
    simp [HasSubpath, Fields.keys]
  unfold exportedEntries
  by_cases h : HasSubpath exported
  · rw [if_pos (hsubpath.2 h), List.mem_filterMap]
    simp only [h, true_and, not_true_eq_false, false_and, or_false]
    constructor
    · rintro ⟨⟨key, value⟩, hmem, hentry⟩
      split at hentry
      · next htyped =>
        obtain ⟨fields, rfl, htypes⟩ := isTyped_iff.1 htyped
        exact ⟨key, fields, hmem, htypes, hentry⟩
      · cases hentry
    · rintro ⟨key, fields, hmem, htypes, hentry⟩
      exact ⟨(key, .obj fields), hmem, (if_pos (isTyped_iff.2 ⟨fields, rfl, htypes⟩)).trans hentry⟩
  · rw [if_neg (mt hsubpath.1 h)]
    simp only [Fields.contains_iff, h, false_and, not_false_eq_true, true_and, false_or]
    split
    · next htypes => simp [htypes]
    · next htypes => simp [htypes]

theorem entryPoints_eq (manifest : Fields) :
    ∃ declared, (∀ entry, entry ∈ declared ↔ DeclaresEntry manifest entry) ∧
      entryPoints manifest = match SortedSet.ofList declared with
        | [] => [[]]
        | entries => entries := by
  refine ⟨_, fun entry => ?_, rfl⟩
  rw [List.mem_append]
  constructor
  · rintro (hroot | hexported)
    · split at hroot
      · next hkeys =>
        obtain rfl := List.mem_singleton.1 hroot
        rw [Bool.or_eq_true, Fields.contains_iff, Fields.contains_iff] at hkeys
        exact hkeys.elim .types .typings
      · cases hroot
    · cases hget : manifest.get? (Text.ofString "exports") with
      | none => simp [hget, fieldsOf, exportedEntries, Fields.contains, Fields.get?] at hexported
      | some value =>
        rw [hget, Option.getD_some, mem_exportedEntries] at hexported
        cases value with
        | obj exported =>
          rcases hexported with ⟨hsubpath, hentry⟩ | ⟨hconditions, htypes, rfl⟩
          · exact .exports ⟨exported, hget, hsubpath, hentry⟩
          · exact .conditions hget hconditions htypes
        | _ => simp [fieldsOf, Fields.keys] at hexported
  · intro h
    cases h with
    | types htypes => exact .inl (by simp [Fields.contains_iff, htypes])
    | typings htypings => exact .inl (by simp [Fields.contains_iff, htypings])
    | exports h =>
      obtain ⟨exported, hget, hsubpath, hentry⟩ := h
      rw [hget]
      exact .inr (mem_exportedEntries.2 (.inl ⟨hsubpath, hentry⟩))
    | conditions hget hconditions htypes =>
      rw [hget]
      exact .inr (mem_exportedEntries.2 (.inr ⟨hconditions, htypes, rfl⟩))

theorem mem_entryPoints {manifest : Fields} {entry : Text} :
    entry ∈ entryPoints manifest ↔
      DeclaresEntry manifest entry ∨ entry = [] ∧ ∀ other, ¬DeclaresEntry manifest other := by
  obtain ⟨declared, hdeclared, heq⟩ := entryPoints_eq manifest
  have hsorted (other : Text) : other ∈ declared ↔ other ∈ SortedSet.ofList declared :=
    SortedSet.mem_ofList.symm
  simp only [heq, ← hdeclared, hsorted]
  split
  · next hnil => simp [hnil]
  · next hne =>
    obtain ⟨other, hother⟩ := List.exists_mem_of_ne_nil _ hne
    constructor
    · exact .inl
    · rintro (hmem | ⟨_, hnone⟩)
      · exact hmem
      · exact absurd hother (hnone other)

theorem increasing_entryPoints (manifest : Fields) : SortedSet.Increasing (entryPoints manifest) := by
  obtain ⟨declared, _, heq⟩ := entryPoints_eq manifest
  rw [heq]
  split
  · exact List.pairwise_singleton _ _
  · exact SortedSet.increasing_ofList declared

theorem DeclaresEntry.isPlain {manifest : Fields} {entry : Text} (h : DeclaresEntry manifest entry) :
    IsPlain entry := by
  cases h with
  | exports h =>
    obtain ⟨_, _, _, _, _, _, _, hentry⟩ := h
    exact isPlain_entryOfKey? hentry
  | _ => exact isPlain_nil

theorem DeclaresEntry.mono {manifest manifest' : Fields} {entry : Text}
    (h : DeclaresEntry manifest entry) (hkeys : ∀ key ∈ manifest.keys, key ∈ manifest'.keys)
    (hexports : ∀ exported, manifest.get? (Text.ofString "exports") = some (.obj exported) →
      ∃ exported', manifest'.get? (Text.ofString "exports") = some (.obj exported') ∧
        exported'.Perm exported) : DeclaresEntry manifest' entry := by
  cases h with
  | types htypes => exact .types (hkeys _ htypes)
  | typings htypings => exact .typings (hkeys _ htypings)
  | exports h =>
    obtain ⟨exported, hget, ⟨sub, hsub, hdot⟩, key, fields, hmem, hentry⟩ := h
    obtain ⟨exported', hget', hperm⟩ := hexports exported hget
    have hkey : sub ∈ Fields.keys exported' := (hperm.map Prod.fst).mem_iff.2 hsub
    exact .exports ⟨exported', hget', ⟨sub, hkey, hdot⟩, key, fields, hperm.mem_iff.2 hmem, hentry⟩
  | conditions hget hconditions htypes =>
    obtain ⟨exported', hget', hperm⟩ := hexports _ hget
    have hkeys' (key : Text) : key ∈ Fields.keys exported' ↔ key ∈ Fields.keys _ :=
      (hperm.map Prod.fst).mem_iff
    refine .conditions hget' ?_ ((hkeys' _).2 htypes)
    rintro ⟨sub, hsub, hdot⟩
    exact hconditions ⟨sub, (hkeys' sub).1 hsub, hdot⟩

theorem entryPoints_congr {manifest manifest' : Fields}
    (h : ∀ entry, DeclaresEntry manifest' entry ↔ DeclaresEntry manifest entry) :
    entryPoints manifest' = entryPoints manifest :=
  (increasing_entryPoints manifest').eq (increasing_entryPoints manifest) fun entry => by
    simp only [mem_entryPoints, h]

theorem entryPoints_perm {manifest manifest' : Fields} (h : manifest.keys.Nodup)
    (hperm : manifest'.Perm manifest) : entryPoints manifest' = entryPoints manifest := by
  have hget := Fields.get?_perm h hperm (Text.ofString "exports")
  have hkeys (key : Text) : key ∈ Fields.keys manifest' ↔ key ∈ manifest.keys :=
    (hperm.map Prod.fst).mem_iff
  refine entryPoints_congr fun entry => ⟨fun hentry => ?_, fun hentry => ?_⟩
  · exact hentry.mono (fun key => (hkeys key).1) fun exported hexported =>
      ⟨exported, hget.symm.trans hexported, .refl _⟩
  · exact hentry.mono (fun key => (hkeys key).2) fun exported hexported =>
      ⟨exported, hget.trans hexported, .refl _⟩

theorem entryPoints_set_perm {manifest exported exported' : Fields}
    (hget : manifest.get? (Text.ofString "exports") = some (.obj exported))
    (hperm : exported'.Perm exported) :
    entryPoints (manifest.set (Text.ofString "exports") (.obj exported')) = entryPoints manifest := by
  have hset : (manifest.set (Text.ofString "exports") (.obj exported')).get? (Text.ofString "exports") =
      some (.obj exported') := by rw [Fields.get?_set, if_pos rfl]
  have hkeys : (manifest.set (Text.ofString "exports") (.obj exported')).keys = manifest.keys := by
    rw [Fields.keys_set, if_pos]
    rw [← Fields.contains_iff, Fields.contains, hget]
    rfl
  refine entryPoints_congr fun entry => ⟨fun hentry => ?_, fun hentry => ?_⟩
  · refine hentry.mono (fun key => hkeys ▸ id) fun other hother => ⟨exported, hget, ?_⟩
    cases hset.symm.trans hother
    exact hperm.symm
  · refine hentry.mono (fun key => hkeys ▸ id) fun other hother => ⟨exported', hset, ?_⟩
    cases hget.symm.trans hother
    exact hperm

theorem entryPoints_declared (manifest : Fields) :
    entryPoints manifest ≠ [] ∧ SortedSet.Increasing (entryPoints manifest) ∧
    (∀ entry, entry ≠ [] → (entry ∈ entryPoints manifest ↔ ExportsEntry manifest entry)) ∧
    ([] ∈ entryPoints manifest ↔
      DeclaresEntry manifest [] ∨ ∀ entry, ¬DeclaresEntry manifest entry) ∧
    (∀ entry ∈ entryPoints manifest, IsPlain entry) ∧
    (manifest.keys.Nodup → ∀ manifest' : Fields, manifest'.Perm manifest →
      entryPoints manifest' = entryPoints manifest) ∧
    ∀ exported exported' : Fields,
      manifest.get? (Text.ofString "exports") = some (.obj exported) → exported'.Perm exported →
        entryPoints (manifest.set (Text.ofString "exports") (.obj exported')) =
          entryPoints manifest := by
  have hmem (entry : Text) : entry ∈ entryPoints manifest ↔
      DeclaresEntry manifest entry ∨ entry = [] ∧ ∀ other, ¬DeclaresEntry manifest other :=
    mem_entryPoints
  refine ⟨fun hnil => ?_, increasing_entryPoints manifest, fun entry hne => ?_, ?_,
    fun entry hentry => ?_, fun hkeys _ => entryPoints_perm hkeys, fun _ _ => entryPoints_set_perm⟩
  · simp only [hnil, List.not_mem_nil, false_iff, not_or, not_and] at hmem
    exact (hmem []).2 rfl fun entry => (hmem entry).1
  · rw [hmem]
    constructor
    · rintro (hdeclared | ⟨rfl, _⟩)
      · cases hdeclared with
        | exports h => exact h
        | _ => exact absurd rfl hne
      · exact absurd rfl hne
    · exact fun h => .inl (.exports h)
  · rw [hmem, and_iff_right rfl]
  · rcases (hmem entry).1 hentry with hdeclared | ⟨rfl, _⟩
    · exact hdeclared.isPlain
    · exact isPlain_nil

theorem entryPoints_declared_reversed :
    let typed : Json := .obj [(Text.ofString "types", .null)]
    let exported : Fields := [(Text.ofString "./b/", typed), (Text.ofString "./*", typed),
      (Text.ofString "b", typed), (Text.ofString "./a", typed), (Text.ofString "./c", .null)]
    let manifest : Fields :=
      [(Text.ofString "exports", .obj exported), (Text.ofString "typings", .null)]
    manifest.keys.Nodup ∧ ExportsEntry manifest (Text.ofString "b") ∧
    entryPoints manifest = [[], Text.ofString "a", Text.ofString "b"] ∧
    entryPoints manifest.reverse = entryPoints manifest ∧
    entryPoints (manifest.set (Text.ofString "exports") (.obj exported.reverse)) =
      entryPoints manifest := by
  intro typed exported manifest
  have hkeys : manifest.keys.Nodup := by decide
  have hentries : entryPoints manifest = [[], Text.ofString "a", Text.ofString "b"] := by rfl
  obtain ⟨_, _, hentry, _, _, hperm, hset⟩ := entryPoints_declared manifest
  have hb : Text.ofString "b" ∈ entryPoints manifest := by simp [hentries]
  exact ⟨hkeys, (hentry _ (by decide)).1 hb, hentries, hperm hkeys _ (List.reverse_perm _),
    hset exported _ rfl (List.reverse_perm _)⟩

end NextRelease.Manifest
